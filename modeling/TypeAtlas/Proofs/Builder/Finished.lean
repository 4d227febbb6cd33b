import TypeAtlas.Program.Builder.Composite
import TypeAtlas.Proofs.Builder.Generic
import TypeAtlas.Proofs.Program.Finishing

/-!
Declarations, written types, type parameters and instantiations leave no question open.
-/

namespace TypeAtlas

open Build

/-- A place that is changed where nothing has to be retained. -/
theorem Site.retains_of_same {s t : Site} (kind : t.kind = s.kind) (symbol : t.symbol = s.symbol)
    (type : t.type = s.type) (initializer : t.initializer = s.initializer)
    (expression : t.expression = s.expression) (answers : t.answers = s.answers) : s.Retains t := by
  refine ⟨kind, ?_, fun _ => symbol, ?_, ?_, ?_, ?_, ?_⟩
  · rw [symbol]
    exact id
  · rw [type]
    exact id
  · rw [initializer]
    exact id
  · rw [expression]
    exact id
  · rw [answers]
    exact id
  · rw [answers]
    exact id

/-- The kinds of places that stand for what is declared, and of which no more is asked. -/
def SiteKind.isPlain (kind : SiteKind) : Bool := !kind.isExpression && !kind.isMember

namespace Build

open Program

/-- There is a place of the kind. -/
def Stands (q : Program) (site : SiteId) (kind : SiteKind) : Prop :=
  site.index < q.sites.size ∧ (q.site site).kind = kind

theorem Stands.later {q r : Program} {site : SiteId} {kind : SiteKind} (stands : Stands q site kind)
    (retains : q.Retains r) : Stands r site kind :=
  ⟨Nat.lt_of_lt_of_le stands.1 retains.sites, (retains.site site stands.1).kind.trans stands.2⟩

variable {q : Program} (whole : q.Whole)
include whole

theorem finishes_giveType {site written : SiteId} (answered : q.Answered written) :
    finishing.Keeps q (setSite site ({ · with type := some written })) fun r _ =>
      r = q.modifySite site ({ · with type := some written }) ∧
        (site.index < q.sites.size → (r.site site).type ≠ none) := by
  refine (finishes_setSite whole (f := fun s => { s with type := some written })
    (fun s => ⟨rfl, fun held => held, fun _ => rfl, fun _ => nofun, fun held => held,
      fun held => held, fun held => held, fun held => held⟩)
    fun place => { place with type := ?_ }).weaken ?_
  · rintro _ ⟨⟩
    exact answered
  · rintro _ _ - - rfl
    refine ⟨rfl, fun inside => ?_⟩
    rw [site_modifySite, if_pos ⟨rfl, inside⟩]
    nofun

theorem finishes_giveSymbol {site : SiteId} (symbol : SymbolId)
    (apart : (q.site site).kind.isExpression = false)
    (member : (q.site site).kind.isMember = true → (q.symbol symbol).isShown = true) :
    finishing.Keeps q (setSite site ({ · with symbol := some symbol })) fun r _ =>
      r = q.modifySite site ({ · with symbol := some symbol }) ∧
        (site.index < q.sites.size → (r.site site).symbol ≠ none) := by
  have retains : (q.site site).Retains { q.site site with symbol := some symbol } := by
    refine ⟨rfl, fun _ => by rintro ⟨⟩, fun kind => ?_, fun held => held, fun held => held, fun held => held,
      fun held => held, fun held => held⟩
    rw [apart] at kind
    cases kind
  have new : SiteWhole q { q.site site with symbol := some symbol } := by
    refine { whole.sites site with named := fun kind => ?_, member := ?_ }
    · change (q.site site).kind.isExpression = true at kind
      rw [apart] at kind
      cases kind
    · rintro kind _ ⟨⟩
      exact member kind
  refine Course.write (modify_apply _ q) (whole.modifySite retains new)
    ⟨retains_modifySite retains, finishes_of_sizes (retains_modifySite retains) rfl
      (by simp [modifySite])⟩ ⟨rfl, fun inside => ?_⟩
  rw [site_modifySite, if_pos ⟨rfl, inside⟩]
  rintro ⟨⟩

/-- A change at a place that tells nothing. -/
theorem finishes_arrange {site : SiteId} {f : Site → Site} (retains : ∀ s : Site, s.Retains (f s))
    (new : SiteWhole q (q.site site) → SiteWhole q (f (q.site site))) :
    finishing.Keeps q (setSite site f) fun _ _ => True :=
  (finishes_setSite whole retains new).weaken fun _ _ _ _ _ => trivial

theorem finishes_source (fileName : String) :
    finishing.Keeps q (source fileName) fun r _ => r.symbols = q.symbols := by
  apply Course.get_bind
  split
  · exact Course.pure whole rfl
  · refine Course.bind (finishes_newSite whole (siteWhole_fresh _ _ _ _ _ nofun fun _ => rfl) rfl) ?_
    rintro id r wholeR - ⟨rfl, -⟩
    refine Course.bind (finishes_modify wholeR rfl rfl rfl rfl rfl fun _ => .inl) ?_
    rintro _ t wholeT - rfl
    exact Course.pure wholeT rfl

structure Announced (q : Program) (kind : SiteKind) (flags : SymbolFlags) (symbol : SymbolId)
    (site : SiteId) : Prop where
  stands : Stands q site kind
  owned : (q.site site).symbol ≠ none
  there : symbol.index < q.symbols.size
  flagged : (q.symbol symbol).flags = flags
  first : (q.symbol symbol).declarations.first? = some site
  fresh : (q.symbol symbol).valueDeclaration = none

omit whole in
theorem symbolWhole_announced (name : String) (flags : SymbolFlags) (site : SiteId)
    (value : Option SiteId) (doc : Option String)
    (titled : flags.contains .typeAlias || flags.contains .variableKind → name ≠ "") :
    SymbolWhole q
      { name, flags, declarations := Slots.of [site], valueDeclaration := value,
        documentation := docList doc } where
  documentation := by
    unfold docList
    split
    · split
      · exact Slots.full_of []
      · exact Slots.full_of _
    · exact Slots.full_of []
  exports := Slots.full_of []
  statics _ _ held := nomatch held
  constructors := nofun
  value := nofun
  declared := nofun
  titled := titled

theorem fills_declare {kind : SiteKind} (plain : kind.isPlain = true) {name : String}
    (flags : SymbolFlags) (titled : flags.contains .typeAlias || flags.contains .variableKind → name ≠ "")
    (doc fileName : Option String) :
    filling.Keeps q (declare kind name flags doc fileName) fun r made =>
      Announced r kind flags made.1 made.2 ∧ q.Begins r (.symbol made.1) := by
  rw [SiteKind.isPlain, Bool.and_eq_true, Bool.not_eq_true', Bool.not_eq_true'] at plain
  obtain ⟨apart, member⟩ := plain
  apply Course.get_bind
  refine Course.bind (finishes_source whole _).relax ?_
  rintro parent r wholeR - ⟨-, first⟩
  have new : SiteWhole r { kind, name := some name, parent := some parent } :=
    siteWhole_fresh _ _ _ _ _ (fun held => by rw [apart] at held; cases held) fun _ => rfl
  refine Course.bind (finishes_newSite wholeR new ?_).relax ?_
  · cases kind <;> first | rfl | cases apart
  rintro site t wholeT - ⟨⟨-, -, made, inside⟩, second⟩
  refine Course.bind (fills_newSymbol wholeT (symbolWhole_announced _ _ _ _ _ titled)) ?_
  rintro symbol u wholeU - ⟨⟨sites, there, known⟩, begins⟩
  have kindU : (u.site site).kind = kind := by rw [Program.site, sites]; exact congrArg Site.kind made
  rw [← sites] at inside
  refine Course.bind (finishes_giveSymbol wholeU symbol (by rw [kindU, apart]) ?_).relax ?_
  · rw [kindU, member]
    rintro ⟨⟩
  rintro _ v wholeV retains ⟨⟨rfl, owned⟩, last⟩
  refine Course.pure wholeV ⟨⟨⟨?_, ?_⟩, owned inside, there, ?_, ?_, ?_⟩, ?_⟩
  · simpa [modifySite] using inside
  · exact (retains.site site inside).kind.trans kindU
  · exact congrArg Symbol.flags known
  · exact congrArg (fun s => s.declarations.first?) known
  · exact congrArg Symbol.valueDeclaration known
  · intro other different done
    exact last other (begins other different (second other (first other done)))

theorem finishes_setExports {exports : Slots SymbolId} (full : exports.Full) :
    finishing.Keeps q (setExports exports) fun _ _ => True := by
  apply Course.get_bind
  refine (finishes_setSymbol whole (f := fun s => { s with exports })
    ⟨rfl, fun _ => rfl, fun _ held => held, fun held => held⟩
    fun symbol => { symbol with exports := full, statics := fun nominal => ?_ }).weaken
      fun _ _ _ _ _ => trivial
  change (q.symbol q.moduleSymbol).isNominal = true at nominal
  rw [whole.plain] at nominal
  cases nominal

theorem finishes_addExport (symbol : SymbolId) :
    finishing.Keeps q (addExport symbol) fun _ _ => True := by
  have full := (whole.symbols q.moduleSymbol).exports
  apply Course.get_bind
  dsimp only
  refine Course.lift_bind whole fun exports _ => ?_
  split
  · exact Course.pure whole trivial
  · refine Course.lift_bind whole fun pushed made => ?_
    rw [Slots.push, full.each] at made
    cases made
    refine finishes_setExports whole (Slots.full_some ?_)
    simpa using full.whole

theorem finishes_pushExport (symbol : SymbolId) :
    finishing.Keeps q (pushExport symbol) fun _ _ => True := by
  have full := (whole.symbols q.moduleSymbol).exports
  apply Course.get_bind
  refine Course.lift_bind whole fun exports held => ?_
  refine finishes_setExports whole (Slots.full_some ?_)
  have gapless := full.whole
  rw [of_present held] at gapless
  simpa [Slots.slots] using gapless

theorem finishes_exportIf (exported : Bool) (symbol : SymbolId) :
    finishing.Keeps q (exportIf exported symbol) fun _ _ => True := by
  unfold exportIf
  split
  · exact finishes_addExport whole symbol
  · exact Course.pure whole trivial

omit whole in
theorem first_of_declarationOf {type : Option TypeId} {declared : Option SiteId}
    (asked : (do
      let symbol ← present (q.type (← present type)).symbol
      (q.symbol symbol).declarations.first) = .ok declared) :
    ∃ id symbol, type = some id ∧ (q.type id).symbol = some symbol ∧
      (q.symbol symbol).declarations.first? = declared := by
  obtain ⟨id, found, asked⟩ := of_except_bind_ok asked
  obtain ⟨symbol, held, asked⟩ := of_except_bind_ok asked
  refine ⟨id, symbol, of_present found, of_present held, ?_⟩
  obtain ⟨slots, listed, asked⟩ := of_except_bind_ok asked
  rw [Slots.first?, slots_of_each listed]
  cases slots with
  | nil => cases asked
  | cons slot rest =>
      cases asked
      rfl

omit whole in
theorem finishes_written (fuel : Nat) :
    (∀ {q type} parent, q.Whole → finishing.Keeps q (writtenFrom fuel type parent) fun r site =>
      r.Answered site) ∧
    (∀ {q types} parent, q.Whole → finishing.Keeps q (writtenEach fuel types parent)
      fun _ _ => True) := by
  induction fuel with
  | zero => exact ⟨fun _ whole => Course.throw whole _, fun _ whole => Course.throw whole _⟩
  | succ fuel ih =>
      constructor
      · intro q type parent whole
        unfold writtenFrom
        apply Course.get_bind
        refine Course.lift_bind whole fun id found => ?_
        -- every written place is made first, then given its parts, and told its type in the end
        have make {kind : SiteKind} (name : Option String) (plain : kind.isPlain = true) :
            finishing.Keeps q (newSite { kind, name, parent }) fun r site => Stands r site kind := by
          rw [SiteKind.isPlain, Bool.and_eq_true, Bool.not_eq_true', Bool.not_eq_true'] at plain
          refine (finishes_newSite whole (siteWhole_fresh kind name none parent none (by rintro - _ ⟨⟩)
            fun _ => rfl) ?_).weaken ?_
          · cases kind <;> first | rfl | cases plain.1
          · rintro r site - - ⟨-, -, made, inside⟩
            exact ⟨inside, congrArg Site.kind made⟩
        have tell {r : Program} (wholeR : r.Whole) {site : SiteId} {kind : SiteKind}
            (stands : Stands r site kind) (other : kind ≠ .functionDeclaration) :
            finishing.Keeps r (do bindSite (some site) id; pure site) fun t made => t.Answered made := by
          refine Course.bind (finishes_bindSite wholeR fun same => ?_) ?_
          · exact absurd (stands.2.symm.trans same) other
          · rintro _ t wholeT - ⟨-, answered⟩
            exact Course.pure wholeT (answered stands.1)
        dsimp only
        split
        · rename_i inferred
          refine Course.bind (make none rfl) fun site r wholeR grown stands => ?_
          obtain ⟨symbol, place, held, first, owned, -⟩ := grown.1.generic (whole.inferred id inferred)
          refine Course.ask_bind wholeR fun declared asked => ?_
          obtain ⟨_, named, ⟨⟩, same, known⟩ := first_of_declarationOf asked
          refine Course.bind (finishes_arrange wholeR (f := fun s => { s with typeParameter := declared })
            (fun s => Site.retains_of_same rfl rfl rfl rfl rfl rfl)
            fun site => { site with inferred := fun _ variableSite is => ?_ }) ?_
          · rw [held] at same
            cases same
            rw [first, show declared = some variableSite from is] at known
            cases known
            exact owned
          · intro _ t wholeT further _
            exact tell wholeT (stands.later further.1) (by rintro ⟨⟩)
        · split
          · exact Course.bind (make _ rfl) fun site r wholeR _ stands => tell wholeR stands (by rintro ⟨⟩)
          · split
            · refine Course.bind (make none rfl) fun site r wholeR _ stands => ?_
              refine Course.bind (ih.1 _ wholeR) fun child t wholeT grown answered => ?_
              refine Course.bind (finishes_giveType wholeT answered) fun _ u wholeU further _ => ?_
              exact tell wholeU ((stands.later grown.1).later further.1) (by rintro ⟨⟩)
            · split
              · refine Course.bind (make none rfl) fun site r wholeR _ stands => ?_
                refine Course.lift_bind wholeR fun types _ => ?_
                refine Course.bind (ih.2 _ wholeR) fun children t wholeT grown _ => ?_
                refine Course.bind (finishes_arrange wholeT
                  (f := fun s => { s with types := Slots.of children })
                  (fun s => Site.retains_of_same rfl rfl rfl rfl rfl rfl) fun site => { site with })
                  fun _ u wholeU further _ => ?_
                exact tell wholeU ((stands.later grown.1).later further.1) (by rintro ⟨⟩)
              · exact Course.bind (make none rfl) fun site r wholeR _ stands =>
                  tell wholeR stands (by rintro ⟨⟩)
      · intro q types parent whole
        cases types with
        | nil => exact Course.pure whole trivial
        | cons type rest =>
            refine Course.bind (ih.1 parent whole) fun first r wholeR _ _ => ?_
            refine Course.bind (ih.2 parent wholeR) fun others t wholeT _ _ => ?_
            exact Course.pure wholeT trivial

theorem finishes_writtenType (type : Option TypeId) (parent : Option SiteId) :
    finishing.Keeps q (writtenType type parent) fun r site => r.Answered site :=
  Course.get_bind ((finishes_written _).1 parent whole)

omit whole in
theorem typeWhole_fresh (flags : TypeFlags)
    (plain : [TypeFlag.stringLiteral, .numberLiteral, .conditional, .substitution].all
      (!flags.contains ·) = true) : TypeWhole q { flags } := by
  simp only [List.all_cons, List.all_nil, Bool.and_true, Bool.and_eq_true, Bool.not_eq_true'] at plain
  obtain ⟨text, number, conditional, substitution⟩ := plain
  refine ⟨Slots.full_of [], fun _ held => (nomatch held), Slots.full_of [], Slots.full_of [],
    List.not_mem_nil, List.not_mem_nil, List.not_mem_nil, ?_, ?_, ?_⟩
  · rintro (flagged | flagged)
    · rw [TypeInfo.hasFlag, text] at flagged
      cases flagged
    · rw [TypeInfo.hasFlag, number] at flagged
      cases flagged
  · intro flagged
    rw [TypeInfo.hasFlag, conditional] at flagged
    cases flagged
  · intro flagged
    rw [TypeInfo.hasFlag, substitution] at flagged
    cases flagged

theorem finishes_cached (key : LiteralKey) {type : TypeInfo} (new : TypeWhole q type) :
    finishing.Keeps q (cached key type) fun _ _ => True := by
  apply Course.get_bind
  split
  · exact Course.pure whole trivial
  · refine Course.bind (finishes_newType whole new) fun id r wholeR _ _ => ?_
    refine Course.bind (finishes_modify wholeR rfl rfl rfl rfl rfl fun _ => .inl) ?_
    exact fun _ t wholeT _ _ => Course.pure wholeT trivial

theorem finishes_literal (value : Literal) :
    finishing.Keeps q (literal (some value)) fun _ _ => True := by
  have none : TypeWhole q { flags := [] } := typeWhole_fresh [] rfl
  cases value with
  | bool truth => cases truth <;> exact Course.pure whole trivial
  | _ =>
      exact finishes_cached whole _
        { none with value := fun _ => nofun, conditional := nofun, substitution := nofun }

theorem finishes_bigintLiteral (digits : Option String) :
    finishing.Keeps q (bigintLiteral digits) fun _ _ => True :=
  finishes_cached whole _ { typeWhole_fresh [.bigintLiteral] rfl with value := nofun }

/-- A type that is made of others, and told nothing else. -/
theorem finishes_combine {type : TypeInfo} (new : TypeWhole q type) :
    finishing.Keeps q (newType type) fun _ _ => True :=
  (finishes_newType whole new).weaken fun _ _ _ _ _ => trivial

theorem finishes_union {types : List (Option TypeId)} (given : none ∉ types) :
    finishing.Keeps q (union types) fun _ _ => True :=
  finishes_combine whole { typeWhole_fresh [.union] rfl with types := Slots.full_some given }

theorem finishes_intersection {types : List (Option TypeId)} (given : none ∉ types) :
    finishing.Keeps q (intersection types) fun _ _ => True :=
  finishes_combine whole { typeWhole_fresh [.intersection] rfl with types := Slots.full_some given }

theorem finishes_tuple {elements : List (Option TypeId)} (given : none ∉ elements) :
    finishing.Keeps q (tuple elements) fun _ _ => True := by
  have finish {r : Program} (wholeR : r.Whole) (target : TypeId) :=
    have new : TypeWhole r
        { flags := [.object], objectFlags := [.reference], target := some target,
          arguments := some elements } :=
      { typeWhole_fresh [.object] rfl with arguments := given }
    finishes_combine wholeR new
  apply Course.get_bind
  dsimp only
  split
  · exact finish whole _
  · refine Course.bind (finishes_combine whole { typeWhole_fresh [.object] rfl with }) ?_
    intro id r wholeR _ _
    refine Course.bind (finishes_modify wholeR rfl rfl rfl rfl rfl fun _ => .inl) ?_
    exact fun _ t wholeT _ _ => finish wholeT id

theorem finishes_conditional {checkType extendsType trueType falseType : Option TypeId}
    (given : none ∉ [checkType, extendsType, trueType, falseType]) :
    finishing.Keeps q (conditional checkType extendsType trueType falseType) fun _ _ => True := by
  simp only [List.mem_cons, List.not_mem_nil, or_false, not_or] at given
  obtain ⟨check, extended, primary, alternate⟩ := given
  exact finishes_combine whole { typeWhole_fresh [] rfl with
    value := nofun, substitution := nofun
    conditional := fun _ => ⟨Ne.symm check, Ne.symm extended, Ne.symm primary, Ne.symm alternate⟩ }

theorem finishes_substitution {baseType : Option TypeId} (given : baseType ≠ none) :
    finishing.Keeps q (substitution baseType) fun _ _ => True :=
  finishes_combine whole { typeWhole_fresh [] rfl with
    value := nofun, conditional := nofun, substitution := fun _ => given }

theorem finishes_typeParameter (name : String) (constraint default : Option TypeId) :
    finishing.Keeps q (typeParameter name constraint default) fun r type => r.Generic type := by
  refine Course.begin (fun made => .symbol made.1)
    (fills_declare whole rfl [.typeParameter] (by rintro ⟨⟩) _ _) ?_
  rintro ⟨symbol, site⟩ r wholeR - announced
  refine Course.bind (finishes_arrange wholeR (f := fun s => { s with parent := none })
    (fun s => Site.retains_of_same rfl rfl rfl rfl rfl rfl) fun site => { site with }) ?_
  intro _ t wholeT first _
  refine Course.bind (finishes_newType wholeT { typeWhole_fresh [.typeParameter] rfl with }) ?_
  rintro type u wholeU second ⟨-, -, made⟩
  have held : (u.type type).symbol = some symbol := congrArg TypeInfo.symbol made
  have since := first.1.trans second.1
  have finish {v : Program} (wholeV : v.Whole) (further : u.Retains v) :
      finishing.Keeps v
        (do
          bindDeclared symbol type
          bindSite site type
          pure type)
        fun w type => w.Generic type ∧ w.Done (.symbol symbol) := by
    have before := since.trans further
    refine Course.bind (finishes_bindDeclared wholeV _ _) fun _ w wholeW third declares => ?_
    have before := before.trans third.1
    have stands := announced.stands.later before
    refine Course.bind (finishes_bindSite wholeW fun kind => ?_) fun _ x wholeX last told => ?_
    · rw [stands.2] at kind
      cases kind
    · have before := before.trans last.1
      have answered := told.2 stands.1
      have first := before.first announced.first
      have owned := before.siteSymbol announced.owned
      have retained := before.symbol symbol announced.there
      refine Course.pure wholeX ⟨⟨symbol, site, (further.trans (third.1.trans last.1)).typeSymbol held,
        first, owned, answered⟩, SymbolDone.of_flags (retained.flags.trans announced.flagged) ?_⟩
      refine ⟨fun _ => ?_, ?_, fun _ => ⟨site, first, owned, answered⟩, ?_, ?_, ?_, ?_⟩
      case refine_2 | refine_3 | refine_4 | refine_5 | refine_6 => rintro ⟨⟩
      have there := Nat.lt_of_lt_of_le announced.there (since.trans further).symbols
      exact (last.1.symbol symbol (Nat.lt_of_lt_of_le there third.1.symbols)).declared
        (declares.2 there)
  have fallback {v : Program} (wholeV : v.Whole) (further : u.Retains v) :
      finishing.Keeps v
        (writingDefault default site do
          bindDeclared symbol type
          bindSite site type
          pure type)
        fun w type => w.Generic type ∧ w.Done (.symbol symbol) := by
    cases default with
    | none => exact finish wholeV further
    | some fallback =>
        refine Course.bind (finishes_writtenType wholeV _ _) fun written w wholeW third answered => ?_
        refine Course.bind (finishes_arrange wholeW (f := fun s => { s with default := some written })
          (fun s => Site.retains_of_same rfl rfl rfl rfl rfl rfl)
          fun site => { site with default := ?_ }) ?_
        · rintro _ ⟨⟩
          exact answered
        · exact fun _ x wholeX last _ => finish wholeX (further.trans (third.1.trans last.1))
  cases constraint with
  | none => exact fallback wholeU (Retains.refl u)
  | some bound =>
      refine Course.bind (finishes_writtenType wholeU _ _) fun written v wholeV third answered => ?_
      refine Course.bind (finishes_arrange wholeV (f := fun s => { s with constraint := some written })
        (fun s => Site.retains_of_same rfl rfl rfl rfl rfl rfl)
        fun site => { site with constraint := ?_ }) ?_
      · rintro _ ⟨⟩
        exact answered
      · exact fun _ w wholeW last _ => fallback wholeW (third.1.trans last.1)

theorem finishes_infer (name : String) : finishing.Keeps q (infer name) fun _ _ => True := by
  refine Course.bind (finishes_typeParameter whole name none none) fun type r wholeR _ generic => ?_
  refine Course.bind (finishes_modify wholeR (f := fun p => { p with inferred := p.inferred ++ [type] })
    rfl rfl rfl rfl rfl fun other held => ?_) fun _ t wholeT _ _ => Course.pure wholeT trivial
  refine (List.mem_append.mp held).imp_right fun last => ?_
  rw [List.mem_singleton.mp last]
  exact generic

theorem finishes_fillDefaults (params : List (Option TypeId)) :
    finishing.Keeps q (fillDefaults params) fun _ types => none ∉ types := by
  induction params with
  | nil => exact Course.pure whole List.not_mem_nil
  | cons param rest ih =>
      refine Course.ask_bind whole fun declared _ => ?_
      refine Course.lift_bind whole fun site _ => Course.get_bind ?_
      split
      · exact Course.pure whole List.not_mem_nil
      · rename_i fallback _
        refine Course.ask_bind whole fun type asked => ?_
        refine Course.bind ih fun others r wholeR _ given => Course.pure wholeR ?_
        have told : type ≠ none := by
          rintro rfl
          exact (whole.sites fallback).answer (answer_of_typeAt asked)
        simpa using ⟨Ne.symm told, given⟩

theorem finishes_withDefaults (params : List (Option TypeId)) {arguments : List (Option TypeId)}
    (given : none ∉ arguments) :
    finishing.Keeps q (withDefaults params arguments) fun _ types => none ∉ types := by
  refine Course.bind (finishes_fillDefaults whole _) fun filled r wholeR _ others => ?_
  refine Course.pure wholeR ?_
  simpa using ⟨given, others⟩

theorem finishes_instantiateMember {mapping : Mapping}
    (given : ∀ key, Table.get? mapping key ≠ some none) (done : ∀ item, q.Done item)
    {member : Option SymbolId} (shown : ∀ id, member = some id → (q.symbol id).isShown = true) :
    finishing.Keeps q (instantiateMember mapping member) fun r symbol =>
      (r.symbol symbol).isShown = true := by
  apply Course.get_bind
  refine Course.lift_bind whole fun id found => ?_
  obtain rfl : member = some id := of_present found
  have known := whole.symbols id
  have isShown := shown id rfl
  have declared : SymbolDone q (q.symbol id) := done (.symbol id)
  have undeclared : (q.symbol id).declaresType = false := by
    rw [Symbol.isShown, Bool.and_eq_true, Bool.not_eq_true'] at isShown
    exact isShown.2
  refine Course.bind (finishes_newSymbol whole ?_ ?_) ?_
  · exact
      { documentation := known.documentation
        exports := Slots.full_of []
        statics := by rintro _ _ ⟨⟩
        constructors := by rintro _ ⟨⟩
        value := by rintro ⟨⟩
        declared := by rintro ⟨⟩
        titled := known.titled }
  · refine { declared with declared := fun declares => ?_ }
    change (q.symbol id).declaresType = true at declares
    rw [undeclared] at declares
    cases declares
  · rintro symbol r wholeR - ⟨-, there, made⟩
    have isShown : (r.symbol symbol).isShown = true := by
      rw [made]
      exact isShown
    dsimp only
    split
    · rename_i type _
      obtain ⟨value, same⟩ : ∃ value, (Table.get? mapping (some type)).getD (some type) = some value := by
        cases mapped : Table.get? mapping (some type) with
        | none => exact ⟨type, rfl⟩
        | some answer =>
            cases answer with
            | none => exact absurd mapped (given _)
            | some value => exact ⟨value, rfl⟩
      rw [same]
      refine Course.bind (finishes_bindSymbol wholeR symbol value) fun _ t wholeT grown _ => ?_
      exact Course.pure wholeT (grown.1.isShown isShown)
    · exact Course.pure wholeR isShown

theorem finishes_instantiateIndex (mapping : Mapping) (index : Option IndexId) :
    finishing.Keeps q (instantiateIndex mapping index) fun _ _ => True := by
  cases index with
  | none => exact Course.pure whole trivial
  | some id =>
      apply Course.get_bind
      dsimp only
      split
      · exact Course.pure whole trivial
      · exact Course.map _ (finishes_newIndexInfo whole _) fun _ _ _ => trivial

theorem finishes_instantiate (done : ∀ item, q.Done item) (generic : Option TypeId)
    {arguments : List (Option TypeId)} (given : none ∉ arguments) :
    finishing.Keeps q (instantiate generic arguments) fun _ _ => True := by
  refine Course.lift_bind whole fun target _ => Course.get_bind ?_
  have declared := whole.types target
  refine Course.bind (finishes_withDefaults whole _ given) fun filled r wholeR first given => ?_
  have mapped (key : Option TypeId) : Table.get?
      (Table.ofPairs ((q.type target).typeParameters.slots.zip filled)) key ≠ some none :=
    fun held => given (List.of_mem_zip (Table.mem_of_get?_ofPairs held)).2
  refine Course.lift_bind wholeR fun members listed => ?_
  have stable (q r : Program) (symbol : SymbolId) (grown : finishing.grows q r)
      (shown : (q.symbol symbol).isShown = true) : (r.symbol symbol).isShown = true :=
    grown.1.isShown shown
  refine Course.bind (Course.mapM stable wholeR fun member inside t wholeT second =>
    finishes_instantiateMember wholeT mapped (fun item => second.2 item (first.2 item (done item)))
      fun id same => ?_) ?_
  · subst same
    rw [← slots_of_each listed] at inside
    exact second.1.isShown (first.1.isShown (declared.shown id inside))
  intro properties t wholeT second shown
  refine Course.lift_bind wholeT fun calls called => ?_
  refine Course.bind (finishes_instantiateIndex wholeT _ _) fun stringIndex u wholeU third _ => ?_
  refine Course.bind (finishes_instantiateIndex wholeU _ _) fun numberIndex v wholeV fourth _ => ?_
  have calledWhole : none ∉ calls := by
    rw [← slots_of_each called]
    exact declared.callSignatures.whole
  have bare : TypeWhole v { flags := [.object] } := typeWhole_fresh [.object] rfl
  exact finishes_combine wholeV { bare with
    properties := Slots.full_of properties
    shown := fun member held => (third.1.trans fourth.1).isShown (shown member (Slots.mem_of held))
    callSignatures := Slots.full_some calledWhole
    arguments := given }

theorem finishes_instantiateAlias (aliased : Option TypeId) {arguments : List (Option TypeId)}
    (given : none ∉ arguments) :
    finishing.Keeps q (instantiateAlias aliased arguments) fun _ _ => True := by
  apply Course.get_bind
  refine Course.lift_bind whole fun id _ => ?_
  dsimp only
  split
  · exact Course.throw whole _
  · refine Course.lift_bind whole fun first _ => Course.lift_bind whole fun site _ => ?_
    refine Course.lift_bind whole fun written _ => ?_
    refine Course.bind (Course.mapM (fun _ _ _ _ _ => trivial) whole fun param _ r wholeR _ =>
      Course.ask wholeR fun _ _ => trivial) ?_
    intro params r wholeR grown _
    refine Course.bind (finishes_newType wholeR ((whole.types id).carry grown.1)) ?_
    intro copy t wholeT _ _
    refine Course.bind (finishes_withDefaults wholeT _ given) fun filled u wholeU _ given => ?_
    refine Course.bind (finishes_setType wholeU
      (f := fun t => { t with aliasArguments := some filled }) rfl (.inl rfl)
      fun type => { type with aliasArguments := given }) ?_
    exact fun _ v wholeV _ _ => Course.pure wholeV trivial

end Build

end TypeAtlas
