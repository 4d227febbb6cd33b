import TypeAtlas.Proofs.Builder.Finished
import TypeAtlas.Proofs.Builder.Stemming
import TypeAtlas.Proofs.Program.Lineage

/-!
Members stay below the declarations they were made for, and bases where they stand. Most steps of a call
touch neither; the few that give a type its properties, a declaration its bases or a class its static
members say where these are from.
-/

namespace TypeAtlas

namespace Build

open Program

variable {α : Type} {base q r : Program}

/-- A place at which no base stands. -/
structure Vacant (q : Program) (site : SiteId) : Prop where
  there : site.index < q.sites.size
  kind : (q.site site).kind ≠ .expressionWithTypeArguments

theorem Vacant.later {site : SiteId} (vacant : Vacant q site) (grows : q.Rests r) : Vacant r site := by
  refine ⟨Nat.lt_of_lt_of_le vacant.there grows.sites, ?_⟩
  rw [(grows.site site vacant.there).kind]
  exact vacant.kind

/-- What a declaration is once it is made. -/
structure Seated (q : Program) (kind : SiteKind) (flags : SymbolFlags) (symbol : SymbolId)
    (site : SiteId) : Prop where
  there : site.index < q.sites.size
  kind : (q.site site).kind = kind
  held : symbol.index < q.symbols.size
  flags : (q.symbol symbol).flags = flags
  declarations : (q.symbol symbol).declarations = Slots.of [site]

namespace Seated

variable {kind : SiteKind} {flags : SymbolFlags} {symbol : SymbolId} {site : SiteId}

theorem last (seated : Seated q kind flags symbol site) (grows : q.Lasts r) :
    Seated r kind flags symbol site := by
  have rest := grows.symbol symbol seated.held
  refine ⟨Nat.lt_of_lt_of_le seated.there grows.sites,
    (grows.site site seated.there).kind.trans seated.kind,
    Nat.lt_of_lt_of_le seated.held grows.symbols, rest.flags.trans seated.flags, ?_⟩
  rw [rest.declarations, seated.declarations]
  rw [seated.declarations]
  simp [Slots.of]

theorem later (seated : Seated q kind flags symbol site) (grows : q.Rests r) :
    Seated r kind flags symbol site :=
  seated.last grows.toLasts

theorem vacant (seated : Seated q kind flags symbol site)
    (other : kind ≠ .expressionWithTypeArguments) : Vacant q site :=
  ⟨seated.there, seated.kind ▸ other⟩

theorem first (seated : Seated q kind flags symbol site) :
    (q.symbol symbol).declarations.first? = some site := by
  rw [seated.declarations]
  rfl

end Seated

def Parameters (q : Program) (params : List (Option TypeId)) : Prop :=
  ∀ param, some param ∈ params → ∃ symbol site, (q.type param).symbol = some symbol ∧
    (q.symbol symbol).declarations.first? = some site ∧ (q.site site).kind = .typeParameter

theorem Parameters.mono {params more : List (Option TypeId)} (parameters : Parameters q more)
    (fewer : params ⊆ more) : Parameters q params :=
  fun param member => parameters param (fewer member)

theorem Parameters.last {params : List (Option TypeId)} (parameters : Parameters q params)
    (grows : q.Lasts r) : Parameters r params := by
  intro param member
  obtain ⟨symbol, site, held, first, kind⟩ := parameters param member
  have type : param.index < q.types.size := by
    by_contra outside
    rw [q.type_of_size_le (Nat.le_of_not_lt outside)] at held
    cases held
  have inside : symbol.index < q.symbols.size := by
    by_contra outside
    rw [q.symbol_of_size_le (Nat.le_of_not_lt outside)] at first
    cases first
  have there : site.index < q.sites.size := by
    by_contra outside
    rw [q.site_of_size_le (Nat.le_of_not_lt outside)] at kind
    cases kind
  refine ⟨symbol, site, (grows.type param type).symbol.trans held, ?_,
    (grows.site site there).kind.trans kind⟩
  rw [(grows.symbol symbol inside).declarations, first]
  intro empty
  rw [empty] at first
  cases first

theorem Parameters.later {params : List (Option TypeId)} (parameters : Parameters q params)
    (grows : q.Rests r) : Parameters r params :=
  parameters.last grows.toLasts

section Steps

variable (rests : base.Rests q)
include rests

theorem rests_place {s : Site} (empty : s.heritage = []) :
    (resting base).Keeps q (newSite s) fun r id =>
      q.sites.size ≤ id.index ∧ id.index < r.sites.size ∧ r.site id = s := by
  refine (rests_newSite rests empty).weaken ?_
  rintro _ _ - - ⟨rfl, rfl⟩
  exact ⟨Nat.le_refl _, by simp [addSite], (q.site_addSite s _).trans (if_pos rfl)⟩

theorem rests_vacancy {s : Site} (empty : s.heritage = [])
    (other : s.kind ≠ .expressionWithTypeArguments) :
    (resting base).Keeps q (newSite s) fun r id => Vacant r id := by
  refine (rests_place rests empty).weaken ?_
  rintro r id - - ⟨-, there, same⟩
  exact ⟨there, by rw [same]; exact other⟩

/-- What stands at a place that is no base may be told. -/
theorem rests_bindVacant {site : SiteId} (vacant : Vacant q site) (type : Option TypeId) :
    (resting base).Keeps q (bindSite site type) fun _ _ => True := by
  refine rests_bindSite rests ?_
  intro other same kind
  cases same
  exact absurd kind vacant.kind

theorem rests_declarationOf (type : Option TypeId) :
    (resting base).Keeps q (declarationOf type) fun _ _ => True :=
  Course.ask rests fun _ _ => trivial

theorem rests_source (fileName : String) :
    (resting base).Keeps q (source fileName) fun r _ => r.symbols = q.symbols := by
  apply Course.get_bind
  split
  · exact Course.pure rests rfl
  · refine Course.bind (rests_newSite rests rfl) ?_
    rintro _ _ restsR _ ⟨rfl, rfl⟩
    refine Course.bind (rests_modify restsR (Rests.aside rfl rfl rfl rfl)) ?_
    rintro _ _ restsT _ rfl
    exact Course.pure restsT rfl

theorem rests_seated {site : SiteId} {kind : SiteKind} {record : Symbol} (there : site.index < q.sites.size)
    (known : (q.site site).kind = kind) (empty : record.exports = some [])
    (declared : record.declarations = Slots.of [site]) {next : SymbolId → Build α}
    {told : Program → α → Prop}
    (rest : ∀ symbol r, base.Rests r → q.Rests r → q.symbols.size ≤ symbol.index →
      Seated r kind record.flags symbol site → r.symbol symbol = { record with id := q.lastId + 1 } →
      (resting base).Keeps r (next symbol) told) :
    (resting base).Keeps q (do
      let symbol ← newSymbol record
      setSite site ({ · with symbol := some symbol })
      next symbol) told := by
  refine Course.bind (rests_newSymbol rests empty) ?_
  rintro _ _ restsR grows ⟨rfl, rfl⟩
  have made := q.addSymbol_made record
  have seated : Seated (q.addSymbol record).2 kind record.flags ⟨q.symbols.size⟩ site := by
    refine ⟨there, known, ?_, ?_, ?_⟩
    · simp [addSymbol, addNumberedSymbol]
    · rw [made]
    · rw [made]
      exact declared
  refine Course.bind (rests_modify restsR (Rests.modifySite
    (f := ({ · with symbol := some (⟨q.symbols.size⟩ : SymbolId) }))
    ⟨rfl, fun _ => rfl, fun _ _ held => held⟩ rfl)) ?_
  rintro _ _ restsT further rfl
  exact rest _ _ restsT (grows.trans further) (Nat.le_refl _) (seated.later further) made

theorem rests_declare (kind : SiteKind) (name : String) (flags : SymbolFlags)
    (doc fileName : Option String) :
    (resting base).Keeps q (declare kind name flags doc fileName) fun r made =>
      Seated r kind flags made.1 made.2 ∧ q.sites.size ≤ made.2.index ∧
        (r.symbol made.1).valueDeclaration = none := by
  apply Course.get_bind
  refine Course.bind (rests_source rests _) fun parent r restsR grows _ => ?_
  refine Course.bind (rests_place restsR rfl) ?_
  rintro site t restsT further ⟨fresh, there, same⟩
  refine rests_seated restsT there (congrArg Site.kind same) rfl rfl ?_
  intro symbol u restsU _ _ seated made
  exact Course.pure restsU
    ⟨seated, Nat.le_trans grows.sites fresh, congrArg Symbol.valueDeclaration made⟩

theorem rests_setExports (exports : Slots SymbolId) :
    (resting base).Keeps q (setExports exports) fun _ _ => True :=
  Course.get_bind (rests_setSymbol rests _ ⟨rfl, rfl, rfl, fun _ => rfl, fun _ => rfl⟩ rfl
    fun other => absurd rfl other)

theorem rests_addExport (symbol : Option SymbolId) :
    (resting base).Keeps q (addExport symbol) fun _ _ => True := by
  apply Course.get_bind
  refine Course.lift_bind rests fun listed _ => ?_
  split
  · exact Course.pure rests trivial
  · exact Course.lift_bind rests fun exports _ => rests_setExports rests exports

theorem rests_pushExport (symbol : SymbolId) :
    (resting base).Keeps q (pushExport symbol) fun _ _ => True := by
  apply Course.get_bind
  exact Course.lift_bind rests fun exports _ => rests_setExports rests _

theorem rests_exportIf (exported : Bool) (symbol : SymbolId) :
    (resting base).Keeps q (exportIf exported symbol) fun _ _ => True := by
  unfold exportIf
  split
  · exact rests_addExport rests _
  · exact Course.pure rests trivial

theorem rests_tell (site : SiteId) {f : Site → Site}
    (same : ∀ s : Site, (f s).kind = s.kind ∧ (f s).parent = s.parent ∧ (f s).heritage = s.heritage ∧
      (f s).answers = s.answers) : (resting base).Keeps q (setSite site f) fun _ _ => True := by
  refine rests_setSite rests site fun s => ?_
  obtain ⟨kind, parent, heritage, answers⟩ := same s
  refine ⟨⟨kind, fun _ => parent, fun _ _ held => ?_⟩, heritage⟩
  rwa [answers]

omit rests in
theorem rests_written (fuel : Nat) :
    (∀ {q} type parent, base.Rests q →
      (resting base).Keeps q (writtenFrom fuel type parent) fun _ _ => True) ∧
    ∀ {q} types parent, base.Rests q →
      (resting base).Keeps q (writtenEach fuel types parent) fun _ _ => True := by
  induction fuel with
  | zero =>
      constructor
      · exact fun _ _ rests => Course.throw rests _
      · exact fun _ _ rests => Course.throw rests _
  | succ fuel ih =>
      constructor
      · intro q type parent rests
        unfold writtenFrom
        apply Course.get_bind
        refine Course.lift_bind rests fun id _ => ?_
        have finish {r : Program} (restsR : base.Rests r) {site : SiteId} (vacant : Vacant r site) :
            (resting base).Keeps r (do bindSite site (some id); pure site) fun _ _ => True :=
          Course.bind (rests_bindVacant restsR vacant _) fun _ _ restsT _ _ => Course.pure restsT trivial
        have place {s : Site} (empty : s.heritage = [])
            (other : s.kind ≠ .expressionWithTypeArguments) :
            (resting base).Keeps q (do let site ← newSite s; bindSite site (some id); pure site)
              fun _ _ => True :=
          Course.bind (rests_vacancy rests empty other) fun site r restsR _ vacant => finish restsR vacant
        dsimp only
        split
        · refine Course.bind (rests_vacancy rests rfl SiteKind.noConfusion) fun site r restsR _ vacant => ?_
          refine Course.bind (rests_declarationOf restsR _) fun declared t restsT grows _ => ?_
          refine Course.bind (rests_tell restsT site fun _ => ⟨rfl, rfl, rfl, rfl⟩) ?_
          exact fun _ u restsU further _ => finish restsU ((vacant.later grows).later further)
        · split
          · exact place rfl SiteKind.noConfusion
          · split
            · refine Course.bind (rests_vacancy rests rfl SiteKind.noConfusion) ?_
              intro site r restsR _ vacant
              refine Course.bind (ih.1 _ _ restsR) fun child t restsT grows _ => ?_
              refine Course.bind (rests_tell restsT site fun _ => ⟨rfl, rfl, rfl, rfl⟩) ?_
              exact fun _ u restsU further _ => finish restsU ((vacant.later grows).later further)
            · split
              · refine Course.bind (rests_vacancy rests rfl SiteKind.noConfusion) ?_
                intro site r restsR _ vacant
                refine Course.lift_bind restsR fun types _ => ?_
                refine Course.bind (ih.2 _ _ restsR) fun children t restsT grows _ => ?_
                refine Course.bind (rests_tell restsT site fun _ => ⟨rfl, rfl, rfl, rfl⟩) ?_
                exact fun _ u restsU further _ => finish restsU ((vacant.later grows).later further)
              · exact place rfl SiteKind.noConfusion
      · intro q types parent rests
        cases types with
        | nil => exact Course.pure rests trivial
        | cons type rest =>
            unfold writtenEach
            refine Course.bind (ih.1 _ _ rests) fun first r restsR _ _ => ?_
            refine Course.bind (ih.2 _ _ restsR) fun others t restsT _ _ => ?_
            exact Course.pure restsT trivial

theorem rests_writtenType (type : Option TypeId) (parent : Option SiteId) :
    (resting base).Keeps q (writtenType type parent) fun _ _ => True :=
  Course.get_bind ((rests_written _).1 type parent rests)

omit rests in
/-- A type without a symbol is neither declared nor made from something that is. -/
theorem minor_of_unnamed {t : TypeInfo} (structural : t.isNominal = false) (unnamed : t.symbol = none) :
    t.Minor :=
  ⟨structural, fun _ => unnamed⟩

theorem rests_cached (key : LiteralKey) {type : TypeInfo} (minor : type.Minor) :
    (resting base).Keeps q (cached key type) fun _ _ => True := by
  apply Course.get_bind
  split
  · exact Course.pure rests trivial
  · refine Course.bind (rests_newType rests minor) fun id r restsR _ _ => ?_
    refine Course.bind (rests_modify restsR (Rests.aside rfl rfl rfl rfl)) fun _ t restsT _ _ => ?_
    exact Course.pure restsT trivial

theorem rests_literal (value : Option Literal) :
    (resting base).Keeps q (literal value) fun _ _ => True := by
  unfold literal
  split
  · exact rests_cached rests _ (minor_of_unnamed rfl rfl)
  · exact Course.pure rests trivial
  · exact Course.pure rests trivial
  all_goals exact rests_cached rests _ (minor_of_unnamed rfl rfl)

theorem rests_newMinor {t : TypeInfo} (minor : t.Minor) :
    (resting base).Keeps q (newType t) fun _ _ => True :=
  (rests_newType rests minor).weaken fun _ _ _ _ _ => trivial

theorem rests_tuple (elements : List (Option TypeId)) :
    (resting base).Keeps q (tuple elements) fun _ _ => True := by
  apply Course.get_bind
  split
  · exact rests_newMinor rests (minor_of_unnamed rfl rfl)
  · refine Course.bind (rests_newType rests (minor_of_unnamed rfl rfl)) fun id r restsR _ _ => ?_
    refine Course.bind (rests_modify restsR (Rests.aside rfl rfl rfl rfl)) fun _ t restsT _ _ => ?_
    exact rests_newMinor restsT (minor_of_unnamed rfl rfl)

theorem rests_writingDefault (default : Option TypeId) (site : SiteId) {rest : Build α}
    {told : Program → α → Prop}
    (quiet : ∀ r, base.Rests r → q.Rests r → (resting base).Keeps r rest told) :
    (resting base).Keeps q (writingDefault default site rest) told := by
  cases default with
  | none => exact quiet q rests (Rests.refl q)
  | some fallback =>
      refine Course.bind (rests_writtenType rests _ _) fun written r restsR grows _ => ?_
      refine Course.bind (rests_tell restsR site fun _ => ⟨rfl, rfl, rfl, rfl⟩) ?_
      exact fun _ t restsT further _ => quiet t restsT (grows.trans further)

/-- A place that is no member may be put below another. -/
theorem rests_move {site : SiteId} (parent : Option SiteId)
    (other : (q.site site).kind.isMember = false) :
    (resting base).Keeps q (setSite site ({ · with parent })) fun _ _ => True := by
  refine (rests_modify rests (Rests.modifySite ⟨rfl, fun member => ?_, fun _ _ held => held⟩ rfl)).weaken
    fun _ _ _ _ _ => trivial
  rw [other] at member
  cases member

theorem rests_made {t : TypeInfo} (minor : t.Minor) :
    (resting base).Keeps q (newType t) fun r id =>
      q.types.size ≤ id.index ∧ id.index < r.types.size ∧ t.Stays (r.type id) := by
  refine (rests_newType rests minor).weaken ?_
  rintro _ _ - - ⟨rfl, rfl⟩
  refine ⟨Nat.le_refl _, by simp [addType, addNumberedType], ?_⟩
  rw [type_addType, if_pos rfl]
  exact ⟨rfl, rfl, rfl⟩

theorem rests_typeParameter (name : String) (constraint default : Option TypeId) :
    (resting base).Keeps q (typeParameter name constraint default)
      fun r type => Parameters r [some type] := by
  refine Course.bind (rests_declare rests _ _ _ _ _) ?_
  rintro ⟨symbol, site⟩ r restsR - ⟨seated, -⟩
  have apart : (r.site site).kind.isMember = false := by rw [seated.kind]; rfl
  refine Course.bind (rests_move restsR none apart) fun _ t restsT grows _ => ?_
  have seated := seated.later grows
  refine Course.bind (rests_made restsT ⟨rfl, fun reference => by cases reference⟩) ?_
  rintro type u restsU further ⟨-, -, stays⟩
  have seated := seated.later further
  have declared : Parameters u [some type] := by
    intro param member
    cases List.mem_singleton.mp member
    exact ⟨symbol, site, stays.symbol, seated.first, seated.kind⟩
  have rest {v : Program} (restsV : base.Rests v) (grown : u.Rests v) :
      (resting base).Keeps v (writingDefault default site do
        bindDeclared symbol type
        bindSite site type
        pure type) fun r type => Parameters r [some type] := by
    refine rests_writingDefault restsV default site fun w restsW grownW => ?_
    refine Course.bind (rests_bindDeclared restsW _ _) fun _ x restsX grownX _ => ?_
    have vacant := ((seated.later grown).later grownW).later grownX |>.vacant SiteKind.noConfusion
    refine Course.bind (rests_bindVacant restsX vacant _) fun _ y restsY grownY _ => ?_
    exact Course.pure restsY
      ((((declared.later grown).later grownW).later grownX).later grownY)
  cases constraint with
  | none => exact rest restsU (Rests.refl _)
  | some bound =>
      refine Course.bind (rests_writtenType restsU _ _) fun written v restsV grown _ => ?_
      refine Course.bind (rests_tell restsV site fun _ => ⟨rfl, rfl, rfl, rfl⟩) ?_
      exact fun _ w restsW further _ => rest restsW (grown.trans further)

theorem rests_infer (name : String) : (resting base).Keeps q (infer name) fun _ _ => True := by
  refine Course.bind (rests_typeParameter rests name none none) fun type r restsR _ _ => ?_
  refine Course.bind (rests_modify restsR (Rests.aside rfl rfl rfl rfl)) fun _ t restsT _ _ => ?_
  exact Course.pure restsT trivial

theorem rests_fillDefaults (params : List (Option TypeId)) :
    (resting base).Keeps q (fillDefaults params) fun _ _ => True := by
  induction params with
  | nil => exact Course.pure rests trivial
  | cons param rest ih =>
      unfold fillDefaults
      refine Course.ask_bind rests fun declared _ => Course.lift_bind rests fun site _ => ?_
      apply Course.get_bind
      split
      · exact Course.pure rests trivial
      · refine Course.ask_bind rests fun type _ => ?_
        exact Course.bind ih fun others r restsR _ _ => Course.pure restsR trivial

theorem rests_withDefaults (params arguments : List (Option TypeId)) :
    (resting base).Keeps q (withDefaults params arguments) fun _ _ => True :=
  Course.bind (rests_fillDefaults rests _) fun _ _ restsR _ _ => Course.pure restsR trivial

theorem rests_attachTypeParameters (site : SiteId) {params : List (Option TypeId)}
    (parameters : Parameters q params) :
    (resting base).Keeps q (attachTypeParameters site params) fun _ _ => True := by
  refine (Course.forM (fun r => Parameters r params) rests parameters ?_).weaken
    fun _ _ _ _ _ => trivial
  intro param member r restsR _ known
  refine Course.ask_bind restsR fun declared asked => Course.lift_bind restsR fun paramSite found => ?_
  obtain ⟨id, symbol, rfl, held, first⟩ := first_of_declarationOf asked
  obtain ⟨other, place, same, declares, kind⟩ := known id member
  rw [held] at same
  cases same
  rw [first, of_present found] at declares
  cases declares
  refine Course.bind (rests_move restsR site (by rw [kind]; rfl)) fun _ t restsT grows _ => ?_
  refine (rests_tell restsT site (f := fun s =>
    { s with typeParameters := some (s.typeParameters.slots ++ [some paramSite]) })
    fun _ => ⟨rfl, rfl, rfl, rfl⟩).weaken ?_
  exact fun u _ _ further _ => (known.later grows).later further

theorem rests_parameter (parent : SiteId) (spec : ParamSpec) :
    (resting base).Keeps q (parameter parent spec) fun _ _ => True := by
  refine Course.bind (rests_place rests rfl) ?_
  rintro site r restsR - ⟨-, there, same⟩
  refine rests_seated restsR there (congrArg Site.kind same) rfl rfl ?_
  intro symbol t restsT _ _ _ _
  split
  · refine Course.bind (rests_writtenType restsT _ _) fun written u restsU _ _ => ?_
    refine Course.bind (rests_tell restsU site fun _ => ⟨rfl, rfl, rfl, rfl⟩) fun _ v restsV _ _ => ?_
    refine Course.bind (rests_bindSymbol restsV _ _) fun _ w restsW _ _ => ?_
    exact Course.pure restsW trivial
  · exact Course.pure restsT trivial

theorem rests_addParameters (parent : SiteId) (specs : List ParamSpec) :
    (resting base).Keeps q (addParameters parent specs) fun _ _ => True := by
  refine Course.bind (Course.mapM (fun _ _ _ _ known => known) rests
    fun spec _ r restsR _ => rests_parameter restsR parent spec) fun params r restsR _ _ => ?_
  refine Course.bind (rests_tell restsR parent fun _ => ⟨rfl, rfl, rfl, rfl⟩) ?_
  exact fun _ t restsT _ _ => Course.pure restsT trivial

theorem rests_callable (symbol : SymbolId) {site : SiteId} (vacant : Vacant q site)
    (parameters : List ParamSpec) (returns : Option TypeId) {typeParameters : List (Option TypeId)}
    (declared : Parameters q typeParameters) :
    (resting base).Keeps q (callable symbol site parameters returns typeParameters)
      fun _ _ => True := by
  refine Course.bind (rests_attachTypeParameters rests site declared) fun _ r restsR growsR _ => ?_
  refine Course.bind (rests_addParameters restsR _ _) fun params t restsT growsT _ => ?_
  refine Course.bind (rests_writtenType restsT _ _) fun written u restsU growsU _ => ?_
  refine Course.bind (rests_tell restsU site fun _ => ⟨rfl, rfl, rfl, rfl⟩) fun _ v restsV growsV _ => ?_
  refine Course.bind (rests_newSignature restsV _) fun signature w restsW growsW _ => ?_
  refine Course.bind (rests_bindSignature restsW _ _) fun _ x restsX growsX _ => ?_
  refine Course.bind (rests_newMinor restsX ⟨rfl, fun reference => by cases reference⟩) ?_
  intro type y restsY growsY _
  have grows := ((((growsR.trans growsT).trans growsU).trans growsV).trans growsW).trans
    (growsX.trans growsY)
  refine Course.bind (rests_bindVacant restsY (vacant.later grows) _) fun _ z restsZ _ _ => ?_
  exact Course.pure restsZ trivial

/-- A member that was made below a declaration since a program was as it was. -/
structure Grown (q r : Program) (parent : SiteId) (symbol : SymbolId) : Prop where
  fresh : q.symbols.size ≤ symbol.index
  untargeted : (r.symbol symbol).target = none
  declared : r.DeclaredBelow symbol parent
  value : (r.symbol symbol).valueDeclaration ≠ none
  same : (r.symbol symbol).valueDeclaration = r.firstDeclaration (some symbol)

omit rests in
theorem Grown.last {parent : SiteId} {symbol : SymbolId} {t : Program} (grown : Grown q r parent symbol)
    (grows : r.Lasts t) : Grown q t parent symbol := by
  have rest := grows.symbol symbol grown.declared.inside
  have value := rest.value (Or.inl grown.value)
  refine ⟨grown.fresh, rest.target.trans grown.untargeted, grown.declared.last grows,
    value ▸ grown.value, ?_⟩
  rw [value, grown.same]
  obtain ⟨place, first, -⟩ := grown.declared
  obtain ⟨other, second, -⟩ := grown.declared.last grows
  rw [firstDeclaration, Option.bind_some] at first second ⊢
  rw [firstDeclaration, Option.bind_some, rest.declarations]
  intro empty
  rw [empty] at first
  cases first

omit rests in
theorem Grown.later {parent : SiteId} {symbol : SymbolId} {t : Program} (grown : Grown q r parent symbol)
    (grows : r.Rests t) : Grown q t parent symbol :=
  grown.last grows.toLasts

omit rests in
theorem Grown.since {parent : SiteId} {symbol : SymbolId} {t : Program} (grown : Grown r t parent symbol)
    (grows : q.Rests r) : Grown q t parent symbol :=
  ⟨Nat.le_trans grows.symbols grown.fresh, grown.untargeted, grown.declared, grown.value, grown.same⟩

omit rests in
theorem Seated.grown {kind : SiteKind} {flags : SymbolFlags} {symbol : SymbolId} {site parent : SiteId}
    (seated : Seated r kind flags symbol site) (isMember : kind.isMember = true)
    (fresh : q.symbols.size ≤ symbol.index) (below : (r.site site).parent = some parent)
    (inner : parent.index < r.sites.size) (untargeted : (r.symbol symbol).target = none)
    (value : (r.symbol symbol).valueDeclaration = some site) : Grown q r parent symbol := by
  have first := seated.first
  refine ⟨fresh, untargeted, ⟨site, first, ?_, below, inner⟩, ?_, ?_⟩
  · rw [seated.kind]
    exact isMember
  · rw [value]
    exact Option.some_ne_none site
  · rw [value, firstDeclaration, Option.bind_some, first]

theorem rests_propMember (name : String) (spec : PropSpec) {parent : SiteId} {kind : SiteKind}
    (isMember : kind.isMember = true) (inner : parent.index < q.sites.size) :
    (resting base).Keeps q (propMember name spec parent kind)
      fun r symbol => Grown q r parent symbol ∧ (r.symbol symbol).name = name := by
  refine Course.bind (rests_place rests rfl) ?_
  rintro site r restsR growsR ⟨-, there, same⟩
  refine Course.bind (rests_writtenType restsR _ _) fun written t restsT growsT _ => ?_
  refine Course.bind (rests_tell restsT site fun _ => ⟨rfl, rfl, rfl, rfl⟩) fun _ u restsU growsU _ => ?_
  have rest := (growsT.trans growsU).site site there
  have known : (u.site site).kind = kind := rest.kind.trans (congrArg Site.kind same)
  refine rests_seated restsU (Nat.lt_of_lt_of_le there (growsT.trans growsU).sites) known rfl rfl ?_
  intro symbol v restsV growsV fresh seated made
  have since := ((growsR.trans growsT).trans growsU).trans growsV
  have below : (v.site site).parent = some parent := by
    have start : (r.site site).kind.isMember = true := by rw [same]; exact isMember
    rw [((growsT.trans growsU).trans growsV |>.site site there).parent start, same]
  have grown : Grown q v parent symbol := seated.grown isMember
    (Nat.le_trans ((growsR.trans growsT).trans growsU).symbols fresh) below
    (Nat.lt_of_lt_of_le inner since.sites) (congrArg Symbol.target made)
    (congrArg Symbol.valueDeclaration made)
  refine Course.bind (rests_bindSymbol restsV _ _) fun _ w restsW growsW _ => ?_
  refine Course.pure restsW ⟨grown.later growsW, ?_⟩
  exact (growsW.symbol symbol seated.held).name.trans (congrArg Symbol.name made)

theorem rests_methodMember (name : String) {spec : MethodSpec} {parent : SiteId}
    (inner : parent.index < q.sites.size) (parameters : Parameters q spec.typeParameters) :
    (resting base).Keeps q (methodMember name spec parent)
      fun r symbol => Grown q r parent symbol ∧ (r.symbol symbol).name = name := by
  refine Course.bind (rests_place rests rfl) ?_
  rintro site r restsR growsR ⟨-, there, same⟩
  refine rests_seated restsR there (congrArg Site.kind same) rfl rfl ?_
  intro symbol t restsT growsT fresh seated made
  have since := growsR.trans growsT
  have below : (t.site site).parent = some parent := by
    rw [(growsT.site site there).parent (by rw [same]; rfl), same]
  have grown : Grown q t parent symbol := seated.grown rfl (Nat.le_trans growsR.symbols fresh) below
    (Nat.lt_of_lt_of_le inner since.sites) (congrArg Symbol.target made)
    (congrArg Symbol.valueDeclaration made)
  refine Course.bind (rests_callable restsT symbol (seated.vacant SiteKind.noConfusion) _ _
    (parameters.later since)) fun type u restsU growsU _ => ?_
  refine Course.bind (rests_bindSymbol restsU _ _) fun _ v restsV growsV _ => ?_
  refine Course.pure restsV ⟨grown.later (growsU.trans growsV), ?_⟩
  exact ((growsU.trans growsV).symbol symbol seated.held).name.trans (congrArg Symbol.name made)

theorem rests_member {parent : SiteId} {kind : SiteKind} (isMember : kind.isMember = true)
    (inner : parent.index < q.sites.size) (name : String) {spec : MemberSpec}
    (parameters : Parameters q spec.typeParameters) :
    (resting base).Keeps q (member parent kind name spec)
      fun r symbol => Grown q r parent symbol ∧ (r.symbol symbol).name = name := by
  cases spec with
  | plain type =>
      cases type with
      | none => exact Course.throw rests _
      | some type => exact rests_propMember rests name _ isMember inner
  | prop spec => exact rests_propMember rests name spec isMember inner
  | method spec => exact rests_methodMember rests name inner parameters

/-- The members of a declaration are made one after the other, so no two are the same. -/
theorem rests_members {parent : SiteId} {kind : SiteKind} (isMember : kind.isMember = true)
    (inner : parent.index < q.sites.size) {specs : Table String MemberSpec}
    (parameters : Parameters q (memberParameters specs)) :
    (resting base).Keeps q (members parent kind specs) fun r symbols =>
      (∀ symbol ∈ symbols, Grown q r parent symbol ∧
        ∃ entry ∈ specs, (r.symbol symbol).name = entry.1) ∧ symbols.Nodup := by
  unfold members
  induction specs generalizing q with
  | nil => exact Course.pure rests ⟨by simp, List.nodup_nil⟩
  | cons entry rest ih =>
      rw [List.mapM_cons]
      refine Course.bind (rests_member rests isMember inner entry.1
        (parameters.mono fun _ held => List.mem_append_left _ held)) ?_
      rintro first r restsR growsR ⟨grown, named⟩
      have parameters : Parameters r (memberParameters rest) :=
        (parameters.mono fun _ held => List.mem_append_right _ held).later growsR
      refine Course.bind (ih restsR (Nat.lt_of_lt_of_le inner growsR.sites) parameters) ?_
      rintro others t restsT growsT ⟨all, apart⟩
      refine Course.pure restsT ⟨fun symbol held => ?_, ?_⟩
      · rcases List.mem_cons.mp held with rfl | held
        · refine ⟨grown.later growsT, entry, List.mem_cons_self .., ?_⟩
          exact (growsT.symbol symbol grown.declared.inside).name.trans named
        · obtain ⟨grown, other, listed, named⟩ := all symbol held
          exact ⟨grown.since growsR, other, List.mem_cons_of_mem _ listed, named⟩
      · refine List.nodup_cons.mpr ⟨fun held => ?_, apart⟩
        exact absurd grown.declared.inside (Nat.not_lt_of_le (all first held).1.fresh)

end Steps

end Build

end TypeAtlas
