import TypeAtlas.Proofs.Builder.Call
import TypeAtlas.Proofs.Builder.Spelled

/-!
The steps of a call keep what is written going with the types it was written for. All other places are
changed freely, and nothing that a type is written by ever changes.
-/

namespace TypeAtlas

namespace Build

open Program

variable {p q : Program} (amid : p.Amid q)
include amid

omit amid in
/-- A type without a symbol that is no union. -/
theorem formed_of_plain {t : TypeInfo} (symbol : t.symbol = none) (aliased : t.alias? = none)
    (union : t.hasFlag .union = false) : q.FormedType t := by
  refine ⟨?_, ?_, fun _ => symbol, fun other => absurd symbol other, fun other => absurd symbol other, ?_⟩
  · intro other held
    rw [symbol] at held
    cases held
  · intro other held
    rw [aliased] at held
    cases held
  · intro _ united
    rw [union] at united
    cases united

omit amid in
theorem formed_of_declared {t : TypeInfo} {symbol : SymbolId} (held : t.symbol = some symbol)
    (there : symbol.index < q.symbols.size) (aliased : t.alias? = none) (target : t.target = none)
    (tuple : t.hasObjectFlag .tuple = false)
    (flags : t.flags = [.object] ∨ t.isTypeParameter = true ∨ t.hasFlag .union = true ∨
      t.hasFlag .enumLiteral = true) : q.FormedType t := by
  refine ⟨?_, ?_, ?_, ?_, fun _ => flags, ?_⟩
  · intro other same
    rw [held] at same
    cases same
    exact there
  · intro other same
    rw [aliased] at same
    cases same
  · intro flagged
    rw [tuple] at flagged
    cases flagged
  · intro _ other same
    rw [target] at same
    cases same
  · intro none
    rw [held] at none
    cases none

theorem spells_cached (key : LiteralKey) :
    (spelling p).Keeps q (cached key key.record) fun r id => ∃ held : LiteralKey,
      (held = key ∨ held.same key = true) ∧ (r.type id).fixed = held.record.fixed := by
  have plain : q.FormedType key.record := by cases key <;> exact formed_of_plain rfl rfl rfl
  apply Course.get_bind
  split
  · rename_i entry id found
    have kept := List.mem_of_find?_eq_some found
    have same : entry.same key = true := by simpa using List.find?_some found
    exact Course.pure amid ⟨entry, .inr same, amid.caches.literals _ kept⟩
  · refine Course.bind (spells_newType amid plain) ?_
    rintro id r amidR _ made
    refine Course.bind (spells_modify amidR rfl rfl rfl (fun _ held => held) fun kinds => ?_) ?_
    · refine ⟨fun entry kept => ?_, amidR.caches.tuples⟩
      rcases List.mem_append.mp kept with old | new
      · exact amidR.caches.literals entry old
      · cases List.mem_singleton.mp new
        exact made
    · rintro _ _ amidT _ rfl
      exact Course.pure amidT ⟨key, .inl rfl, made⟩

theorem spells_literal (value : Option Literal) :
    (spelling p).Keeps q (literal value) fun _ _ => True := by
  have cached (key : LiteralKey) : (spelling p).Keeps q (cached key key.record) fun _ _ => True :=
    (spells_cached amid key).weaken fun _ _ _ _ _ => trivial
  cases value with
  | none => exact cached .unset
  | some value =>
      cases value with
      | bool truth => cases truth <;> exact Course.pure amid trivial
      | int value => exact cached (.int value)
      | float value => exact cached (.float value)
      | text value => exact cached (.text value)

def tupleRecord (target : TypeId) (elements : List (Option TypeId)) : TypeInfo :=
  { flags := [.object], objectFlags := [.reference], target := some target,
    arguments := some elements }

theorem spells_tuple (elements : List (Option TypeId)) :
    (spelling p).Keeps q (tuple elements) fun r id => ∃ target,
      (r.type target).hasObjectFlag .tuple = true ∧
        (r.type id).fixed = (tupleRecord target elements).fixed := by
  have finish {r : Program} (amidR : p.Amid r) {target : TypeId}
      (kept : (r.type target).hasObjectFlag .tuple = true) :
      (spelling p).Keeps r (newType (tupleRecord target elements)) fun s id => ∃ target,
        (s.type target).hasObjectFlag .tuple = true ∧
          (s.type id).fixed = (tupleRecord target elements).fixed := by
    refine (spells_newType amidR (formed_of_plain rfl rfl rfl)).weaken ?_
    intro s id _ kinds made
    refine ⟨target, ?_, made⟩
    have inside : target.index < r.types.size := by
      apply Nat.lt_of_not_le
      intro outside
      rw [r.type_of_size_le outside] at kept
      cases kept
    rw [TypeInfo.hasObjectFlag, (kinds.type target inside).objectFlags]
    exact kept
  apply Course.get_bind
  dsimp only
  split
  · rename_i target found
    exact finish amid (amid.caches.tuples _ (Table.mem_of_get? found))
  · refine Course.bind (spells_newType amid (formed_of_plain rfl rfl rfl)) ?_
    rintro id r amidR _ made
    have flagged : (r.type id).hasObjectFlag .tuple = true := by
      rw [TypeInfo.hasObjectFlag, show (r.type id).objectFlags = [.tuple] from
        congrArg TypeInfo.objectFlags made]
      rfl
    refine Course.bind (spells_modify amidR rfl rfl rfl (fun _ held => held) fun kinds => ?_) ?_
    · refine ⟨amidR.caches.literals, fun entry kept => ?_⟩
      rcases Table.mem_put kept with old | new
      · exact amidR.caches.tuples entry old
      · cases new
        exact flagged
    · rintro _ t amidT _ rfl
      exact finish amidT flagged

theorem spells_union (types : List (Option TypeId)) :
    (spelling p).Keeps q (union types) fun r id =>
      (r.type id).fixed = TypeInfo.fixed { flags := [.union], types := some types } :=
  spells_newType amid ⟨nofun, nofun, fun _ => rfl, fun other => absurd rfl other,
    fun other => absurd rfl other, fun _ _ => .inl rfl⟩

def Placed (q : Program) (site : SiteId) : Prop :=
  site.index < q.sites.size ∧ (q.site site).kind.isKept = false

omit amid in
theorem Placed.later {r : Program} {site : SiteId} (placed : Placed q site) (kinds : q.Kinds r) :
    Placed r site :=
  ⟨Nat.lt_of_lt_of_le placed.1 kinds.sites, by rw [kinds.kind site placed.1, placed.2]⟩

theorem spells_place {s : Site} (unanswered : s.answers.type = none) (other : s.kind.isKept = false) :
    (spelling p).Keeps q (newSite s) fun r id => Placed r id := by
  refine (spells_newSite amid unanswered).weaken ?_
  rintro _ _ _ _ ⟨rfl, rfl⟩
  refine ⟨by simp [addSite], ?_⟩
  rw [site_addSite, if_pos rfl, other]

theorem spells_source (fileName : String) :
    (spelling p).Keeps q (source fileName) fun _ _ => True := by
  apply Course.get_bind
  split
  · exact Course.pure amid trivial
  · refine Course.bind (spells_place amid rfl rfl) fun id r amidR _ _ => ?_
    refine Course.bind (spells_modify amidR rfl rfl rfl (fun _ held => held) fun kinds =>
      amidR.caches.carry kinds rfl rfl) fun _ t amidT _ _ => ?_
    exact Course.pure amidT trivial

structure Introduced (p q : Program) (kind : SiteKind) (name : String) (flags : SymbolFlags)
    (symbol : SymbolId) (site : SiteId) : Prop where
  held : symbol.index < q.symbols.size
  called : (q.symbol symbol).name = name
  flagged : (q.symbol symbol).flags = flags
  declarations : flags.contains .typeAlias = true →
    (q.symbol symbol).declarations = Slots.of [site]
  new : p.sites.size ≤ site.index
  there : site.index < q.sites.size
  kind : (q.site site).kind = kind
  unanswered : (q.site site).answers.type = none

omit amid in
theorem Introduced.placed {kind : SiteKind} {name : String} {flags : SymbolFlags} {symbol : SymbolId}
    {site : SiteId} (declared : Introduced p q kind name flags symbol site)
    (other : kind.isKept = false) : Placed q site :=
  ⟨declared.there, by rw [declared.kind, other]⟩

omit amid in
theorem Introduced.later {r : Program} {kind : SiteKind} {name : String} {flags : SymbolFlags}
    {symbol : SymbolId} {site : SiteId} (introduced : Introduced p q kind name flags symbol site)
    (grown : q.Kinds r)
    (unanswered : (r.site site).answers.type = (q.site site).answers.type) :
    Introduced p r kind name flags symbol site := by
  have settles := grown.symbol symbol introduced.held
  refine ⟨Nat.lt_of_lt_of_le introduced.held grown.symbols, settles.name.trans introduced.called,
    settles.flags.trans introduced.flagged, ?_,
    introduced.new, Nat.lt_of_lt_of_le introduced.there grown.sites,
    (grown.kind site introduced.there).trans introduced.kind, unanswered.trans introduced.unanswered⟩
  intro named
  rw [settles.declarations (by rw [Symbol.hasFlag, introduced.flagged, named]),
    introduced.declarations named]

theorem spells_declareAs (kind : SiteKind) (name : String) (flags : SymbolFlags)
    (doc fileName : Option String) :
    (spelling p).Keeps q (declare kind name flags doc fileName) fun r made =>
      Introduced p r kind name flags made.1 made.2 := by
  apply Course.get_bind
  refine Course.bind (spells_source amid _) fun parent r amidR _ _ => ?_
  refine Course.bind (spells_newSite amidR rfl) ?_
  rintro _ t amidT - ⟨rfl, rfl⟩
  have here := (r.site_addSite { kind, name := some name, parent := some parent } ⟨r.sites.size⟩).trans
    (if_pos rfl)
  refine Course.bind (spells_newSymbol amidT _) ?_
  rintro symbol u amidU grown ⟨there, sites, called, flagged, declared⟩
  have inside : r.sites.size < u.sites.size := by
    rw [sites]
    simp [addSite]
  have same : u.site ⟨r.sites.size⟩ = { kind, name := some name, parent := some parent } := by
    rw [Program.site, sites]
    exact here
  refine Course.bind (spells_likeSite amidU ⟨r.sites.size⟩ fun _ => ⟨rfl, rfl, rfl, rfl, rfl⟩) ?_
  intro _ v amidV last alike
  have settles := last.symbol symbol there
  refine Course.pure amidV ⟨Nat.lt_of_lt_of_le there last.symbols, settles.name.trans called,
    settles.flags.trans flagged, ?_,
    amidR.sites, Nat.lt_of_lt_of_le inside last.sites, ?_, ?_⟩
  · intro named
    rw [settles.declarations (by rw [Symbol.hasFlag, flagged, named]), declared]
  · rw [(alike _).kind, same]
  · rw [(alike _).answer, same]

theorem spells_declare {kind : SiteKind} (other : kind.isKept = false) (name : String)
    (flags : SymbolFlags) (doc fileName : Option String) :
    (spelling p).Keeps q (declare kind name flags doc fileName) fun r made =>
      made.1.index < r.symbols.size ∧ Placed r made.2 :=
  (spells_declareAs amid kind name flags doc fileName).weaken fun _ _ _ _ declared =>
    ⟨declared.held, declared.placed other⟩

theorem spells_setExports (exports : Slots SymbolId) :
    (spelling p).Keeps q (setExports exports) fun _ _ => True :=
  Course.get_bind (spells_setSymbol amid _ ⟨rfl, rfl, fun _ => rfl⟩)

theorem spells_addExport (symbol : Option SymbolId) :
    (spelling p).Keeps q (addExport symbol) fun _ _ => True := by
  apply Course.get_bind
  refine Course.lift_bind amid fun exports _ => ?_
  split
  · exact Course.pure amid trivial
  · exact Course.lift_bind amid fun pushed _ => spells_setExports amid pushed

theorem spells_pushExport (symbol : SymbolId) :
    (spelling p).Keeps q (pushExport symbol) fun _ _ => True := by
  apply Course.get_bind
  exact Course.lift_bind amid fun exports _ => spells_setExports amid _

theorem spells_exportIf (exported : Bool) (symbol : SymbolId) :
    (spelling p).Keeps q (exportIf exported symbol) fun _ _ => True := by
  unfold exportIf
  split
  · exact spells_addExport amid _
  · exact Course.pure amid trivial

theorem spells_typeParameter (name : String) (constraint default : Option TypeId) :
    (spelling p).Keeps q (typeParameter name constraint default) fun r type =>
      r.Parameter name type := by
  refine Course.bind (spells_declareAs amid .typeParameter name [.typeParameter] none none) ?_
  rintro ⟨symbol, site⟩ r amidR - introduced
  have placed := introduced.placed rfl
  refine Course.bind (spells_touchSite amidR site fun _ => ⟨rfl, rfl, rfl, rfl, rfl⟩) ?_
  intro _ t amidT grownT _
  have there := Nat.lt_of_lt_of_le introduced.held grownT.symbols
  refine Course.bind (spells_newType amidT
    (formed_of_declared (show _ = some symbol from rfl) there rfl rfl rfl (.inr (.inl rfl)))) ?_
  intro type u amidU grownU made
  have placed : Placed u site := (placed.later grownT).later grownU
  have parameter : u.Parameter name type := by
    refine ⟨symbol, constraint, made, Nat.lt_of_lt_of_le there grownU.symbols, ?_⟩
    rw [(grownU.symbol symbol there).name, (grownT.symbol symbol introduced.held).name,
      introduced.called]
  have finish {v : Program} (amidV : p.Amid v) (grown : u.Kinds v) :
      (spelling p).Keeps v
        (do
          bindDeclared symbol type
          bindSite site type
          pure type)
        fun r type => r.Parameter name type := by
    refine Course.bind (spells_bindDeclared amidV _ _) fun _ w amidW further _ => ?_
    refine Course.bind (spells_bindSite amidW ((placed.later grown).later further).2 _) ?_
    intro _ x amidX last _
    exact Course.pure amidX (parameter.later ((grown.trans further).trans last))
  have fallback {v : Program} (amidV : p.Amid v) (grown : u.Kinds v) :
      (spelling p).Keeps v
        (writingDefault default site do
          bindDeclared symbol type
          bindSite site type
          pure type)
        fun r type => r.Parameter name type := by
    cases default with
    | none => exact finish amidV grown
    | some fallback =>
        refine Course.bind (spells_writtenType amidV _ _) fun written w amidW further _ => ?_
        refine Course.bind (spells_touchSite amidW site fun _ => ⟨rfl, rfl, rfl, rfl, rfl⟩) ?_
        exact fun _ x amidX last _ => finish amidX ((grown.trans further).trans last)
  cases constraint with
  | none => exact fallback amidU (Kinds.refl u)
  | some bound =>
      refine Course.bind (spells_writtenType amidU _ _) fun written v amidV grown _ => ?_
      refine Course.bind (spells_touchSite amidV site fun _ => ⟨rfl, rfl, rfl, rfl, rfl⟩) ?_
      exact fun _ w amidW further _ => fallback amidW (grown.trans further)

theorem spells_infer (name : String) :
    (spelling p).Keeps q (infer name) fun r type => r.Parameter name type := by
  refine Course.bind (spells_typeParameter amid name none none) fun type r amidR _ parameter => ?_
  refine Course.bind (spells_modify amidR rfl rfl rfl (fun _ held => List.mem_append_left _ held)
    fun kinds => amidR.caches.carry kinds rfl rfl) ?_
  exact fun _ t amidT grown _ => Course.pure amidT (parameter.later grown)

theorem spells_fillDefaults (params : List (Option TypeId)) :
    (spelling p).Keeps q (fillDefaults params) fun _ _ => True := by
  induction params with
  | nil => exact Course.pure amid trivial
  | cons param rest ih =>
      refine Course.ask_bind amid fun declared _ => ?_
      refine Course.lift_bind amid fun site _ => Course.get_bind ?_
      split
      · exact Course.pure amid trivial
      · refine Course.ask_bind amid fun type _ => ?_
        exact Course.bind ih fun others r amidR _ _ => Course.pure amidR trivial

theorem spells_withDefaults (params arguments : List (Option TypeId)) :
    (spelling p).Keeps q (withDefaults params arguments) fun _ _ => True :=
  Course.bind (spells_fillDefaults amid _) fun _ _ amidR _ _ => Course.pure amidR trivial

theorem spells_instantiateMember (mapping : Mapping) (member : Option SymbolId) :
    (spelling p).Keeps q (instantiateMember mapping member) fun _ _ => True := by
  apply Course.get_bind
  refine Course.lift_bind amid fun declared _ => ?_
  refine Course.bind (spells_newSymbol amid _) fun symbol r amidR _ _ => ?_
  split
  · refine Course.bind (spells_bindSymbol amidR _ _) fun _ t amidT _ _ => ?_
    exact Course.pure amidT trivial
  · exact Course.pure amidR trivial

theorem spells_instantiateIndex (mapping : Mapping) (index : Option IndexId) :
    (spelling p).Keeps q (instantiateIndex mapping index) fun _ _ => True := by
  cases index with
  | none => exact Course.pure amid trivial
  | some id =>
      apply Course.get_bind
      dsimp only
      split
      · exact Course.pure amid trivial
      · exact Course.map _ (spells_newIndexInfo amid _) fun _ _ _ => trivial

theorem spells_instantiate (generic : Option TypeId) (arguments : List (Option TypeId)) :
    (spelling p).Keeps q (instantiate generic arguments) fun _ _ => True := by
  refine Course.lift_bind amid fun target _ => Course.get_bind ?_
  refine Course.bind (spells_withDefaults amid _ _) fun filled r amidR grown _ => ?_
  refine Course.lift_bind amidR fun members _ => ?_
  refine Course.bind (Course.mapM (fun _ _ _ _ _ => trivial) amidR fun member _ t amidT _ =>
    spells_instantiateMember amidT _ member) ?_
  intro properties t amidT further _
  refine Course.lift_bind amidT fun calls _ => ?_
  refine Course.bind (spells_instantiateIndex amidT _ _) fun stringIndex u amidU more _ => ?_
  refine Course.bind (spells_instantiateIndex amidU _ _) fun numberIndex v amidV last _ => ?_
  have grown : q.Kinds v := ((grown.trans further).trans more).trans last
  refine (spells_newType amidV ?_).weaken fun _ _ _ _ _ => trivial
  have here (other : (q.type target).symbol ≠ none) : target.index < q.types.size := by
    apply Nat.lt_of_not_le
    intro outside
    rw [q.type_of_size_le outside] at other
    exact other rfl
  refine ⟨?_, nofun, nofun, ?_, fun _ => .inl rfl, nofun⟩
  · intro symbol held
    have held : (q.type target).symbol = some symbol := held
    exact Nat.lt_of_lt_of_le ((amid.formed target).symbol symbol held) grown.symbols
  · rintro other _ ⟨⟩
    exact ⟨Nat.lt_of_lt_of_le (here other) grown.types, (grown.type target (here other)).symbol⟩

theorem spells_instantiateAlias (aliased : Option TypeId) (arguments : List (Option TypeId)) :
    (spelling p).Keeps q (instantiateAlias aliased arguments) fun _ _ => True := by
  apply Course.get_bind
  refine Course.lift_bind amid fun id _ => ?_
  dsimp only
  split
  · exact Course.throw amid _
  · refine Course.lift_bind amid fun first _ => Course.lift_bind amid fun site _ => ?_
    refine Course.lift_bind amid fun written _ => ?_
    refine Course.bind (Course.mapM (fun _ _ _ _ _ => trivial) amid fun param _ r amidR _ =>
      Course.ask amidR fun _ _ => trivial) ?_
    intro params r amidR grown _
    refine Course.bind (spells_newType amidR ((amid.formed id).carry grown)) fun copy t amidT _ _ => ?_
    refine Course.bind (spells_withDefaults amidT _ _) fun filled u amidU _ _ => ?_
    refine Course.bind (spells_setType amidU copy (fun _ => ⟨rfl, fun _ held => held⟩) fun _ => rfl) ?_
    exact fun _ v amidV _ _ => Course.pure amidV trivial

theorem spells_attachTypeParameters {site : SiteId} (params : List (Option TypeId)) :
    (spelling p).Keeps q (attachTypeParameters site params) fun r _ =>
      ∀ id, (q.site id).Like (r.site id) := by
  refine Course.forM (fun r => ∀ id, (q.site id).Like (r.site id)) amid
    (fun _ => Site.Like.refl _) fun param _ r amidR _ alike => ?_
  refine Course.ask_bind amidR fun declared _ => Course.lift_bind amidR fun paramSite _ => ?_
  refine Course.bind (spells_likeSite amidR paramSite fun _ => ⟨rfl, rfl, rfl, rfl, rfl⟩) ?_
  intro _ t amidT _ same
  refine Course.Keeps.weaken (spells_likeSite amidT site fun _ => ⟨rfl, rfl, rfl, rfl, rfl⟩) ?_
  exact fun _ _ _ _ last id => ((alike id).trans (same id)).trans (last id)

theorem spells_parameter (parent : SiteId) (spec : ParamSpec) :
    (spelling p).Keeps q (parameter parent spec) fun _ _ => True := by
  refine Course.bind (spells_place amid rfl rfl) fun site r amidR _ placed => ?_
  refine Course.bind (spells_newSymbol amidR _) fun symbol t amidT grown _ => ?_
  refine Course.bind (spells_touchSite amidT site fun _ => ⟨rfl, rfl, rfl, rfl, rfl⟩) ?_
  intro _ u amidU further _
  have placed := (placed.later grown).later further
  split
  · rename_i type _
    refine Course.bind (spells_writtenType amidU _ _) fun written v amidV more _ => ?_
    refine Course.bind (spells_changeSite amidV (fun _ => rfl) (placed.later more).2) ?_
    intro _ w amidW _ _
    refine Course.bind (spells_bindSymbol amidW _ _) fun _ x amidX _ _ => ?_
    exact Course.pure amidX trivial
  · exact Course.pure amidU trivial

theorem spells_addParameters (parent : SiteId) (specs : List ParamSpec) :
    (spelling p).Keeps q (addParameters parent specs) fun _ _ => True := by
  refine Course.bind (Course.mapM (fun _ _ _ _ _ => trivial) amid fun spec _ r amidR _ =>
    spells_parameter amidR parent spec) ?_
  intro params r amidR _ _
  refine Course.bind (spells_touchSite amidR parent fun _ => ⟨rfl, rfl, rfl, rfl, rfl⟩) ?_
  exact fun _ t amidT _ _ => Course.pure amidT trivial

theorem spells_newObject {objectFlags : ObjectFlags} {symbol : SymbolId}
    (there : symbol.index < q.symbols.size) {t : TypeInfo} (flags : t.flags = [.object])
    (object : t.objectFlags = objectFlags) (plain : objectFlags.contains .tuple = false)
    (held : t.symbol = some symbol) (aliased : t.alias? = none) (target : t.target = none) :
    (spelling p).Keeps q (newType t) fun _ _ => True :=
  (spells_newType amid (formed_of_declared held there aliased target
    (by rw [TypeInfo.hasObjectFlag, object, plain]) (.inl flags))).weaken fun _ _ _ _ _ => trivial

theorem spells_callable {symbol : SymbolId} (there : symbol.index < q.symbols.size) {site : SiteId}
    (placed : Placed q site) (parameters : List ParamSpec) (returns : Option TypeId)
    (typeParameters : List (Option TypeId)) :
    (spelling p).Keeps q (callable symbol site parameters returns typeParameters) fun _ _ => True := by
  refine Course.bind (spells_attachTypeParameters amid _) fun _ r amidR first _ => ?_
  refine Course.bind (spells_addParameters amidR _ _) fun params t amidT second _ => ?_
  refine Course.bind (spells_writtenType amidT _ _) fun written u amidU third _ => ?_
  have placed := ((placed.later first).later second).later third
  refine Course.bind (spells_changeSite amidU (fun _ => rfl) placed.2) fun _ v amidV fourth _ => ?_
  refine Course.bind (spells_newSignature amidV _) fun signature w amidW fifth _ => ?_
  refine Course.bind (spells_bindSignature amidW _ _) fun _ x amidX sixth _ => ?_
  have grown := ((((first.trans second).trans third).trans fourth).trans fifth).trans sixth
  refine Course.bind (spells_newObject amidX (Nat.lt_of_lt_of_le there grown.symbols) rfl rfl rfl rfl
    rfl rfl) fun type y amidY seventh _ => ?_
  refine Course.bind (spells_bindSite amidY
    ((((placed.later fourth).later fifth).later sixth).later seventh).2 _) ?_
  exact fun _ z amidZ _ _ => Course.pure amidZ trivial

theorem spells_propMember (name : String) (spec : PropSpec) (parent : SiteId) {kind : SiteKind}
    (other : kind.isKept = false) :
    (spelling p).Keeps q (propMember name spec parent kind) fun _ _ => True := by
  refine Course.bind (spells_place amid rfl other) fun site r amidR _ placed => ?_
  refine Course.bind (spells_writtenType amidR _ _) fun written t amidT grown _ => ?_
  refine Course.bind (spells_changeSite amidT (fun _ => rfl) (placed.later grown).2) ?_
  intro _ u amidU _ _
  refine Course.bind (spells_newSymbol amidU _) fun symbol v amidV _ _ => ?_
  refine Course.bind (spells_touchSite amidV site fun _ => ⟨rfl, rfl, rfl, rfl, rfl⟩) ?_
  intro _ w amidW _ _
  refine Course.bind (spells_bindSymbol amidW _ _) fun _ x amidX _ _ => ?_
  exact Course.pure amidX trivial

theorem spells_methodMember (name : String) (spec : MethodSpec) (parent : SiteId) :
    (spelling p).Keeps q (methodMember name spec parent) fun _ _ => True := by
  refine Course.bind (spells_place amid rfl rfl) fun site r amidR _ placed => ?_
  refine Course.bind (spells_newSymbol amidR _) fun symbol t amidT grown made => ?_
  refine Course.bind (spells_touchSite amidT site fun _ => ⟨rfl, rfl, rfl, rfl, rfl⟩) ?_
  intro _ u amidU further _
  refine Course.bind (spells_callable amidU (Nat.lt_of_lt_of_le made.1 further.symbols)
    ((placed.later grown).later further) _ _ _) fun type v amidV _ _ => ?_
  refine Course.bind (spells_bindSymbol amidV _ _) fun _ w amidW _ _ => ?_
  exact Course.pure amidW trivial

theorem spells_member (parent : SiteId) {kind : SiteKind} (other : kind.isKept = false)
    (name : String) (spec : MemberSpec) :
    (spelling p).Keeps q (member parent kind name spec) fun _ _ => True := by
  cases spec with
  | plain type =>
      cases type with
      | none => exact Course.throw amid _
      | some type => exact spells_propMember amid _ _ _ other
  | prop spec => exact spells_propMember amid _ _ _ other
  | method spec => exact spells_methodMember amid _ _ _

theorem spells_members (parent : SiteId) {kind : SiteKind} (other : kind.isKept = false)
    (specs : Table String MemberSpec) :
    (spelling p).Keeps q (members parent kind specs) fun _ _ => True :=
  (Course.mapM (fun _ _ _ _ _ => trivial) amid fun spec _ _ amidR _ =>
    spells_member amidR parent other spec.1 spec.2).weaken fun _ _ _ _ _ => trivial

theorem spells_indexSignature (keyType : TypeId) (spec : Option IndexSpec) (parent : SiteId) :
    (spelling p).Keeps q (indexSignature keyType spec parent) fun _ _ => True := by
  cases spec with
  | none => exact Course.pure amid trivial
  | some spec =>
      refine Course.bind (spells_place amid rfl rfl) fun site r amidR _ _ => ?_
      have finish {t : Program} (amidT : p.Amid t) :
          (spelling p).Keeps t
            (some <$> newIndexInfo
              { keyType := some keyType, type := spec.type, declaration := some site })
            fun _ _ => True :=
        Course.map some (spells_newIndexInfo amidT _) fun _ _ _ => trivial
      split
      · refine Course.bind (spells_place amidR rfl rfl) fun key t amidT _ _ => ?_
        refine Course.bind (spells_touchSite amidT site fun _ => ⟨rfl, rfl, rfl, rfl, rfl⟩) ?_
        exact fun _ u amidU _ _ => finish amidU
      · exact finish amidR

theorem spells_populate (type : TypeId) (site : SiteId) (specs : Table String MemberSpec)
    (bases : List (Option TypeId)) {kind : SiteKind} (other : kind.isKept = false)
    (stringIndex numberIndex : Option IndexSpec) :
    (spelling p).Keeps q (populate type site specs bases kind stringIndex numberIndex)
      fun _ _ => True := by
  refine Course.bind (spells_members amid site other specs) fun own r amidR _ _ => ?_
  refine Course.ask_bind amidR fun inherited _ => ?_
  refine Course.bind (spells_indexSignature amidR _ _ _) fun ownString t amidT _ _ => ?_
  refine Course.bind (spells_indexSignature amidT _ _ _) fun ownNumber u amidU _ _ => ?_
  apply Course.get_bind
  exact spells_setType amidU type (fun _ => ⟨rfl, fun _ held => held⟩)
    fun _ => rfl

theorem spells_heritageSite (parent : SiteId) (base : Option TypeId) :
    (spelling p).Keeps q (heritageSite parent base) fun _ _ => True := by
  apply Course.get_bind
  refine Course.lift_bind amid fun id _ => ?_
  refine Course.bind (spells_place amid rfl rfl) fun site r amidR _ placed => ?_
  refine Course.bind (spells_place amidR rfl rfl) fun expression t amidT grown _ => ?_
  refine Course.bind (spells_touchSite amidT site fun _ => ⟨rfl, rfl, rfl, rfl, rfl⟩) ?_
  intro _ u amidU further _
  refine Course.bind (spells_bindSite amidU ((placed.later grown).later further).2 _) ?_
  exact fun _ v amidV _ _ => Course.pure amidV trivial

theorem spells_addHeritage (site : SiteId) (token : HeritageToken) (bases : List (Option TypeId)) :
    (spelling p).Keeps q (addHeritage site token bases) fun _ _ => True := by
  unfold addHeritage
  split
  · exact Course.pure amid trivial
  · refine Course.bind (Course.mapM (fun _ _ _ _ _ => trivial) amid fun base _ r amidR _ =>
      spells_heritageSite amidR site base) ?_
    exact fun types r amidR _ _ => spells_touchSite amidR site fun _ => ⟨rfl, rfl, rfl, rfl, rfl⟩

end Build

end TypeAtlas
