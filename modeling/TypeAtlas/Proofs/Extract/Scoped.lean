import TypeAtlas.Proofs.Extract.Flattened
import TypeAtlas.Proofs.Extract.Scoping

/-!
Entries in their scopes. What an entry leaves open is registered, except for what a member uses that is
listed again on it, and for what a structural base uses that is written by a name; such a base has no
scope of its own.
-/

namespace TypeAtlas

open Node (Open OpenAll)

variable {α β : Type}

/-- Names that roots open a scope under. -/
def Program.RootName (p : Program) (name : String) : Prop :=
  name = RootKind.syntheticName ∨ ∃ symbol, p.IsRoot symbol ∧ (p.symbol symbol).name = name

namespace Engine

/-- A name that an entry uses by a member that is not declared on its type. -/
def Repeated (e : Engine) (u : Usage) (name : String) (node : Node) (used : String) : Prop :=
  ∃ type, e.Enters type name ∧ e.program.Repeats u (e.entryType type)
    (e.program.own (e.entryType type)) node.members used

end Engine

/-- Names are declared under what is registered, and what an entry leaves open is registered, unless it
is used by a member that is listed again or the entry has declared nothing. -/
structure Walk.Tidy (w : Walk) (e : Engine) (u : Usage) : Prop where
  fresh : ∀ name, w.registry.has name = false → ¬ e.program.RootName name → w.localsOf name = []
  closed : ∀ name node, w.registry.Filled name node → ∀ used, node.Open used →
    w.registry.has used = true ∨ e.Repeated u name node used ∨
      w.localsOf name = [] ∧ ¬ e.program.RootName name

namespace Walk

structure Tidier (e : Engine) (u : Usage) (w after : Walk) : Prop where
  names : ∀ name, w.registry.has name = true → after.registry.has name = true
  locals : ∀ name, w.registry.has name = true → ¬ e.program.RootName name →
    after.localsOf name = w.localsOf name
  tidy : w.Tidy e u → after.Tidy e u

variable {e : Engine} {u : Usage}

theorem localsOf_closeScope_of_ne (w : Walk) {name other : String} (distinct : name ≠ other) :
    (w.closeScope name).localsOf other = w.localsOf other := by
  unfold closeScope localsOf
  split
  · rfl
  · rfl
  · exact congrArg (Option.getD · []) (Table.get?_put_of_ne w.localNames _ distinct)

theorem Tidier.refl (w : Walk) : w.Tidier e u w := ⟨fun _ => id, fun _ _ _ => rfl, id⟩

theorem Tidier.trans {w between after : Walk} (first : w.Tidier e u between)
    (second : between.Tidier e u after) : w.Tidier e u after where
  names name known := second.names name (first.names name known)
  locals name known notRoot :=
    (second.locals name (first.names name known) notRoot).trans (first.locals name known notRoot)
  tidy tidy := second.tidy (first.tidy tidy)

/-- A step that changes neither entries nor what they have declared. -/
theorem Tidier.of_same {w after : Walk} (registry : after.registry = w.registry)
    (locals : after.localNames = w.localNames) : w.Tidier e u after := by
  have same (name : String) : after.localsOf name = w.localsOf name := by
    rw [localsOf, localsOf, locals]
  refine ⟨fun name known => by rwa [registry], fun name _ _ => same name, fun tidy => ⟨?_, ?_⟩⟩
  · intro name unknown notRoot
    rw [registry] at unknown
    rw [same]
    exact tidy.fresh name unknown notRoot
  · intro name node filled used opened
    rw [registry] at filled ⊢
    rw [same]
    exact tidy.closed name node filled used opened

/-- Entries that were there before stay closed. -/
theorem Tidier.closed {w after : Walk} (tidier : w.Tidier e u after) (tidy : w.Tidy e u) {name : String}
    {node : Node} (filled : w.registry.Filled name node) {used : String} (opened : node.Open used) :
    after.registry.has used = true ∨ e.Repeated u name node used ∨
      after.localsOf name = [] ∧ ¬ e.program.RootName name := by
  have known : w.registry.has name = true := Registry.has_of_get? filled.1
  rcases tidy.closed name node filled used opened with registered | repeated | ⟨none, notRoot⟩
  · exact Or.inl (tidier.names used registered)
  · exact Or.inr (Or.inl repeated)
  · exact Or.inr (Or.inr ⟨(tidier.locals name known notRoot).trans none, notRoot⟩)

theorem tidier_reserve (w : Walk) (name : String) : w.Tidier e u (w.reserve name) := by
  have names : ∀ other, w.registry.has other = true → (w.reserve name).registry.has other = true :=
    fun other known => (extends_reserve w name).has known
  refine ⟨names, fun _ _ _ => rfl, fun tidy => ⟨?_, ?_⟩⟩
  · intro other unknown notRoot
    refine tidy.fresh other (Bool.eq_false_iff.mpr fun known => ?_) notRoot
    rw [names other known] at unknown
    cases unknown
  · intro other node filled used opened
    rcases tidy.closed other node (Registry.filled_of_reserve filled) used opened with known | rest
    · exact Or.inl (names used known)
    · exact Or.inr rest

theorem tidier_set {w : Walk} {name : String} {node : Node}
    (settled : w.Tidy e u → ∀ used, node.Open used → w.registry.has used = true ∨
      e.Repeated u name node used ∨ w.localsOf name = [] ∧ ¬ e.program.RootName name) :
    w.Tidier e u (w.set name node) := by
  have names : ∀ other, w.registry.has other = true → (w.set name node).registry.has other = true :=
    fun other known => (extends_set w name node).has known
  refine ⟨names, fun _ _ _ => rfl, fun tidy => ⟨?_, ?_⟩⟩
  · intro other unknown notRoot
    refine tidy.fresh other (Bool.eq_false_iff.mpr fun known => ?_) notRoot
    rw [names other known] at unknown
    cases unknown
  · intro other held filled used opened
    rcases Registry.filled_of_set filled with ⟨rfl, rfl⟩ | ⟨-, filled⟩
    · exact (settled tidy used opened).imp_left (names used)
    · exact (tidy.closed other held filled used opened).imp_left (names used)

theorem Tidier.closeScope {w inner : Walk} {name : String} (isRoot : e.program.RootName name)
    (ran : w.openScope.Tidier e u inner) : w.Tidier e u (inner.closeScope name) := by
  have locals {other : String} (notRoot : ¬ e.program.RootName other) :
      (inner.closeScope name).localsOf other = inner.localsOf other :=
    localsOf_closeScope_of_ne inner fun same => notRoot (same ▸ isRoot)
  refine ⟨fun other known => ?_, fun other known notRoot => ?_, fun tidy => ?_⟩
  · rw [registry_closeScope]
    exact ran.names other known
  · exact (locals notRoot).trans (ran.locals other known notRoot)
  · have tidy : inner.Tidy e u := ran.tidy ⟨tidy.fresh, tidy.closed⟩
    refine ⟨fun other unknown notRoot => ?_, fun other node filled used opened => ?_⟩
    · rw [registry_closeScope] at unknown
      rw [locals notRoot]
      exact tidy.fresh other unknown notRoot
    · rw [registry_closeScope] at filled ⊢
      rcases tidy.closed other node filled used opened with known | repeated | ⟨none, notRoot⟩
      · exact Or.inl known
      · exact Or.inr (Or.inl repeated)
      · exact Or.inr (Or.inr ⟨(locals notRoot).trans none, notRoot⟩)

theorem Tidier.entry {w inner : Walk} {name : String} {node : Node}
    (free : w.registry.has name = false ∨ e.program.RootName name)
    (ran : w.openScope.Tidier e u inner)
    (settled : ∀ used, node.Open used → inner.registry.has used = true ∨ e.Repeated u name node used) :
    w.Tidier e u ((inner.set name node).closeScope name) := by
  rcases free with unknown | isRoot
  · have names (other : String) (known : inner.registry.has other = true) :
        (inner.registry.set name node).has other = true := (extends_set inner name node).has known
    refine ⟨fun other known => ?_, fun other known notRoot => ?_, fun tidy => ?_⟩
    · rw [registry_closeScope]
      exact names other (ran.names other known)
    · have distinct : name ≠ other := by
        rintro rfl
        rw [unknown] at known
        cases known
      rw [localsOf_closeScope_of_ne _ distinct]
      exact ran.locals other known notRoot
    · have tidy : inner.Tidy e u := ran.tidy ⟨tidy.fresh, tidy.closed⟩
      refine ⟨fun other unknown notRoot => ?_, fun other held filled used opened => ?_⟩
      · rw [registry_closeScope] at unknown
        have distinct : name ≠ other := by
          rintro rfl
          rw [show (inner.set _ node).registry = inner.registry.set _ node from rfl,
            Registry.has_set_self] at unknown
          cases unknown
        rw [localsOf_closeScope_of_ne _ distinct]
        refine tidy.fresh other (Bool.eq_false_iff.mpr fun known => ?_) notRoot
        rw [show (inner.set name node).registry = inner.registry.set name node from rfl,
          names other known] at unknown
        cases unknown
      · rw [registry_closeScope] at filled ⊢
        rcases Registry.filled_of_set filled with ⟨rfl, rfl⟩ | ⟨distinct, filled⟩
        · exact (settled used opened).imp (names used) Or.inl
        · rw [localsOf_closeScope_of_ne _ distinct]
          exact (tidy.closed other held filled used opened).imp_left (names used)
  · refine Tidier.closeScope isRoot (ran.trans (tidier_set fun _ used opened => ?_))
    exact (settled used opened).imp_right Or.inl

end Walk

namespace Extract

def Tidies (e : Engine) (u : Usage) (step : Extract α) : Prop :=
  ∀ w value after, step w = (.ok value, after) → w.Tidier e u after

variable {e : Engine} {u : Usage}

theorem tidies_of_same {step : Extract α} (registry : ∀ w, (step w).2.registry = w.registry)
    (locals : ∀ w, (step w).2.localNames = w.localNames) : Tidies e u step := by
  intro w value after ran
  have registry := registry w
  have locals := locals w
  rw [ran] at registry locals
  exact .of_same registry locals

theorem localNames_declareLocal (w : Walk) (name : String) :
    (w.declareLocal name).localNames = w.localNames := by
  unfold Walk.declareLocal
  split <;> rfl

theorem localNames_bind (w : Walk) (home name : String) : (w.bind home name).2.localNames = w.localNames := by
  unfold Walk.bind
  dsimp only
  split <;> rfl

theorem composes_tidies : Composes (Tidies e u) where
  bind_of first rest := by
    intro w value final ran
    obtain ⟨between, after, started, ended⟩ := of_bind_ok ran
    exact (first w between after started).trans (rest w between after started after value final ended)
  same same := tidies_of_same (fun w => by rw [same w]) fun w => by rw [same w]
  emit _ := tidies_of_same (fun _ => rfl) fun _ => rfl
  declareLocal name := tidies_of_same (fun w => Walk.registry_declareLocal w name)
    fun w => localNames_declareLocal w name
  count := tidies_of_same (fun _ => rfl) fun _ => rfl

theorem tidies_reserve (name : String) : Tidies e u (reserve name) := by
  intro w _ after ran
  cases ran
  exact Walk.tidier_reserve w name

/-- A node that leaves nothing open may stand under any name. -/
theorem tidies_set {name : String} {node : Node} (closed : ∀ used, ¬ node.Open used) :
    Tidies e u (set name node) := by
  intro w _ after ran
  cases ran
  exact Walk.tidier_set fun _ used opened => absurd opened (closed used)

/-- The body of an entry leaves nothing open but what is registered or repeated. -/
theorem tidies_entry {name : String} {body : Extract Node} {w after : Walk}
    (free : w.registry.has name = false ∨ e.program.RootName name) (tidies : Tidies e u body)
    (opens : Opens (fun _ => False) body fun node used => node.Open used ∧ ¬ e.Repeated u name node used)
    {start : Walk} (begun : w.openScope.Tidier e u start)
    (ran : (do set name (← body) : Extract Unit) start = (.ok (), after)) :
    w.Tidier e u (after.closeScope name) := by
  obtain ⟨node, inner, made, written⟩ := of_bind_ok ran
  cases written
  refine Walk.Tidier.entry free (begun.trans (tidies start node inner made)) fun used opened => ?_
  by_cases repeated : e.Repeated u name node used
  · exact Or.inr repeated
  · exact Or.inl ((opens.opened start node inner made used ⟨opened, repeated⟩).resolve_right id)

theorem tidies_register {name : String} {body : Extract Node} (tidies : Tidies e u body)
    (opens : Opens (fun _ => False) body fun node used =>
      node.Open used ∧ ¬ e.Repeated u name node used) :
    Tidies e u (Engine.register name body) := by
  intro w _ after ran
  rw [Engine.register, bind_ok (isRegistered_apply name w)] at ran
  cases known : w.registry.has name with
  | true =>
      rw [known] at ran
      cases ran
      exact .refl w
  | false =>
      simp only [known, Bool.false_eq_true, if_false] at ran
      obtain ⟨inner, entered, rfl⟩ := of_inScope_ok ran
      obtain ⟨_, reserved, first, written⟩ := of_bind_ok entered
      exact tidies_entry (Or.inl known) tidies opens (tidies_reserve name _ _ _ first) written

end Extract

namespace Engine

open Extract

/-- Every way on from a type of an engine keeps a walk tidy, as entries of an extraction with the
program, the settings and the libraries of another, and bodies leave open only what their types use. -/
structure Tidying (e b : Engine) (u : Usage) : Prop where
  program : e.program = b.program
  settings : e.settings = b.settings
  libraries : e.libraries = b.libraries
  opening : e.Opening u
  visit : ∀ type, Tidies b u (e.visit type)
  visitInline : ∀ type, Tidies b u (e.visitInline type)
  visitNamed : ∀ site type, e.program.isReferenceSite site = true →
    e.program.typeAt site = .ok (some type) →
    Tidies b u (e.visitNamed type (site.bind fun id => (e.program.site id).name))
  bodyOfType : ∀ type, Tidies b u (e.bodyOfType type)
  bodyOfAlias : ∀ site, Tidies b u (e.bodyOfAlias site)
  described : ∀ type, b.entryUses u type = [] →
    Opens (fun _ => False) (e.bodyOfType type) (b.EntryOpen u type (b.program.own type))
  aliased : ∀ site, b.aliasUses u site = [] → Opens (fun _ => False) (e.bodyOfAlias site) Open

/-- A usage by which a program is well scoped: bodies and roots use nothing that they do not bind
themselves, and no structural base is written by the name of a root unless it uses nothing. A declared
type with a name that counts as made up is written out as the root that it is. -/
structure WellScoped (e : Engine) (u : Usage) : Prop where
  types : ∀ type name, e.Enters type name → e.entryUses u (e.entryType type) = []
  aliases : ∀ type symbol site, (e.program.type type).alias? = some symbol →
    e.program.firstDeclaration (some symbol) = some site → e.aliasUses u site = []
  bases : ∀ declaration, ∀ clause ∈ (e.program.site declaration).heritage, ∀ site,
    some site ∈ clause.types → ∀ base name, e.program.typeAt (some site) = .ok (some base) →
      e.baseName site = some name → e.program.RootName name → u.named base = []
  roots : ∀ symbol site, e.program.IsRoot symbol → e.program.DeclaredAt symbol site →
    e.program.rootUses u site (RootKind.sortOf (e.program.symbol symbol)) = []
  defaults : ∀ symbol site, e.program.IsRoot symbol →
    (e.program.symbol symbol).name = RootKind.defaultName → e.program.DeclaredAt symbol site →
    e.program.rootUses u site .default = []
  anonymous : ∀ symbol type, e.program.IsRoot symbol →
    e.program.Declares type (e.program.symbol symbol).name →
    e.isAnonymous (e.program.symbol symbol).name = true → u.named type = []

section Steps

variable {e b : Engine} {u : Usage} (tidying : e.Tidying b u) (sound : b.WellScoped u)
include tidying

theorem Tidying.sameEntryType (type : TypeId) : e.entryType type = b.entryType type := by
  simp only [Engine.entryType, tidying.program]

theorem tidies_visits : e.Visits (Tidies b u) :=
  { composes_tidies with
    visit := tidying.visit
    visitInline := tidying.visitInline
    visitNamed := tidying.visitNamed }

omit tidying in
theorem tidies_resolve (name : String) (types : List Node) (live : Option TypeId) :
    Tidies b u (resolve name types live) :=
  composes_tidies.bind (tidies_reserve name) fun _ =>
    composes_tidies.pure ({ name, types, live } : Node.Ref Node)

theorem tidies_includeRef (type : TypeId) (name : String) (live : Option TypeId) :
    Tidies b u (e.includeRef type name live) := by
  have visits := tidies_visits tidying
  refine visits.bind (visits.visitAll _) fun types => ?_
  refine visits.bind (Visits.normalizeArguments composes_tidies.toThreads _ _ _ _) fun types => ?_
  exact visits.bind (tidies_resolve name types live) fun _ => visits.pure _

omit tidying in
theorem tidies_bindImport (symbol : SymbolId) (origin : Origin) (scope : ImportScope) :
    Tidies b u (e.bindImport symbol origin scope) := by
  have named : Tidies b u (e.importName symbol origin scope) := by
    refine tidies_of_same (fun w => ?_) fun w => ?_
    · obtain ⟨name, between, named, same⟩ := registry_importName (e := e) symbol origin scope w
      rw [named, same]
    · cases scope with
      | global => rfl
      | lib => rfl
      | module_ => exact localNames_bind w _ _
  refine composes_tidies.bind named fun name => ?_
  have asked : Tidies b u (get : Extract Walk) := composes_tidies.same fun _ => rfl
  refine composes_tidies.bind (composes_tidies.bind asked fun w => ?_) fun _ =>
    composes_tidies.pure name
  dsimp only
  split
  · exact tidies_set fun used => Node.not_open_of_mentions (by simp)
  · exact composes_tidies.pure ()

omit tidying in
theorem tidies_externalName (symbol : Option SymbolId) : Tidies b u (e.externalName symbol) := by
  unfold externalName
  dsimp only
  split
  · exact composes_tidies.pure none
  · refine composes_tidies.bind (composes_tidies.lift _) fun given => ?_
    split
    · exact composes_tidies.pure none
    · exact composes_tidies.map _ (tidies_bindImport given _ _)

theorem tidies_includeExternal (type : TypeId) : Tidies b u (e.includeExternal type) := by
  unfold includeExternal
  dsimp only
  split
  · exact composes_tidies.pure none
  · split
    · exact composes_tidies.pure none
    · rename_i symbol _ _ scope outside
      split
      · split
        · exact (tidies_visits tidying).includeHidden type
        · exact composes_tidies.pure none
      · split
        · exact composes_tidies.pure none
        · refine composes_tidies.bind (tidies_bindImport symbol _ scope) fun name => ?_
          exact composes_tidies.map _ (tidies_includeRef tidying type name _)

include sound

theorem tidies_makeRef {type : Option TypeId} {name : String}
    (enters : ∀ id, type = some id → b.Enters id name) : Tidies b u (e.makeRef type name) := by
  have visits := tidies_visits tidying
  have body : Opens (fun _ => False) (do
      let id ← present type
      let info := e.program.type id
      e.bodyOfType (if info.isReference then info.target.getD id else id)) fun node used =>
        node.Open used ∧ ¬ b.Repeated u name node used := by
    refine opens_lift_bind fun id found => ?_
    have enters := enters id (of_present found)
    have described := tidying.described (b.entryType id) (sound.types id name enters)
    rw [← tidying.sameEntryType] at described
    refine described.narrow ?_
    rintro node used ⟨opened, unrepeated⟩
    refine ⟨opened, fun repeats => unrepeated ⟨id, enters, ?_⟩⟩
    rwa [← tidying.sameEntryType]
  refine visits.bind (tidies_register ?_ body) fun _ => ?_
  · exact visits.bind (visits.lift _) fun id => tidying.bodyOfType _
  · exact visits.bind (visits.lift _) fun id => tidies_includeRef tidying id name none

theorem tidies_ensureNamed {type : Option TypeId} {name : String}
    (enters : ∀ id, type = some id → b.Enters id name) : Tidies b u (e.ensureNamed type name) := by
  refine composes_tidies.bind (composes_tidies.same fun _ => rfl) fun known => ?_
  split
  · exact composes_tidies.pure ()
  · exact composes_tidies.map _ (tidies_makeRef tidying sound enters)

theorem tidies_makeAliasRef (type : TypeId) (name : String) :
    Tidies b u (e.makeAliasRef type name) := by
  have visits := tidies_visits tidying
  unfold makeAliasRef
  dsimp only
  split
  · rename_i symbol site named declared
    have reference (name : String) : Tidies b u (do
        let types ← e.visitAll (e.program.type type).aliasArguments.slots
        let types ← e.normalizeArguments type (e.program.site site).typeParameters types name
        pure (Node.ref { name, types })) := by
      refine visits.bind (visits.visitAll _) fun types => ?_
      exact visits.bind (Visits.normalizeArguments composes_tidies.toThreads _ _ _ _) fun _ => visits.pure _
    refine visits.bind (tidies_externalName _) fun bound => ?_
    split
    · exact visits.bind (visits.pure _) reference
    · refine visits.bind (tidies_register (tidying.bodyOfAlias _) ?_) fun _ =>
        visits.bind (visits.pure name) reference
      rw [tidying.program] at named declared
      rw [named] at declared
      exact (tidying.aliased site (sound.aliases type symbol site named declared)).narrow
        fun _ _ opened => opened.1
  · exact visits.diagnose _

theorem tidies_includeReference {type : TypeId} (reference : (b.program.type type).isReference = true) :
    Tidies b u (e.includeReference type) := by
  refine composes_tidies.bind (tidies_includeExternal tidying type) fun outside => ?_
  cases outside with
  | some node => exact composes_tidies.pure node
  | none =>
      refine composes_tidies.bind_of (composes_tidies.lift _) fun _ symbol _ found => ?_
      rw [lift_apply, Prod.mk.injEq] at found
      have held := of_present found.1
      rw [tidying.program] at held
      have enters : ∀ id, some type = some id → b.Enters id (b.program.symbol symbol).name := by
        rintro id ⟨⟩
        exact .instantiated reference held
      rw [tidying.program]
      exact composes_tidies.bind (tidies_ensureNamed tidying sound enters) fun _ =>
        tidies_includeRef tidying type _ _

/-- A structural base is registered where nothing goes by its name, and then nothing was declared under
the name either. -/
theorem tidies_includeBase {declaration : SiteId} {clause : HeritageClause}
    (held : clause ∈ (e.program.site declaration).heritage) {site : Option SiteId}
    (listed : site ∈ clause.types) : Tidies b u (e.includeBase site) := by
  intro w value final ran
  obtain ⟨base, same, asked, first⟩ := of_bind_ok ran
  rw [lift_apply, Prod.mk.injEq] at asked
  obtain ⟨asked, rfl⟩ := asked
  obtain ⟨node, after, visited, second⟩ := of_bind_ok first
  refine ((tidies_visits tidying).visitPresent base w node after visited).trans ?_
  split at second
  · cases second
    exact .refl _
  · obtain ⟨place, same, found, third⟩ := of_bind_ok second
    rw [lift_apply, Prod.mk.injEq] at found
    obtain ⟨found, rfl⟩ := found
    obtain rfl := of_present found
    cases written : e.baseName place with
    | none =>
        simp only [written] at third
        cases third
        exact .refl _
    | some name =>
      simp only [written] at third
      split at third
      · cases third
        exact .refl _
      · rw [bind_ok (isRegistered_apply name after)] at third
        cases known : after.registry.has name with
        | true =>
            simp only [known, Bool.not_true, Bool.false_eq_true, if_false] at third
            cases third
            exact .refl _
        | false =>
            rw [known] at third
            obtain ⟨_, between, wrote, last⟩ := of_bind_ok third
            cases last
            cases wrote
            refine Walk.tidier_set fun tidy used opened => ?_
            obtain ⟨type, middle, present, stepped⟩ := of_bind_ok visited
            rw [lift_apply, Prod.mk.injEq] at present
            obtain ⟨present, rfl⟩ := present
            obtain rfl := of_present present
            rcases (tidying.opening.visit type).opened _ node after stepped used opened with
              registered | uses
            · exact Or.inl registered
            · refine Or.inr (Or.inr ?_)
              have notRoot : ¬ b.program.RootName name := by
                intro isRoot
                rw [tidying.program] at held asked
                have nothing := sound.bases declaration clause held place listed type name asked
                  (by rw [← written]; simp only [baseName, tidying.program]) isRoot
                rw [nothing] at uses
                cases uses
              exact ⟨tidy.fresh name known notRoot, notRoot⟩

theorem tidies_ways : e.Ways (Tidies b u) :=
  { tidies_visits tidying with
    reference := fun type reference =>
      tidies_includeReference tidying sound (by rwa [← tidying.program])
    base := fun _ _ held _ listed => tidies_includeBase tidying sound held listed }

theorem tidies_includeKnown {type : TypeId} {name : Option String} (known : b.Known type name) :
    Tidies b u (e.includeKnown type name) := by
  refine (tidies_ways tidying sound).includeKnown type name (tidies_includeExternal tidying type)
    (fun given _ => tidies_makeAliasRef tidying sound type given) ?_
  rintro given rfl plain titled -
  rw [tidying.program] at plain
  rw [Bool.or_eq_false_iff, tidying.program] at titled
  have unaliased : b.isAliased type = false := plain
  have usable : b.isAnonymous given = false := by
    have usable := titled.1
    rwa [isAnonymous, tidying.settings] at usable
  refine tidies_makeRef tidying sound ?_
  rintro id ⟨⟩
  refine .known known unaliased ?_
  have nonempty : given.isEmpty = false := by
    rw [isAnonymous, Bool.or_eq_false_iff] at usable
    exact usable.1
  simp [isWrittenOut, nonempty, usable, titled.2]

theorem tidies_includeType (type : TypeId) : Tidies b u (e.includeType type) := by
  refine (tidies_ways tidying sound).includeType type (tidies_includeKnown tidying sound ?_)
  have known : b.Known type (b.nameOf (b.program.type type)) := .named
  have same : e.nameOf (e.program.type type) = b.nameOf (b.program.type type) := by
    simp only [nameOf, tidying.program]
  rwa [same]

end Steps

section Closing

variable {b : Engine} {u : Usage} (tells : b.Tells u) (sound : b.WellScoped u) (depth : Nat)
include tells

theorem opening_inner (entries levels : Nat) :
    (inner b.program b.settings b.libraries depth entries levels).Opening u := by
  have bare : Tells { program := b.program, settings := b.settings, libraries := b.libraries } u :=
    tells.of_same rfl rfl rfl
  refine opening_within (opening_withEntries (opening_bare _ _ _) bare _ _) ?_ _
  exact bare.of_same (by simp) (by simp) (by simp)

include sound

theorem tidying_levels {entries : Nat}
    (tidying : (inner b.program b.settings b.libraries depth entries 0).Tidying b u) (levels : Nat) :
    (inner b.program b.settings b.libraries depth entries levels).Tidying b u := by
  induction levels with
  | zero => exact tidying
  | succ levels ih =>
      have program : (inner b.program b.settings b.libraries depth entries (levels + 1)).program =
          b.program := tidying.program
      refine
        { tidying with
          opening := opening_inner tells depth entries (levels + 1)
          visit := tidies_includeType ih sound
          visitInline := (tidies_ways ih sound).includeInline
          visitNamed := ?_ }
      intro site type reference denoted
      rw [program] at reference denoted ⊢
      cases site with
      | none => cases reference
      | some site => exact tidies_includeKnown ih sound (.written reference denoted)

theorem tidying_inner (entries levels : Nat) :
    (inner b.program b.settings b.libraries depth entries levels).Tidying b u := by
  induction entries generalizing levels with
  | zero =>
      refine tidying_levels tells sound depth ?_ levels
      exact
        { program := rfl
          settings := rfl
          libraries := rfl
          opening := opening_inner tells depth 0 0
          visit := fun _ => composes_tidies.fail _
          visitInline := fun _ => composes_tidies.fail _
          visitNamed := fun _ _ _ _ => composes_tidies.fail _
          bodyOfType := fun _ => composes_tidies.fail _
          bodyOfAlias := fun _ => composes_tidies.fail _
          described := fun _ _ => opens_fail _ _
          aliased := fun _ _ => opens_fail _ _ }
  | succ entries ih =>
      refine tidying_levels tells sound depth ?_ levels
      have opening := opening_inner tells depth entries depth
      have program : (inner b.program b.settings b.libraries depth entries depth).program = b.program :=
        (ih depth).program
      have told : (inner b.program b.settings b.libraries depth entries depth).Tells u :=
        tells.of_same program (ih depth).settings (ih depth).libraries
      refine
        { program := rfl
          settings := rfl
          libraries := rfl
          opening := opening_inner tells depth (entries + 1) 0
          visit := fun _ => composes_tidies.fail _
          visitInline := fun _ => composes_tidies.fail _
          visitNamed := fun _ _ _ _ => composes_tidies.fail _
          bodyOfType := (tidies_ways (ih depth) sound).includeNamed
          bodyOfAlias := (tidies_ways (ih depth) sound).aliasBody
          described := fun type nothing => ?_
          aliased := fun site nothing => ?_ }
      · have described : Opens (fun _ => False)
            ((inner b.program b.settings b.libraries depth entries depth).includeNamed type)
            ((inner b.program b.settings b.libraries depth entries depth).EntryOpen u type
              (b.program.own type)) := by
          have none (name : String) : name ∉ b.entryUses u type := by simp [nothing]
          refine opens_includeNamed opening (fun name used => none name ?_) fun isObject name used =>
            none name ?_
          · rw [program] at used
            exact List.mem_append_left _ used
          · rw [program] at used isObject
            rw [entryUses, if_pos isObject]
            exact List.mem_append_right _ used
        refine described.narrow fun node used opened => ?_
        rwa [EntryOpen, program]
      · refine opens_aliasBody opening told fun name used => ?_
        have same : (inner b.program b.settings b.libraries depth entries depth).aliasUses u site =
            b.aliasUses u site := by simp only [aliasUses, program]
        rw [same, nothing] at used
        cases used

end Closing

end Engine

end TypeAtlas
