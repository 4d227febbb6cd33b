import TypeAtlas.Proofs.Extract.Flattened
import TypeAtlas.Proofs.Extract.Usage

/-!
Where entries come from. Whatever stands under a name at the end of a run was made of a type or an alias
that goes by the name, of an import, of a base that is written by it, or of an exported value.
-/

namespace TypeAtlas

variable {α β : Type}

namespace Program

/-- The root of a symbol writes over whatever stands under the name: that of a value does, and that of a
declared type whose name counts as made up. -/
def Overwrites (p : Program) (settings : ExtractionSettings) (symbol : SymbolId) (name : String) :
    Prop :=
  (p.symbol symbol).name = name ∧ (RootKind.declaresType (p.symbol symbol) = true →
    Engine.isAnonymous { program := p, settings, libraries := {} } name = true)

/-- Names under which roots write entries. -/
def WrittenOver (p : Program) (settings : ExtractionSettings) (name : String) : Prop :=
  name = RootKind.defaultName ∨ name = RootKind.syntheticName ∨
    ∃ symbol, p.IsRoot symbol ∧ p.Overwrites settings symbol name

end Program

namespace Engine

/-- The program makes the node by the step, at some depth of an extraction. -/
def Makes (e : Engine) (step : Engine → Extract Node) (node : Node) : Prop :=
  ∃ depth entries levels w after,
    step (inner e.program e.settings e.libraries depth entries levels) w = (.ok node, after)

/-- The program takes the step from one walk to another, at some depth of an extraction. -/
def Ran (e : Engine) (step : Engine → Extract Node) (w : Walk) (node : Node) (after : Walk) : Prop :=
  ∃ depth entries levels,
    step (inner e.program e.settings e.libraries depth entries levels) w = (.ok node, after)

theorem Ran.makes {e : Engine} {step : Engine → Extract Node} {w after : Walk} {node : Node}
    (ran : e.Ran step w node after) : e.Makes step node := by
  obtain ⟨depth, entries, levels, ran⟩ := ran
  exact ⟨depth, entries, levels, w, after, ran⟩

/-- A type is called by a name at its use: by that of its alias or symbol, or as it is written. -/
inductive Called (e : Engine) (type : TypeId) (name : String) : Prop
  | named (named : e.nameOf (e.program.type type) = some name)
  | written {site : SiteId} (reference : e.program.isReferenceSite (some site) = true)
      (denoted : e.program.typeAt (some site) = .ok (some type))
      (called : (e.program.site site).name = some name)

/-- What an entry is made of. -/
inductive Source (e : Engine) (name : String) (node : Node) : Prop
  | type {type : TypeId} (called : e.program.GoesBy type name)
      (made : e.Makes (fun inner => inner.includeNamed (e.entryType type)) node)
  | named {type : TypeId} {symbol : SymbolId} {site : SiteId} (called : e.Called type name)
      (aliased : (e.program.type type).alias? = some symbol)
      (declared : e.program.firstDeclaration (some symbol) = some site)
      (made : e.Makes (fun inner => inner.aliasBody site) node)
  | imported {symbol : SymbolId} {scope : ImportScope}
      (outside : (e.originOf (some symbol)).scope? = some scope)
      (named : ∃ w after, e.importName symbol (e.originOf (some symbol)) scope w = (.ok name, after))
      (same : node = .imported (e.program.symbol symbol).name (e.originOf (some symbol)).module? scope)
  | base {declaration site : SiteId} {clause : HeritageClause} {base : TypeId}
      (held : clause ∈ (e.program.site declaration).heritage) (listed : some site ∈ clause.types)
      (denoted : e.program.typeAt (some site) = .ok (some base))
      (written : e.baseName site = some name) (described : node.Described)
      (made : e.Makes (fun inner => inner.includeType base) node)
  | root (owned : e.program.WrittenOver e.settings name)

/-- A symbol is imported if it is from outside: an alias, or what has a name that is not made up. -/
inductive Imports (e : Engine) (symbol : SymbolId) : Prop
  | named {type : TypeId} (aliased : (e.program.type type).alias? = some symbol)
  | usable (usable : e.isAnonymous (e.program.symbol symbol).name = false)

/-- A name that something in the program has besides the bases that are written by it. -/
inductive Titled (e : Engine) (name : String) : Prop
  | type {type : TypeId} (enters : e.Enters type name)
  | named {type : TypeId} {symbol : SymbolId} (called : e.Called type name)
      (aliased : (e.program.type type).alias? = some symbol)
  | imported {symbol : SymbolId} {scope : ImportScope} (imports : e.Imports symbol)
      (outside : (e.originOf (some symbol)).scope? = some scope)
      (named : ∃ w after, e.importName symbol (e.originOf (some symbol)) scope w = (.ok name, after))
  | root (owned : e.program.WrittenOver e.settings name)
  | exported {symbol : SymbolId} (isRoot : e.program.IsRoot symbol)
      (called : (e.program.symbol symbol).name = name)

/-- A symbol that is never imported itself: one of the program, or one with a name that is made up. -/
def Domestic (e : Engine) (symbol : SymbolId) : Prop :=
  (e.originOf (some symbol)).scope? = none ∨ e.isAnonymous (e.program.symbol symbol).name = true

/-- A type that is not imported by its symbol. -/
def DomesticType (e : Engine) (type : TypeId) : Prop :=
  ∀ symbol, (e.program.type type).symbol = some symbol →
    e.Domestic symbol ∨ (e.program.type type).isAnonymousObject = true

/-- A property that an entry has when it is written, whatever it is made of, and keeps from then on. -/
structure Grants (e : Engine) (good : Walk → String → Node → Prop) : Prop where
  later : ∀ {w after : Walk} {name node}, w.Later after → good w name node → good after name node
  type : ∀ {type name w node after}, e.Enters type name → e.DomesticType type →
    e.Ran (fun inner => inner.includeNamed (e.entryType type)) w node after → good after name node
  named : ∀ {type symbol site name w node after}, e.Called type name →
    (e.program.type type).alias? = some symbol → e.Domestic symbol →
    e.program.firstDeclaration (some symbol) = some site →
    e.Ran (fun inner => inner.aliasBody site) w node after → good after name node
  imported : ∀ {symbol scope name w}, e.Imports symbol →
    (e.originOf (some symbol)).scope? = some scope → e.importedAs? w symbol = some name →
    good w name (e.importOf symbol scope)
  base : ∀ {declaration site clause base name w node after},
    clause ∈ (e.program.site declaration).heritage → some site ∈ clause.types →
    e.program.typeAt (some site) = .ok (some base) → e.baseName site = some name → node.Described →
    e.Ran (fun inner => inner.includeType base) w node after → good after name node
  root : ∀ {name}, e.program.WrittenOver e.settings name → ∀ w node, good w name node

end Engine

/-- Every entry with a body has a source. -/
def Walk.Sourced (w : Walk) (e : Engine) : Prop :=
  ∀ name node, w.registry.Filled name node → e.Source name node

/-- Every entry with a body has the property, and names are only reserved for what has them. -/
structure Walk.Bears (w : Walk) (e : Engine) (good : Walk → String → Node → Prop) : Prop where
  filled : ∀ name node, w.registry.Filled name node → good w name node
  reserved : ∀ name, w.registry.isPlaceholder name = true → e.Titled name

namespace Engine

variable {e : Engine}

theorem later_importName (symbol : SymbolId) (origin : Origin) (scope : ImportScope) (w : Walk) :
    w.Later (e.importName symbol origin scope w).2 := by
  cases scope with
  | global => exact .refl w
  | lib => exact .refl w
  | module_ => exact Walk.later_bind w _ _

theorem domestic_of_externalName {symbol : SymbolId} {w after : Walk}
    (asked : e.externalName (some symbol) w = (.ok none, after)) : e.Domestic symbol := by
  cases outside : (e.originOf (some symbol)).scope? with
  | none => exact Or.inl outside
  | some scope =>
      cases usable : e.isAnonymous (e.program.symbol symbol).name with
      | true => exact Or.inr usable
      | false =>
          rw [externalName_eq outside usable, map_eq] at asked
          obtain ⟨_, _, -, ended⟩ := of_bind_ok asked
          cases ended

theorem domestic_of_includeExternal {type : TypeId} {w after : Walk}
    (asked : e.includeExternal type w = (.ok none, after)) : e.DomesticType type := by
  intro symbol held
  cases outside : (e.originOf (some symbol)).scope? with
  | none => exact Or.inl (Or.inl outside)
  | some scope =>
      cases usable : e.isAnonymous (e.program.symbol symbol).name with
      | true => exact Or.inl (Or.inr usable)
      | false =>
          refine Or.inr ?_
          unfold includeExternal at asked
          simp only [held, outside, usable, Bool.false_eq_true, if_false] at asked
          split at asked
          · rename_i object
            exact (Bool.and_eq_true_iff.mp object).2
          · obtain ⟨_, _, -, asked⟩ := of_bind_ok asked
            rw [map_eq] at asked
            obtain ⟨_, _, -, ended⟩ := of_bind_ok asked
            cases ended

end Engine

namespace Extract

/-- A step only writes entries that have the property. -/
structure Bearing (e : Engine) (good : Walk → String → Node → Prop) (step : Extract α) (w : Walk) :
    Prop where
  later : w.Later (step w).2
  bears : w.Bears e good → (step w).2.Bears e good

def Sources (e : Engine) (good : Walk → String → Node → Prop) (step : Extract α) : Prop :=
  ∀ w, Bearing e good step w

section Composing

variable {e : Engine} {good : Walk → String → Node → Prop}

theorem bearing_bind {step : Extract α} {next : α → Extract β} {w : Walk}
    (first : Bearing e good step w)
    (rest : ∀ value after, step w = (.ok value, after) → Bearing e good (next value) after) :
    Bearing e good (step >>= next) w := by
  rcases ran : step w with ⟨fault | value, after⟩
  · obtain ⟨later, bears⟩ := first
    rw [ran] at later bears
    exact ⟨by rwa [bind_error ran], by rwa [bind_error ran]⟩
  · have second := rest value after ran
    obtain ⟨later, bears⟩ := first
    rw [ran] at later bears
    refine ⟨?_, ?_⟩ <;> rw [bind_ok ran]
    · exact later.trans second.later
    · exact fun borne => second.bears (bears borne)

theorem bearing_of_registry {step : Extract α} {w : Walk} (later : w.Later (step w).2)
    (same : (step w).2.registry = w.registry) (grants : e.Grants good) : Bearing e good step w := by
  refine ⟨later, fun borne => ⟨fun name node filled => ?_, ?_⟩⟩
  · rw [same] at filled
    exact grants.later later (borne.filled name node filled)
  · rw [same]
    exact borne.reserved

theorem sources_of_same {step : Extract α} (registry : ∀ w, (step w).2.registry = w.registry)
    (bindings : ∀ w, (step w).2.bindings = w.bindings) (grants : e.Grants good) :
    Sources e good step := fun w =>
  bearing_of_registry (.of_same (registry w) (bindings w)) (registry w) grants

theorem composes_sources (grants : e.Grants good) : Composes (Sources e good) where
  bind_of first rest w := bearing_bind (first w) fun value after ran => rest w value after ran after
  same same := sources_of_same (fun w => by rw [same w]) (fun w => by rw [same w]) grants
  emit _ := sources_of_same (fun _ => rfl) (fun _ => rfl) grants
  declareLocal name := sources_of_same (fun w => Walk.registry_declareLocal w name)
    (fun w => Walk.bindings_declareLocal w name) grants
  count := sources_of_same (fun _ => rfl) (fun _ => rfl) grants

variable (grants : e.Grants good)
include grants

theorem bearing_inScope (name : String) {step : Extract α} {w : Walk}
    (bearing : Bearing e good step w.openScope) : Bearing e good (inScope name step) w := by
  have same : (inScope name step w).2.registry = (step w.openScope).2.registry := by
    rw [inScope_apply, Walk.registry_closeScope]
  have opened : w.Later w.openScope := .of_same rfl rfl
  have closed : (step w.openScope).2.Later (inScope name step w).2 := by
    rw [inScope_apply]
    exact .of_same (Walk.registry_closeScope _ _) (Walk.bindings_closeScope _ _)
  refine ⟨opened.trans (bearing.later.trans closed), fun borne => ?_⟩
  have inner := bearing.bears
    ⟨fun other node filled => grants.later opened (borne.filled other node filled), borne.reserved⟩
  refine ⟨fun other node filled => ?_, by rw [same]; exact inner.reserved⟩
  rw [same] at filled
  exact grants.later closed (inner.filled other node filled)

theorem sources_reserve {name : String} (titled : e.Titled name) : Sources e good (reserve name) := by
  intro w
  have later : w.Later (w.reserve name) := .of_bindings (Walk.extends_reserve w name).names rfl
  refine ⟨later, fun borne => ⟨fun other node filled => ?_, fun other reserved => ?_⟩⟩
  · exact grants.later later (borne.filled other node (Registry.filled_of_reserve filled))
  · have reserved : (w.registry.reserve name).isPlaceholder other = true := reserved
    cases known : w.registry.has name with
    | true =>
        rw [Registry.reserve_of_has known] at reserved
        exact borne.reserved other reserved
    | false =>
        rw [Registry.isPlaceholder_reserve known, Bool.or_eq_true, beq_iff_eq] at reserved
        rcases reserved with rfl | reserved
        · exact titled
        · exact borne.reserved other reserved

theorem bearing_set {w : Walk} {name : String} {node : Node} (granted : good w name node) :
    Bearing e good (set name node) w := by
  have later : w.Later (w.set name node) := .of_bindings (Walk.extends_set w name node).names rfl
  refine ⟨later, fun borne => ⟨fun other held filled => ?_, fun other reserved => ?_⟩⟩
  · refine grants.later later ?_
    rcases Registry.filled_of_set filled with ⟨rfl, rfl⟩ | ⟨-, filled⟩
    · exact granted
    · exact borne.filled other held filled
  · have reserved : (w.registry.set name node).isPlaceholder other = true := reserved
    rw [Registry.isPlaceholder_set, Bool.and_eq_true] at reserved
    exact borne.reserved other reserved.1

theorem sources_resolve {name : String} (titled : e.Titled name) (types : List Node)
    (live : Option TypeId) : Sources e good (resolve name types live) :=
  (composes_sources grants).bind (sources_reserve grants titled) fun _ =>
    (composes_sources grants).pure ({ name, types, live } : Node.Ref Node)

theorem sources_register {name : String} (titled : e.Titled name) {body : Extract Node}
    (sources : Sources e good body)
    (made : ∀ w node after, body w = (.ok node, after) → good after name node) :
    Sources e good (Engine.register name body) := by
  have composes := composes_sources grants
  refine composes.bind (composes.same fun _ => rfl) fun known => ?_
  split
  · exact composes.pure ()
  · refine fun w => bearing_inScope grants name (bearing_bind (sources_reserve grants titled _) ?_)
    intro _ reserved _
    exact bearing_bind (sources reserved) fun node after ran =>
      bearing_set grants (made reserved node after ran)

end Composing

end Extract

namespace Engine

open Extract

/-- Every way on from a type of an engine only writes entries that have a property, as entries of an
extraction with the program, the settings and the libraries of another. -/
structure Filling (e b : Engine) (good : Walk → String → Node → Prop) : Prop where
  program : e.program = b.program
  settings : e.settings = b.settings
  libraries : e.libraries = b.libraries
  visit : ∀ type, Sources b good (e.visit type)
  visitInline : ∀ type, Sources b good (e.visitInline type)
  visitNamed : ∀ site type, e.program.isReferenceSite site = true →
    e.program.typeAt site = .ok (some type) →
    Sources b good (e.visitNamed type (site.bind fun id => (e.program.site id).name))
  bodyOfType : ∀ type, Sources b good (e.bodyOfType type)
  bodyOfAlias : ∀ site, Sources b good (e.bodyOfAlias site)
  visited : ∀ type w node after, e.visit type w = (.ok node, after) →
    b.Ran (fun inner => inner.includeType type) w node after
  described : ∀ type w node after, e.bodyOfType type w = (.ok node, after) →
    b.Ran (fun inner => inner.includeNamed type) w node after
  aliased : ∀ site w node after, e.bodyOfAlias site w = (.ok node, after) →
    b.Ran (fun inner => inner.aliasBody site) w node after

section Steps

variable {e b : Engine} {good : Walk → String → Node → Prop} (filling : e.Filling b good)
include filling

theorem Filling.entryType (type : TypeId) : e.entryType type = b.entryType type := by
  simp only [Engine.entryType, filling.program]

theorem Filling.originOf (symbol : Option SymbolId) : e.originOf symbol = b.originOf symbol := by
  simp only [Engine.originOf, filling.program, filling.libraries]

theorem Filling.domestic {symbol : SymbolId} (domestic : e.Domestic symbol) : b.Domestic symbol := by
  simpa only [Domestic, isAnonymous, filling.originOf, filling.program, filling.settings] using domestic

theorem Filling.domesticType {type : TypeId} (domestic : e.DomesticType type) : b.DomesticType type := by
  intro symbol held
  rw [← filling.program] at held ⊢
  exact (domestic symbol held).imp_left filling.domestic

variable (grants : b.Grants good)
include grants

theorem sources_visits : e.Visits (Sources b good) :=
  { composes_sources grants with
    visit := filling.visit
    visitInline := filling.visitInline
    visitNamed := filling.visitNamed }

theorem sources_includeRef {name : String} (titled : b.Titled name) (type : TypeId)
    (live : Option TypeId) : Sources b good (e.includeRef type name live) := by
  have visits := sources_visits filling grants
  refine visits.bind (visits.visitAll _) fun types => ?_
  refine visits.bind (Visits.normalizeArguments visits.toThreads _ _ _ _) fun types => ?_
  exact visits.bind (sources_resolve grants titled types live) fun _ => visits.pure _

theorem sources_makeRef {type : TypeId} {name : String} (enters : b.Enters type name)
    (domestic : b.DomesticType type) : Sources b good (e.makeRef (some type) name) := by
  have visits := sources_visits filling grants
  refine visits.bind (sources_register grants (.type enters) ?_ ?_) fun _ => ?_
  · exact visits.bind (visits.lift _) fun id => filling.bodyOfType _
  · intro w node after ran
    obtain ⟨id, same, found, ran⟩ := of_bind_ok ran
    cases found
    have described := filling.described _ _ _ _ ran
    rw [show (if (e.program.type type).isReference then _ else type) = e.entryType type from rfl,
      filling.entryType] at described
    exact grants.type enters domestic described
  · exact visits.bind (visits.lift _) fun id => sources_includeRef filling grants (.type enters) id none

theorem sources_ensureNamed {type : TypeId} {name : String} (enters : b.Enters type name)
    (domestic : b.DomesticType type) : Sources b good (e.ensureNamed type name) := by
  have composes := composes_sources grants
  refine composes.bind (composes.same fun _ => rfl) fun known => ?_
  split
  · exact composes.pure ()
  · exact composes.map _ (sources_makeRef filling grants enters domestic)

omit grants in
theorem Filling.importName (symbol : SymbolId) (scope : ImportScope) :
    e.importName symbol (e.originOf (some symbol)) scope =
      b.importName symbol (b.originOf (some symbol)) scope := by
  rw [filling.originOf]
  cases scope <;> simp only [Engine.importName, filling.program]

theorem sources_bindImport {symbol : SymbolId} (imports : b.Imports symbol) {scope : ImportScope}
    (outside : (e.originOf (some symbol)).scope? = some scope) :
    Sources b good (e.bindImport symbol (e.originOf (some symbol)) scope) := by
  have composes := composes_sources grants
  have named (w : Walk) :
      Bearing b good (e.importName symbol (e.originOf (some symbol)) scope) w := by
    obtain ⟨name, between, named, same⟩ :=
      registry_importName (e := e) symbol (e.originOf (some symbol)) scope w
    refine bearing_of_registry ?_ (by rw [named, same]) grants
    exact later_importName symbol (e.originOf (some symbol)) scope w
  intro w
  refine bearing_bind (named w) fun name after ran => ?_
  rw [filling.importName] at ran
  rw [filling.originOf] at outside ⊢
  have known := importedAs?_of_importName outside ran
  refine bearing_bind ?_ fun _ written _ => composes.pure name written
  unfold registerImport
  refine bearing_bind (composes.same (fun _ => rfl) after) fun read same asked => ?_
  cases asked
  dsimp only
  split
  · rw [filling.program]
    exact bearing_set grants (grants.imported imports outside known)
  · exact composes.pure () after

omit grants in
theorem titled_of_bindImport {symbol : SymbolId} (imports : b.Imports symbol) {scope : ImportScope}
    (outside : (e.originOf (some symbol)).scope? = some scope) {w after : Walk} {name : String}
    (ran : e.bindImport symbol (e.originOf (some symbol)) scope w = (.ok name, after)) :
    b.Titled name := by
  obtain ⟨found, between, named, ran⟩ := of_bind_ok ran
  obtain ⟨_, _, -, ran⟩ := of_bind_ok ran
  cases ran
  rw [filling.importName] at named
  rw [filling.originOf] at outside
  exact .imported imports outside ⟨w, between, named⟩

theorem sources_externalName {symbol : Option SymbolId}
    (imports : ∀ given, symbol = some given → b.Imports given) :
    Sources b good (e.externalName symbol) := by
  have composes := composes_sources grants
  unfold externalName
  dsimp only
  split
  · exact composes.pure none
  · rename_i scope outside
    refine composes.bind_of (composes.lift _) fun _ given _ found => ?_
    rw [lift_apply, Prod.mk.injEq] at found
    obtain rfl := of_present found.1
    split
    · exact composes.pure none
    · exact composes.map _ (sources_bindImport filling grants (imports given rfl) outside)

theorem sources_includeExternal (type : TypeId) : Sources b good (e.includeExternal type) := by
  have composes := composes_sources grants
  unfold includeExternal
  dsimp only
  split
  · exact composes.pure none
  · split
    · exact composes.pure none
    · rename_i symbol _ _ scope outside
      split
      · split
        · exact (sources_visits filling grants).includeHidden type
        · exact composes.pure none
      · split
        · exact composes.pure none
        · rename_i named _
          have imports : b.Imports symbol := by
            refine .usable (Bool.eq_false_iff.mpr ?_)
            rwa [isAnonymous, filling.program, filling.settings] at named
          refine composes.bind_of (sources_bindImport filling grants imports outside)
            fun _ name _ ran => ?_
          have titled := titled_of_bindImport filling imports outside ran
          exact composes.map _ (sources_includeRef filling grants titled type _)

theorem sources_makeAliasRef {type : TypeId} {name : String} (called : b.Called type name) :
    Sources b good (e.makeAliasRef type name) := by
  have visits := sources_visits filling grants
  unfold makeAliasRef
  dsimp only
  split
  · rename_i symbol site aliased declared
    have reference (name : String) : Sources b good (do
        let types ← e.visitAll (e.program.type type).aliasArguments.slots
        let types ← e.normalizeArguments type (e.program.site site).typeParameters types name
        pure (Node.ref { name, types })) := by
      refine visits.bind (visits.visitAll _) fun types => ?_
      exact visits.bind (Visits.normalizeArguments visits.toThreads _ _ _ _) fun _ => visits.pure _
    rw [filling.program] at aliased declared
    rw [aliased] at declared
    refine visits.bind_of (sources_externalName filling grants ?_) fun _ bound _ asked => ?_
    · rintro given ⟨⟩
      exact .named aliased
    split
    · exact visits.bind (visits.pure _) reference
    · have domestic := filling.domestic (domestic_of_externalName asked)
      refine visits.bind (sources_register grants (.named called aliased) (filling.bodyOfAlias _) ?_)
        fun _ => visits.bind (visits.pure name) reference
      intro w node after ran
      exact grants.named called aliased domestic declared (filling.aliased site w node after ran)
  · exact visits.diagnose _

theorem sources_includeReference {type : TypeId}
    (reference : (b.program.type type).isReference = true) :
    Sources b good (e.includeReference type) := by
  have composes := composes_sources grants
  refine composes.bind_of (sources_includeExternal filling grants type) fun _ outside _ outsideAsked => ?_
  cases outside with
  | some node => exact composes.pure node
  | none =>
      have domestic := filling.domesticType (domestic_of_includeExternal outsideAsked)
      refine composes.bind_of (composes.lift _) fun _ symbol _ found => ?_
      rw [lift_apply, Prod.mk.injEq] at found
      have held := of_present found.1
      rw [filling.program] at held
      have enters : b.Enters type (b.program.symbol symbol).name := .instantiated reference held
      rw [filling.program]
      exact composes.bind (sources_ensureNamed filling grants enters domestic) fun _ =>
        sources_includeRef filling grants (.type enters) type _

theorem sources_includeBase {declaration : SiteId} {clause : HeritageClause}
    (held : clause ∈ (e.program.site declaration).heritage) {site : Option SiteId}
    (listed : site ∈ clause.types) : Sources b good (e.includeBase site) := by
  have visits := sources_visits filling grants
  intro w
  refine bearing_bind (visits.lift _ w) fun base same asked => ?_
  rw [lift_apply, Prod.mk.injEq] at asked
  obtain ⟨asked, rfl⟩ := asked
  refine bearing_bind (visits.visitPresent base w) fun node after visited => ?_
  split
  · exact visits.pure _ after
  · rename_i structural
    refine bearing_bind (visits.lift _ after) fun place same found => ?_
    rw [lift_apply, Prod.mk.injEq] at found
    obtain ⟨found, rfl⟩ := found
    obtain rfl := of_present found
    split
    · exact visits.pure _ after
    · rename_i name written
      split
      · exact visits.pure _ after
      · obtain ⟨type, same, present, stepped⟩ := of_bind_ok visited
        rw [lift_apply, Prod.mk.injEq] at present
        obtain ⟨present, rfl⟩ := present
        obtain rfl := of_present present
        have made := filling.visited type w node after stepped
        have granted : good after name node := by
          refine grants.base (filling.program ▸ held) listed (filling.program ▸ asked) ?_ structural made
          rw [← written]
          simp only [baseName, filling.program]
        refine bearing_bind ((composes_sources grants).same (fun _ => rfl) after) fun known same asked => ?_
        cases asked
        have reference : Sources b good (pure (Node.ref { name, live := some type }) : Extract Node) :=
          visits.pure _
        split
        · exact bearing_bind (bearing_set grants granted) fun _ written _ => reference written
        · exact bearing_bind (visits.pure () after) fun _ same _ => reference same

theorem sources_ways : e.Ways (Sources b good) :=
  { sources_visits filling grants with
    reference := fun type reference =>
      sources_includeReference filling grants (by rwa [← filling.program])
    base := fun _ _ held _ listed => sources_includeBase filling grants held listed }

omit filling grants in
theorem Known.called {type : TypeId} {name : String} (known : b.Known type (some name)) :
    b.Called type name := by
  generalize given : some name = title at known
  cases known with
  | named => exact .named given.symm
  | written reference denoted => exact .written reference denoted given.symm

omit filling grants in
theorem Called.known {type : TypeId} {name : String} (called : b.Called type name) :
    b.Known type (some name) := by
  cases called with
  | named named => exact named ▸ .named
  | written reference denoted called => exact called ▸ .written reference denoted

omit filling grants in
theorem Enters.goesBy {type : TypeId} {name : String} (enters : b.Enters type name) :
    b.program.GoesBy type name := by
  cases enters with
  | known known unaliased _ =>
      cases known.called with
      | named named => exact goesBy_of_nameOf named unaliased
      | written reference denoted called => exact .written reference denoted called
  | instantiated _ held => exact .own held

theorem sources_includeKnown {type : TypeId} {name : Option String} (known : b.Known type name) :
    Sources b good (e.includeKnown type name) := by
  refine (sources_ways filling grants).includeKnown type name
    (sources_includeExternal filling grants type) ?_ ?_
  · rintro given rfl
    exact sources_makeAliasRef filling grants known.called
  · rintro given rfl plain titled ⟨_, _, asked⟩
    rw [Bool.or_eq_false_iff, filling.program] at titled
    rw [filling.program] at plain
    have usable : b.isAnonymous given = false := by
      have usable := titled.1
      rwa [isAnonymous, filling.settings] at usable
    have nonempty : given.isEmpty = false := by
      rw [isAnonymous, Bool.or_eq_false_iff] at usable
      exact usable.1
    refine sources_makeRef filling grants (.known known plain ?_)
      (filling.domesticType (domestic_of_includeExternal asked))
    simp [isWrittenOut, nonempty, usable, titled.2]

theorem sources_includeType (type : TypeId) : Sources b good (e.includeType type) := by
  refine (sources_ways filling grants).includeType type
    (sources_includeKnown filling grants ?_)
  have same : e.nameOf (e.program.type type) = b.nameOf (b.program.type type) := by
    simp only [nameOf, filling.program]
  rw [same]
  exact .named

end Steps

section Closing

variable {b : Engine} {good : Walk → String → Node → Prop} (grants : b.Grants good) (depth entries : Nat)
include grants

theorem filling_levels
    (filling : (inner b.program b.settings b.libraries depth entries 0).Filling b good) (levels : Nat) :
    (inner b.program b.settings b.libraries depth entries levels).Filling b good := by
  induction levels with
  | zero => exact filling
  | succ levels ih =>
      have program : (inner b.program b.settings b.libraries depth entries (levels + 1)).program =
          b.program := filling.program
      refine
        { filling with
          visit := sources_includeType ih grants
          visitInline := (sources_ways ih grants).includeInline
          visitNamed := ?_
          visited := fun _ w _ after ran => ⟨depth, entries, levels, ran⟩ }
      intro site type reference denoted
      rw [program] at reference denoted ⊢
      cases site with
      | none => cases reference
      | some site => exact sources_includeKnown ih grants (.written reference denoted)

theorem filling_inner (levels : Nat) :
    (inner b.program b.settings b.libraries depth entries levels).Filling b good := by
  have composes := composes_sources grants
  induction entries generalizing levels with
  | zero =>
      refine filling_levels grants depth 0 ?_ levels
      exact
        { program := rfl
          settings := rfl
          libraries := rfl
          visit := fun _ => composes.fail _
          visitInline := fun _ => composes.fail _
          visitNamed := fun _ _ _ _ => composes.fail _
          bodyOfType := fun _ => composes.fail _
          bodyOfAlias := fun _ => composes.fail _
          visited := nofun
          described := nofun
          aliased := nofun }
  | succ entries ih =>
      refine filling_levels grants depth (entries + 1) ?_ levels
      exact
        { program := rfl
          settings := rfl
          libraries := rfl
          visit := fun _ => composes.fail _
          visitInline := fun _ => composes.fail _
          visitNamed := fun _ _ _ _ => composes.fail _
          bodyOfType := (sources_ways (ih depth) grants).includeNamed
          bodyOfAlias := (sources_ways (ih depth) grants).aliasBody
          visited := nofun
          described := fun _ _ _ _ ran => ⟨depth, entries, depth, ran⟩
          aliased := fun _ _ _ _ ran => ⟨depth, entries, depth, ran⟩ }

end Closing

theorem filling_start {p : Program} {settings : ExtractionSettings} {libraries : LibrarySettings}
    {good : Walk → String → Node → Prop} (grants : (start p settings libraries).Grants good) :
    (start p settings libraries).Filling (start p settings libraries) good := by
  have filling := filling_inner grants (depthBound p) (entryBound p) (depthBound p)
  rwa [program_start, settings_start, libraries_start] at filling

theorem grants_source (e : Engine) : e.Grants fun _ => e.Source where
  later _ source := source
  type enters _ ran := .type enters.goesBy ran.makes
  named called aliased _ declared ran := .named called aliased declared ran.makes
  imported {_ _ _ w} _ outside known :=
    .imported outside ⟨w, importName_of_importedAs? outside known⟩ rfl
  base held listed denoted written described ran := .base held listed denoted written described ran.makes
  root owned _ _ := .root owned

abbrev Founded (e b : Engine) : Prop := e.Filling b fun _ => b.Source

theorem founded_inner (b : Engine) (depth entries levels : Nat) :
    (inner b.program b.settings b.libraries depth entries levels).Founded b :=
  filling_inner (grants_source b) depth entries levels

theorem Makes.founded {e : Engine} {step : Engine → Extract Node} {node : Node}
    (made : e.Makes step node) : ∃ (inner : Engine) (w after : Walk), inner.Founded e ∧
      inner.Orderly ∧ step inner w = (.ok node, after) := by
  obtain ⟨depth, entries, levels, w, after, ran⟩ := made
  exact ⟨_, w, after, founded_inner e depth entries levels, orderly_inner _ _ _ depth entries levels, ran⟩

section Roots

variable {e : Engine} {good : Walk → String → Node → Prop} {manner : Manner} {ages : Ages} {now : Nat}
  (filling : e.Filling e good) (grants : e.Grants good) (fits : e.program.Fits manner ages now)
include filling grants fits

def Exposed (e : Engine) (name : String) : Prop :=
  (∃ symbol, e.program.IsRoot symbol ∧ (e.program.symbol symbol).name = name) ∧
    (e.isAnonymous name = true → e.program.WrittenOver e.settings name)

theorem rootWays_sources :
    e.RootWays (Sources e good) (e.program.WrittenOver e.settings) e.Exposed :=
  { sources_ways filling grants with
    includeType := sources_includeType filling grants
    inScope := fun name _ sources w => bearing_inScope grants name (sources w.openScope)
    reserve := fun name owned => sources_reserve grants (owned.elim .root fun exposed => by
      obtain ⟨⟨symbol, isRoot, called⟩, -⟩ := exposed
      exact .exported isRoot called)
    set := fun _ _ owned _ w => bearing_set grants (grants.root owned w _)
    exportedType := fun {type name} declares exposed =>
      includeExportedType_of (composes_sources grants) fits declares
        (fun w => bearing_inScope grants name (sources_includeType filling grants type w.openScope))
        fun anonymous _ w => bearing_set grants (grants.root (exposed.2 anonymous) w _) }

omit filling grants fits in
theorem owned_of_isRoot {symbol : SymbolId} (isRoot : e.program.IsRoot symbol) :
    (e.program.symbol symbol).Owned (e.program.WrittenOver e.settings) e.Exposed := by
  unfold Symbol.Owned
  split
  · exact ⟨⟨symbol, isRoot, rfl⟩, fun anonymous =>
      Or.inr (Or.inr ⟨symbol, isRoot, rfl, fun _ => anonymous⟩)⟩
  · rename_i undeclared
    exact Or.inr (Or.inr ⟨symbol, isRoot, rfl, fun declares => absurd declares undeclared⟩)

theorem sources_exports {exports : List (Option SymbolId)}
    (listed : (e.program.symbol e.program.moduleSymbol).exports.each = .ok exports) (tally : Tally) :
    Sources e good (exports.foldlM (root e) tally) := by
  have isolated {step : Extract Unit} (sources : Sources e good step) :
      Sources e good (isolated step) := fun w =>
    ⟨walk_isolated _ w ▸ (sources w).later, walk_isolated _ w ▸ (sources w).bears⟩
  refine (composes_sources grants).roots isolated ?_ tally
  intro symbol member kind suited
  refine (rootWays_sources filling grants fits).includeRoot fits suited ?_ fun _ => ?_
  · exact fun _ => owned_of_isRoot (.exported listed member)
  · exact ⟨Or.inl rfl, Or.inr (Or.inl rfl), fun _ target _ named => owned_of_isRoot (.named named)⟩

theorem bears_of_finished {w final after : Walk} {exports : List (Option SymbolId)} {tally : Tally}
    {x : Extraction} (begun : w.Bears e good) (finished : Finished e w exports tally final x after) :
    final.Bears e good := by
  let event := started (e.program.symbol e.program.moduleSymbol).name exports.length
  have later : w.Later (w.emit event) := .of_same rfl rfl
  have emitted : (w.emit event).Bears e good :=
    ⟨fun name node filled => grants.later later (begun.filled name node filled), begun.reserved⟩
  have bears := (sources_exports filling grants fits finished.listed {} (w.emit event)).bears emitted
  rwa [finished.ran] at bears

end Roots

end Engine

open Engine Extract in
theorem bears_of_extractModule {p : Program} {allowed : Call → Program → Prop}
    (built : p.Built allowed) (settings : Settings) {good : Walk → String → Node → Prop}
    (grants : (start p settings.extraction settings.libraries).Grants good) {bindings : Bindings}
    {elapsed : Data} {x : Extraction} {after : Walk}
    (ran : extractModule p settings bindings elapsed = (.ok x, after)) :
    after.Bears (start p settings.extraction settings.libraries) good := by
  obtain ⟨ages, fits⟩ := fits_start built settings.extraction settings.libraries
  obtain ⟨exports, tally, final, finished⟩ := finished_of_exportsOf ran
  have begun : Walk.Bears { bindings } (start p settings.extraction settings.libraries) good :=
    ⟨fun _ _ filled => (by cases filled.1), fun _ reserved => (by cases reserved)⟩
  have bears := bears_of_finished (filling_start grants) grants fits begun finished
  have same := finished.registry
  refine ⟨fun name node filled => ?_, by rw [same]; exact bears.reserved⟩
  rw [same] at filled
  exact grants.later (.of_same same finished.bindings) (bears.filled name node filled)

open Engine Extract in
theorem later_of_extractModule {p : Program} {allowed : Call → Program → Prop}
    (built : p.Built allowed) (settings : Settings) {bindings : Bindings} {elapsed : Data}
    {x : Extraction} {after : Walk}
    (ran : extractModule p settings bindings elapsed = (.ok x, after)) :
    Walk.Later { bindings } after := by
  obtain ⟨ages, fits⟩ := fits_start built settings.extraction settings.libraries
  obtain ⟨exports, tally, final, finished⟩ := finished_of_exportsOf ran
  let e := start p settings.extraction settings.libraries
  let begun := Walk.emit { bindings } (started (e.program.symbol e.program.moduleSymbol).name exports.length)
  have later := (sources_exports (filling_start (grants_source e)) (grants_source e) fits
    finished.listed {} begun).later
  rw [finished.ran] at later
  have opened : Walk.Later { bindings } begun := .of_same rfl rfl
  exact opened.trans (later.trans (.of_same finished.registry finished.bindings))

open Engine in
theorem sourced_of_extractModule {p : Program} {allowed : Call → Program → Prop}
    (built : p.Built allowed) (settings : Settings) {bindings : Bindings} {elapsed : Data}
    {x : Extraction} {after : Walk}
    (ran : extractModule p settings bindings elapsed = (.ok x, after)) :
    after.Sourced (start p settings.extraction settings.libraries) :=
  (bears_of_extractModule built settings (grants_source _) ran).filled

end TypeAtlas
