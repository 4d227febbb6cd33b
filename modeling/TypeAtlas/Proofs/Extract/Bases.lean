import TypeAtlas.Proofs.Extract.ScopeCheck
import TypeAtlas.Proofs.Extract.Shared

/-!
Structural bases. A base that has no name of its own is written by the name of its symbol, and its body is
kept under that name. Where nothing else has the name, that is the entry that the heritage leads to.
-/

namespace TypeAtlas

open Extract

variable {manner : Manner} {ages : Ages} {now : Nat}

namespace Engine

/-- The node was made by a step in the course of a run that has come as far as the walk. -/
def MadeIn (e : Engine) (w : Walk) (step : Engine → Extract Node) (node : Node) : Prop :=
  ∃ start between, e.Ran step start node between ∧ between.registry.names ⊆ w.registry.names

/-- A type of the program itself that has no name to go by: it is written out wherever it is used. -/
structure Structural (e : Engine) (type : TypeId) : Prop where
  plain : (e.program.type type).keyofOperand? = none
  declared : (e.program.type type).isTypeParameter = false
  single : (e.program.type type).isReference = false
  unaliased : e.isAliased type = false
  nameless : e.isWrittenOut type (e.nameOf (e.program.type type)) = true
  inside : (e.originOf (e.program.type type).symbol).scope? = none

/-- A structural type is a base at a place, written by a name. -/
structure BaseAt (e : Engine) (site : SiteId) (base : TypeId) (name : String) : Prop where
  structural : e.Structural base
  denoted : e.program.typeAt (some site) = .ok (some base)
  written : e.baseName site = some name
  nonempty : name.isEmpty = false

/-- A class or an interface extends what stands at a place, or a class implements it. -/
inductive Inherits (e : Engine) (type : TypeId) (site : SiteId) : Prop
  | listed {declaration : SiteId} {clause : HeritageClause}
      (nominal : (e.program.type type).isNominal = true)
      (declared : e.program.firstDeclaration (e.program.type type).symbol = some declaration)
      (kind : e.program.hasKind [.interfaceDeclaration, .classDeclaration] (some declaration) = true)
      (held : clause ∈ (e.program.site declaration).heritage) (listed : some site ∈ clause.types)
      (token : clause.token = .bases ∨ (e.program.type type).isClass = true)

theorem Inherits.nominal {e : Engine} {type : TypeId} {site : SiteId} (inherits : e.Inherits type site) :
    (e.program.type type).isNominal = true := by
  cases inherits with
  | listed nominal => exact nominal

/-- Of all that a program has, only one base goes by the name, wherever it is written. -/
structure Only (e : Engine) (base : TypeId) (name : String) : Prop where
  untitled : ¬ e.Titled name
  bases : ∀ declaration, ∀ clause ∈ (e.program.site declaration).heritage, ∀ site,
    some site ∈ clause.types → ∀ other, e.program.typeAt (some site) = .ok (some other) →
      e.baseName site = some name → other = base

end Engine

namespace Extract

theorem reached_of_mapM {α β : Type} {f : α → Extract β} {items : List α} {values : List β}
    {w after : Walk} (each : ∀ item ∈ items, Orderly (f item))
    (ran : items.mapM f w = (.ok values, after)) {item : α} (held : item ∈ items) :
    ∃ value ∈ values, ∃ before later, f item before = (.ok value, later) ∧ later.Grows after := by
  induction items generalizing w values with
  | nil => cases held
  | cons first rest ih =>
      have others : ∀ item ∈ rest, Orderly (f item) := fun item held =>
        each item (List.mem_cons_of_mem _ held)
      rw [List.mapM_cons] at ran
      obtain ⟨value, between, made, ran⟩ := of_bind_ok ran
      obtain ⟨more, final, second, ran⟩ := of_bind_ok ran
      cases ran
      rcases List.mem_cons.mp held with rfl | held
      · have grows := ((Engine.composes.mapM_of others between).result second).1
        exact ⟨value, List.mem_cons_self .., w, between, made, grows⟩
      · obtain ⟨other, member, made⟩ := ih others second held
        exact ⟨other, List.mem_cons_of_mem _ member, made⟩

end Extract

namespace Engine

section Edges

variable {e : Engine}

theorem Inherits.of_same {b : Engine} {type : TypeId} {site : SiteId} (inherits : b.Inherits type site)
    (program : e.program = b.program) : e.Inherits type site := by
  cases inherits with
  | listed nominal declared kind held listed token =>
      rw [← program] at nominal declared kind held token
      exact .listed nominal declared kind held listed token

theorem Structural.includeType_eq {type : TypeId} (structural : e.Structural type) (w : Walk) :
    e.includeType type w = e.includeInline type w := by
  have nameless := structural.nameless
  unfold includeType
  simp only [structural.plain]
  unfold includeKnown
  simp only [structural.declared]
  cases named : e.nameOf (e.program.type type) with
  | none => rfl
  | some name =>
      have unaliased : ((e.program.type type).alias?.isSome &&
          (e.program.type type).alias? != (e.program.type type).symbol) = false := structural.unaliased
      rw [named] at nameless
      simp only [isWrittenOut, Option.getD_some, structural.unaliased, Bool.not_false, Bool.true_and,
        Bool.or_eq_true] at nameless
      by_cases empty : name.isEmpty = true
      · simp only [empty, if_true]
      · simp only [empty, unaliased, Bool.false_eq_true, if_false]
        rw [bind_ok (includeExternal_of_inside structural.inside w)]
        simp only [Bool.or_eq_true, nameless.resolve_left empty, if_true]

theorem Structural.described {type : TypeId} (structural : e.Structural type) {w after : Walk}
    {node : Node} (ran : e.includeType type w = (.ok node, after)) : node.Described := by
  rw [structural.includeType_eq] at ran
  exact described_of_inline structural.single structural.inside w node after ran

theorem Structural.of_same {b : Engine} {type : TypeId} (structural : b.Structural type)
    (program : e.program = b.program) (settings : e.settings = b.settings)
    (libraries : e.libraries = b.libraries) : e.Structural type := by
  refine
    { plain := program ▸ structural.plain
      declared := program ▸ structural.declared
      single := program ▸ structural.single
      unaliased := ?_
      nameless := ?_
      inside := ?_ }
  · have unaliased := structural.unaliased
    simpa only [isAliased, program] using unaliased
  · have nameless := structural.nameless
    simpa only [isWrittenOut, isAliased, isAnonymous, nameOf, program, settings] using nameless
  · have inside := structural.inside
    simpa only [originOf, program, libraries] using inside

section Steps

variable {b : Engine} {good : Walk → String → Node → Prop} (filling : e.Filling b good)
include filling

theorem edge_of_includeBase {site : SiteId} {base : TypeId} {name : String}
    (place : b.BaseAt site base name) {w after : Walk} {edge : Node}
    (ran : e.includeBase (some site) w = (.ok edge, after)) :
    edge = .ref { name, live := some base } ∧ after.registry.has name = true := by
  obtain ⟨type, same, asked, ran⟩ := of_bind_ok ran
  rw [lift_apply, Prod.mk.injEq, filling.program, place.denoted, Except.ok.injEq] at asked
  obtain ⟨rfl, rfl⟩ := asked
  obtain ⟨node, between, visited, ran⟩ := of_bind_ok ran
  have described : node.Described := by
    obtain ⟨id, same, present, stepped⟩ := of_bind_ok visited
    cases present
    obtain ⟨depth, entries, levels, made⟩ := filling.visited base w node between stepped
    have inner := founded_inner b depth entries levels
    exact (place.structural.of_same inner.program inner.settings inner.libraries).described made
  have written : e.baseName site = some name := by
    rw [← place.written]
    simp only [baseName, filling.program]
  split at ran
  · exact absurd rfl (described _)
  · obtain ⟨_, same, found, ran⟩ := of_bind_ok ran
    cases found
    simp only [written, place.nonempty, Bool.false_eq_true, if_false] at ran
    rw [bind_ok (isRegistered_apply name between)] at ran
    cases known : between.registry.has name with
    | true =>
        rw [known] at ran
        cases ran
        exact ⟨rfl, known⟩
    | false =>
        rw [known] at ran
        cases ran
        exact ⟨rfl, Registry.has_set_self between.registry name node⟩

variable (ordered : e.Orderly)
include ordered

theorem edge_of_includeClauses {declaration : SiteId} {clauses : List HeritageClause}
    (within : clauses ⊆ (e.program.site declaration).heritage) {clause : HeritageClause}
    (held : clause ∈ clauses) {site : SiteId} (listed : some site ∈ clause.types) {base : TypeId}
    {name : String} (place : b.BaseAt site base name) {heritage : Heritage} {w after : Walk}
    (ran : e.includeClauses clauses w = (.ok heritage, after)) :
    .ref { name, live := some base } ∈ heritage.edges ∧
      (clause.token = .bases → .ref { name, live := some base } ∈ heritage.bases) ∧
        after.registry.has name = true := by
  induction clauses generalizing w heritage after with
  | nil => cases held
  | cons first rest ih =>
      have ways := orderly_ways ordered
      have later : rest ⊆ (e.program.site declaration).heritage :=
        fun other member => within (List.mem_cons_of_mem _ member)
      obtain ⟨items, between, started, next⟩ := of_bind_ok ran
      obtain ⟨others, final, ended, next⟩ := of_bind_ok next
      have grown := ((ways.includeClauses later between).result ended).1
      rcases List.mem_cons.mp held with rfl | held
      · have each := ways.base declaration clause (within (List.mem_cons_self ..))
        obtain ⟨edge, member, before, reached, made, grows⟩ := reached_of_mapM each started listed
        obtain ⟨rfl, known⟩ := edge_of_includeBase filling place made
        have known := grown.has (grows.has known)
        cases token : clause.token <;> rw [token] at next <;> cases next
        · exact ⟨by simp [Heritage.edges, member], fun _ => by simp [member], known⟩
        · exact ⟨by simp [Heritage.edges, member], by rintro ⟨⟩, known⟩
      · obtain ⟨edges, bases, known⟩ := ih later held ended
        simp only [Heritage.edges, List.mem_append] at edges
        cases token : first.token <;> rw [token] at next <;> cases next
        · refine ⟨?_, fun isBase => List.mem_append_right _ (bases isBase), known⟩
          simp only [Heritage.edges, List.mem_append]
          exact edges.imp_left Or.inr
        · refine ⟨?_, bases, known⟩
          simp only [Heritage.edges, List.mem_append]
          exact edges.imp_right Or.inr

theorem edge_of_includeHeritage {type : TypeId} {site : SiteId} (inherits : e.Inherits type site)
    {base : TypeId} {name : String} (place : b.BaseAt site base name) {heritage : Heritage}
    {w after : Walk} (ran : e.includeHeritage type w = (.ok heritage, after)) :
    .ref { name, live := some base } ∈ heritage.edges ∧
      ((e.program.type type).isClass = false → .ref { name, live := some base } ∈ heritage.bases) ∧
        after.registry.has name = true := by
  cases inherits with
  | listed nominal declared kind held listed token =>
      simp only [includeHeritage, declared, kind, if_true] at ran
      obtain ⟨edges, bases, known⟩ :=
        edge_of_includeClauses filling ordered (List.Subset.refl _) held listed place ran
      refine ⟨edges, fun interface_ => bases (token.resolve_right ?_), known⟩
      rw [interface_]
      exact Bool.false_ne_true

theorem edge_of_includeClass {type : TypeId} {site : SiteId} (inherits : e.Inherits type site)
    {base : TypeId} {name : String} (place : b.BaseAt site base name) {w after : Walk} {node : Node}
    (ran : e.includeClass type w = (.ok node, after)) :
    .ref { name, live := some base } ∈ node.outgoing ∧ after.registry.has name = true := by
  have ways := orderly_ways ordered
  obtain ⟨heritage, opened, shape, shaped, exported, statics, written, constructors, started, described, -,
    wrote, built, rfl⟩ := of_includeClass_ok ran
  obtain ⟨edges, -, known⟩ := edge_of_includeHeritage filling ordered inherits place started
  obtain ⟨same, -⟩ := lists_of_includeShape described
  -- what comes behind the members of instances leaves the bases alone
  have shapes := ((ways.includeShape type heritage opened).result described).1
  have statics := ((orderly_mapM ways.includeStatic shaped).result wrote).1
  have constructs := ((ways.includeConstructors type written).result built).1
  refine ⟨?_, constructs.has (statics.has (shapes.has known))⟩
  rw [Node.outgoing, same]
  exact edges

theorem edge_of_includeNamed (fits : e.program.Fits manner ages now) {type : TypeId} {site : SiteId}
    (inherits : e.Inherits type site) {base : TypeId} {name : String} (place : b.BaseAt site base name)
    {w after : Walk} {node : Node} (ran : e.includeNamed type w = (.ok node, after)) :
    .ref { name, live := some base } ∈ node.outgoing ∧ after.registry.has name = true := by
  obtain ⟨flags, -, -, mapped, -⟩ := (fits.types type).nominal inherits.nominal
  obtain ⟨-, made⟩ | ⟨interface_, heritage, between, shape, opened, made, rfl⟩ :=
    of_includeNamed_ok flags mapped ran
  · exact edge_of_includeClass filling ordered inherits place made
  · obtain ⟨-, bases, known⟩ := edge_of_includeHeritage filling ordered inherits place opened
    have grows := (((orderly_ways ordered).includeShape type heritage between).result made).1
    obtain ⟨same, -⟩ := lists_of_includeShape made
    refine ⟨?_, grows.has known⟩
    rw [Node.outgoing, same]
    exact bases interface_

end Steps

end Edges

theorem Ran.madeIn {e : Engine} {step : Engine → Extract Node} {w after : Walk} {node : Node}
    (ran : e.Ran step w node after) : e.MadeIn after step node := ⟨w, after, ran, List.Subset.refl _⟩

theorem MadeIn.later {e : Engine} {step : Engine → Extract Node} {w after : Walk} {node : Node}
    (made : e.MadeIn w step node) (names : w.registry.names ⊆ after.registry.names) :
    e.MadeIn after step node := by
  obtain ⟨start, between, ran, within⟩ := made
  exact ⟨start, between, ran, List.Subset.trans within names⟩

structure Attributed (e : Engine) (w : Walk) (name : String) (node : Node) : Prop where
  type : ∀ type, e.Sole type name →
    e.MadeIn w (fun inner => inner.includeNamed (e.entryType type)) node
  base : ∀ base, e.Only base name → e.MadeIn w (fun inner => inner.includeType base) node

theorem grants_attributed {e : Engine} (fits : e.program.Fits manner ages now) :
    e.Grants e.Attributed where
  later later attributed :=
    ⟨fun type sole => (attributed.type type sole).later later.names.subset,
      fun base only => (attributed.base base only).later later.names.subset⟩
  type enters _ ran :=
    ⟨fun type sole => (sole.goes _ enters.goesBy).1 ▸ ran.madeIn,
      fun base only => absurd (.type enters) only.untitled⟩
  named called aliased _ declared ran := by
    refine ⟨fun type sole => ?_, fun base only => absurd (.named called aliased) only.untitled⟩
    rw [sole.unaliased _ called] at aliased
    cases aliased
  imported {_ _ _ w} imports outside known := by
    obtain ⟨after, named⟩ := importName_of_importedAs? outside known
    refine ⟨fun type sole => absurd named (sole.unimported _ _ outside w after), fun base only => ?_⟩
    exact absurd (.imported imports outside ⟨w, after, named⟩) only.untitled
  base held listed denoted written described ran := by
    refine ⟨fun type sole => ?_, fun base only => ?_⟩
    · exact (sole.confined.not_base fits held listed denoted written described ran.makes).elim
    · obtain rfl := only.bases _ _ held _ listed _ denoted written
      exact ran.madeIn
  root owned w node :=
    ⟨fun type sole => absurd owned sole.unwritten, fun base only => absurd (.root owned) only.untitled⟩

/-- How structural bases stand in the graph of a run. -/
structure Grounds (e : Engine) (x : Extraction) (after : Walk) : Prop where
  /-- What alone goes by a name has the entry. -/
  made : ∀ type name, e.Sole type name → ∀ node, after.registry.Filled name node →
    e.MadeIn after (fun inner => inner.includeNamed (e.entryType type)) node
  /-- The body of a class or an interface refers to each structural base by the name it is written by. -/
  referred : ∀ type node, e.MadeIn after (fun inner => inner.includeNamed type) node →
    ∀ site, e.Inherits type site → ∀ base written, e.BaseAt site base written →
      .ref { name := written, live := some base } ∈ node.outgoing ∧
        after.registry.has written = true
  /-- Where only one base goes by the name, it leads to the body of that very base, of which nothing is
  reported but what the base itself binds or uses. -/
  body : ∀ base name, e.Only base name → after.registry.has name = true →
    ∃ node, after.registry.Filled name node ∧
      e.MadeIn after (fun inner => inner.includeType base) node ∧
      ∀ u, e.Tells u → ∀ mentioned ∈ node.mentions, mentioned ∈ x.dangling →
        after.registry.isPlaceholder mentioned = true ∨ node.Binds mentioned ∨
          mentioned ∈ u.named base
  /-- What has its name alone shares the entry with no other base. -/
  apart : ∀ type site base written, e.Inherits type site → e.BaseAt site base written →
    ∀ other name, e.Only other name → base ≠ other → written ≠ name

end Engine

/-- What is reported has no entry, or one without a body. -/
theorem Walk.of_mem_dangling {w : Walk} {name : String} (listed : name ∈ Extract.danglingOf w) :
    w.registry.has name = false ∨ w.registry.isPlaceholder name = true := by
  rcases List.mem_append.mp (mem_dedup_iff.mp listed) with referred | reserved
  · left
    obtain ⟨⟨owner, node⟩, -, unknown⟩ := List.mem_flatMap.mp (mem_dedup_iff.mp referred)
    simp only [Graph.danglingIn, List.mem_filter, Bool.and_eq_true, Bool.not_eq_true'] at unknown
    exact unknown.2.1
  · exact Or.inr (List.mem_filter.mp reserved).2

namespace Engine

variable (e : Engine)

def inheritsAt (type : TypeId) (site : SiteId) : Bool :=
  match e.program.firstDeclaration (e.program.type type).symbol with
  | none => false
  | some declaration =>
    (e.program.type type).isNominal &&
      e.program.hasKind [.interfaceDeclaration, .classDeclaration] (some declaration) &&
      (e.program.site declaration).heritage.any fun clause => clause.types.contains (some site) &&
        match clause.token with
        | .bases => true
        | .implemented => (e.program.type type).isClass

def isStructural (type : TypeId) : Bool :=
  let info := e.program.type type
  info.keyofOperand?.isNone && !info.isTypeParameter && !info.isReference && !e.isAliased type &&
    e.isWrittenOut type (e.nameOf info) && (e.originOf info.symbol).scope?.isNone

def isBaseAt (site : SiteId) (base : TypeId) (name : String) : Bool :=
  e.isStructural base && e.baseName site == some name && !name.isEmpty &&
    match e.program.typeAt (some site) with
    | .ok (some type) => type == base
    | _ => false

def isWithout (name : String) (type : TypeId) (known : Option String) : Bool :=
  known != some name || (e.program.type type).alias?.isNone && e.isWrittenOut type (some name)

def isOnlyBase (base : TypeId) (name : String) (site : Option SiteId) : Bool :=
  match e.program.typeAt site, site.bind e.baseName with
  | .ok (some other), some written => written != name || other == base
  | _, _ => true

def isOnly (base : TypeId) (name : String) : Bool :=
  (List.range e.program.types.size).all (fun index =>
    e.isWithout name ⟨index⟩ (e.nameOf (e.program.type ⟨index⟩)) &&
      !((e.program.type ⟨index⟩).isReference &&
        (e.program.type ⟨index⟩).symbol.any fun symbol => (e.program.symbol symbol).name == name)) &&
  e.program.sites.toList.all (fun site => passesWritten (e.isWithout name) site &&
    site.heritage.all fun clause => clause.types.all (e.isOnlyBase base name)) &&
  name != RootKind.defaultName && name != RootKind.syntheticName &&
  e.program.rootSymbols.all fun symbol => (e.program.symbol symbol).name != name

variable {e}

theorem inherits_of_inheritsAt {type : TypeId} {site : SiteId} (checked : e.inheritsAt type site = true) :
    e.Inherits type site := by
  unfold inheritsAt at checked
  split at checked
  · cases checked
  · rename_i declaration declared
    simp only [Bool.and_eq_true, List.any_eq_true, List.contains_iff_mem] at checked
    obtain ⟨⟨nominal, kind⟩, clause, held, listed, token⟩ := checked
    refine .listed nominal declared kind held listed ?_
    split at token
    · exact Or.inl ‹_›
    · exact Or.inr token

theorem structural_of_isStructural {type : TypeId} (checked : e.isStructural type = true) :
    e.Structural type := by
  simp only [isStructural, Bool.and_eq_true, Option.isNone_iff_eq_none, Bool.not_eq_true'] at checked
  obtain ⟨⟨⟨⟨⟨plain, declared⟩, single⟩, unaliased⟩, nameless⟩, inside⟩ := checked
  exact ⟨plain, declared, single, unaliased, nameless, inside⟩

theorem baseAt_of_isBaseAt {site : SiteId} {base : TypeId} {name : String}
    (checked : e.isBaseAt site base name = true) : e.BaseAt site base name := by
  simp only [isBaseAt, Bool.and_eq_true, beq_iff_eq, Bool.not_eq_true'] at checked
  obtain ⟨⟨⟨structural, written⟩, nonempty⟩, denoted⟩ := checked
  refine ⟨structural_of_isStructural structural, ?_, written, nonempty⟩
  split at denoted
  · rename_i type denotes
    rw [denotes, beq_iff_eq.mp denoted]
  · cases denoted

theorem only_of_isOnly (inside : ∀ symbol, (e.originOf (some symbol)).scope? = none) {base : TypeId}
    {name : String} (checked : e.isOnly base name = true) : e.Only base name := by
  simp only [isOnly, Bool.and_eq_true, List.all_eq_true, List.mem_range, bne_iff_ne] at checked
  obtain ⟨⟨⟨⟨types, sites⟩, default⟩, synthetic⟩, roots⟩ := checked
  have without (type : TypeId) :
      e.isWithout name type (e.nameOf (e.program.type type)) = true ∧
        (!((e.program.type type).isReference && (e.program.type type).symbol.any
          fun symbol => (e.program.symbol symbol).name == name)) = true := by
    by_cases there : type.index < e.program.types.size
    · exact types type.index there
    · have held := e.program.type_of_size_le (Nat.le_of_not_lt there)
      simp only [isWithout, held]
      exact ⟨rfl, rfl⟩
  have known {type : TypeId} (known : e.Known type (some name)) :
      (e.program.type type).alias? = none ∧ e.isWrittenOut type (some name) = true := by
    have passed := known.passes (fun type => (without type).1) fun site held => (sites site held).1
    simpa [isWithout] using passed
  have away {symbol : SymbolId} (isRoot : e.program.IsRoot symbol)
      (called : (e.program.symbol symbol).name = name) : False :=
    roots symbol isRoot.mem_rootSymbols called
  refine ⟨fun titled => ?_, fun declaration clause held site listed other denoted written => ?_⟩
  · cases titled with
    | @type type enters =>
        cases enters with
        | known called _ named =>
            rw [(known called).2] at named
            cases named
        | @instantiated symbol reference held =>
            have apart := (without type).2
            simp [reference, held] at apart
    | named called aliased =>
        rw [(known called.known).1] at aliased
        cases aliased
    | @imported symbol _ _ outside _ =>
        rw [inside symbol] at outside
        cases outside
    | root owned =>
        rcases owned with same | same | ⟨symbol, isRoot, called, -⟩
        · exact default same
        · exact synthetic same
        · exact away isRoot called
    | exported isRoot called => exact away isRoot called
  · have fit := e.program.site_of_forall (fun s => ∀ clause ∈ s.heritage, ∀ site ∈ clause.types,
      e.isOnlyBase base name site = true) nofun (fun s member => (sites s member).2)
      declaration clause held (some site) listed
    simpa [isOnlyBase, denoted, written] using fit

end Engine

def groundedProgram : Program :=
  (Program.start "src/index.ts").takes
    [.objectLiteral [("id", .plain (some Program.numberType))] [] none none,
     .interface { header := { name := "Item" }, bases := [some ⟨15⟩]
                  members := [("name", .plain (some Program.stringType))] }]

theorem runs_grounded : (match extractModule groundedProgram {} with
    | (.ok x, after) => x.graph.names == ["Item", "__type"] && after.registry.placeholders.isEmpty &&
        after.registry.has "Item"
    | _ => false) = true := by
  decide +kernel

def mixedProgram : Program :=
  (Program.start "src/index.ts").takes
    [.objectLiteral [("a", .plain (some Program.stringType))] [] none none,
     .objectLiteral [("b", .plain (some Program.numberType))] [] none none,
     .interface { header := { name := "A" }, bases := [some ⟨15⟩] },
     .interface { header := { name := "B" }, bases := [some ⟨16⟩] }]

def lentProgram : Program :=
  (Program.start "src/index.ts").takes
    [.typeParameter "T" none none,
     .objectLiteral [("x", .plain (some ⟨15⟩))] [] none none,
     .interface { header := { name := "D" }, typeParameters := [some ⟨15⟩], bases := [some ⟨16⟩] }]

def Extraction.basesOf (x : Extraction) (name : String) : List (String × Option TypeId) :=
  ((Table.get? x.graph.entries name).elim [] Node.outgoing).filterMap fun edge =>
    match edge with
    | .ref r => some (r.name, r.live)
    | _ => none

def Extraction.propsOf (x : Extraction) (name : String) : List String :=
  ((Table.get? x.graph.entries name).elim [] Node.members).filterMap fun member =>
    match member with
    | .prop property => some property.name
    | _ => none

end TypeAtlas
