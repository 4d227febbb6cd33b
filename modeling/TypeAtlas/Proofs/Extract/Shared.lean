import TypeAtlas.Proofs.Extract.Sparing
import TypeAtlas.Proofs.Extract.Sources

/-!
Declarations that share an entry. Types go by their bare names, so that types of one name have one entry:
it is made of the first of them that is reached, unless an exported value of the name is written over it.
-/

namespace TypeAtlas

open Extract

variable {manner : Manner} {ages : Ages} {now : Nat}

namespace Engine

/-- What a reference to a type does to the entries: the first type of a name has the entry, and those
that come later leave it alone. -/
structure Referred (e : Engine) (type : TypeId) (name : String) (w : Walk) (node : Node)
    (after : Walk) : Prop where
  called : ∃ r, node = .ref r ∧ r.name = name
  first : w.registry.has name = false →
    ∃ body, e.Makes (fun inner => inner.includeNamed (e.entryType type)) body ∧
      after.registry.Filled name body
  later : ∀ other body, w.registry.Filled other body → after.registry.Filled other body

theorem referred_of_includeType {e b : Engine} (founded : e.Founded b) (ordered : e.Orderly)
    {type : TypeId} {name : String} (own : e.Own type name) {w after : Walk} {node : Node}
    (ran : e.includeType type w = (.ok node, after)) : b.Referred type name w node after := by
  have grows := ((orderly_includeType ordered type w).result ran).1
  rw [own.includeType_eq] at ran
  obtain ⟨called, first⟩ := registered_of_makeRef ordered ran
  refine ⟨called, fun free => ?_, grows.filled⟩
  obtain ⟨start, body, built, made, filled⟩ := first free
  rw [founded.entryType] at made
  exact ⟨body, (founded.described _ start body built made).makes, filled⟩

/-- Imports apart, only such types go by the name, with their instantiations. -/
structure Confined (e : Engine) (name : String) (held : TypeId → Prop) : Prop where
  usable : e.isAnonymous name = false
  goes : ∀ other, e.program.GoesBy other name → e.DomesticType other → held (e.entryType other)
  object : ∀ other, e.program.GoesBy other name → (e.program.type other).isAnonymousObject = false
  unaliased : ∀ other symbol, e.Called other name → (e.program.type other).alias? = some symbol →
    ¬ e.Domestic symbol
  unwritten : ¬ e.program.WrittenOver e.settings name

theorem Confined.not_base {e : Engine} (fits : e.program.Fits manner ages now) {name : String}
    {held : TypeId → Prop} (confined : e.Confined name held) {declaration site : SiteId}
    {clause : HeritageClause} {base : TypeId} (among : clause ∈ (e.program.site declaration).heritage)
    (listed : some site ∈ clause.types) (denoted : e.program.typeAt (some site) = .ok (some base))
    (written : e.baseName site = some name) {node : Node} (described : node.Described)
    (made : e.Makes (fun inner => inner.includeType base) node) : False := by
  have kind := (fits.sites declaration).heritage clause among site listed
  obtain ⟨-, place, expression, identifier, title, -⟩ :=
    (fits.sites site).base kind base (Build.answer_of_typeAt denoted)
  have called : (e.program.type base).symbol.map (fun symbol => (e.program.symbol symbol).name) =
      some name := by
    simpa [baseName, expression, identifier, title] using written
  obtain ⟨symbol, known, rfl⟩ := Option.map_eq_some_iff.mp called
  have object := confined.object base (.own known)
  obtain ⟨inner, w, after, founded, -, ran⟩ := made.founded
  have anonymous : inner.isAnonymous (e.program.symbol symbol).name = false := by
    simpa only [isAnonymous, founded.settings] using confined.usable
  rw [← founded.program] at fits known object anonymous
  have referable := referable_of_symbol fits known (nonempty_of_usable anonymous)
    fun _ => ⟨object, anonymous⟩
  obtain ⟨r, rfl⟩ := ref_of_includeType referable ran
  exact described r rfl

/-- Only one type goes by the name, with its instantiations, and nothing else in the program does. -/
structure Sole (e : Engine) (type : TypeId) (name : String) : Prop where
  usable : e.isAnonymous name = false
  goes : ∀ other, e.program.GoesBy other name →
    e.entryType other = e.entryType type ∧ (e.program.type other).isAnonymousObject = false
  unaliased : ∀ other, e.Called other name → (e.program.type other).alias? = none
  unimported : ∀ symbol scope, (e.originOf (some symbol)).scope? = some scope → ∀ w after,
    e.importName symbol (e.originOf (some symbol)) scope w ≠ (.ok name, after)
  unwritten : ¬ e.program.WrittenOver e.settings name

theorem Sole.confined {e : Engine} {type : TypeId} {name : String} (sole : e.Sole type name) :
    e.Confined name (· = e.entryType type) where
  usable := sole.usable
  goes other called _ := (sole.goes other called).1
  object other called := (sole.goes other called).2
  unaliased other symbol called aliased _ := by
    rw [sole.unaliased other called] at aliased
    cases aliased
  unwritten := sole.unwritten

theorem Sole.made {e : Engine} (fits : e.program.Fits manner ages now) {type : TypeId} {name : String}
    (sole : e.Sole type name) {node : Node} (source : e.Source name node) :
    e.Makes (fun inner => inner.includeNamed (e.entryType type)) node := by
  cases source with
  | type called made => rwa [(sole.goes _ called).1] at made
  | named called aliased _ _ =>
      rw [sole.unaliased _ called] at aliased
      cases aliased
  | imported outside named _ =>
      obtain ⟨w, after, named⟩ := named
      exact absurd named (sole.unimported _ _ outside w after)
  | base held listed denoted written described made =>
      exact (sole.confined.not_base fits held listed denoted written described made).elim
  | root owned => exact absurd owned sole.unwritten

/-- The entry of an exported alias, function or variable is what its declaration makes. -/
inductive Exported (e : Engine) (symbol : SymbolId) (after : Walk) : Prop
  | named (site written : SiteId) (isAlias : (e.program.symbol symbol).hasFlag .typeAlias = true)
      (declared : (e.program.symbol symbol).declarations.first? = some site)
      (made : after.Made (e.program.symbol symbol).name
        (e.exportedAlias site written (e.program.symbol symbol).name))
  | function (site : SiteId) (signature : Option SignatureId)
      (isFunction : (e.program.symbol symbol).hasFlag .function = true)
      (declared : (e.program.symbol symbol).declarations.first? = some site)
      (made : after.Made (e.program.symbol symbol).name
        (e.exportedFunction (some ((e.program.symbol symbol).valueDeclaration.getD site)) signature))
  | value (site : SiteId) (type : Option TypeId)
      (isVariable : (e.program.symbol symbol).hasFlag .variableKind = true)
      (declared : (e.program.symbol symbol).declarations.first? = some site)
      (made : after.Made (e.program.symbol symbol).name
        (e.exportedValue ((e.program.symbol symbol).valueDeclaration.getD site) type))

theorem Exported.later {e : Engine} {symbol : SymbolId} {w after : Walk} (exported : e.Exported symbol w)
    (kept : ∀ node, w.registry.Filled (e.program.symbol symbol).name node →
      after.registry.Filled (e.program.symbol symbol).name node) : e.Exported symbol after := by
  cases exported with
  | named site written isAlias declared made =>
      exact .named site written isAlias declared (made.later kept)
  | function site signature isFunction declared made =>
      exact .function site signature isFunction declared (made.later kept)
  | value site type isVariable declared made =>
      exact .value site type isVariable declared (made.later kept)

end Engine

namespace RootKind

def writes : RootKind → Bool
  | named | function | value => true
  | default | type => false

theorem hasFlag_of_value {symbol : Symbol} (suited : of? symbol = some value) :
    symbol.hasFlag .variableKind = true := by
  unfold of? at suited
  grind

end RootKind

namespace Engine

theorem exported_of_includeRoot {e : Engine} (fits : e.program.Fits manner ages now) {symbol : SymbolId}
    {kind : RootKind} (suited : RootKind.of? (e.program.symbol symbol) = some kind)
    (writes : kind.writes = true) {w after : Walk}
    (ran : e.includeRoot symbol kind w = (.ok (), after)) : e.Exported symbol after := by
  have titled := (fits.symbols symbol).titled
  have sort := of?_cases suited
  have untyped : kind ≠ .type := by
    rintro rfl
    cases writes
  unfold includeRoot at ran
  simp only [untyped, if_false] at ran
  cases first : (e.program.symbol symbol).declarations.first? with
  | none =>
      simp only [first] at ran
      cases ran
  | some site =>
      simp only [first] at ran
      cases kind with
      | default => cases writes
      | type => cases writes
      | named =>
          obtain ⟨written, made⟩ :=
            made_of_includeExportedAlias fits (titled site (Or.inl ⟨sort, first⟩)) ran
          have isAlias : (e.program.symbol symbol).hasFlag .typeAlias = true := by
            unfold RootKind.of? at suited
            grind
          exact .named site written isAlias first made
      | function =>
          obtain ⟨signature, made⟩ := made_of_includeExportedFunction ran
          exact .function site signature sort first made
      | value =>
          obtain ⟨type, made⟩ := made_of_includeExportedValue fits (title_of_place fits sort first) ran
          exact .value site type (RootKind.hasFlag_of_value suited) first made

end Engine

/-- Exports that write over no entry of the name. -/
structure Program.Leaves (p : Program) (settings : ExtractionSettings) (exports : List (Option SymbolId))
    (name : String) : Prop where
  roots : ∀ symbol, some symbol ∈ exports → ¬ p.Overwrites settings symbol name
  default : ∀ symbol, some symbol ∈ exports → (p.symbol symbol).name = RootKind.defaultName →
    name ≠ RootKind.defaultName ∧ name ≠ RootKind.syntheticName ∧
      ∀ site target, (p.symbol symbol).declarations.first? = some site → p.DefaultOf site target →
        ¬ p.Overwrites settings target name

namespace Engine

section Leaves

variable {e : Engine} (fits : e.program.Fits manner ages now) (ordered : e.Orderly) (name : String)
include fits ordered

theorem rootWays_leaves : e.RootWays (Spares name) (· ≠ name)
    fun other => other ≠ name ∨ e.isAnonymous other = false :=
  { rootWays_spares ordered with
    reserve := fun other _ _ _ filled => Registry.filled_reserve filled other
    exportedType := by
      intro type other declares owned
      refine includeExportedType_of composes_spares fits declares
        (spares_inScope other (spares_of_orderly (orderly_includeType ordered type))) ?_
      intro anonymous node
      refine spares_set (owned.resolve_right ?_) node
      simp [anonymous] }

theorem spares_exports {exports : List (Option SymbolId)}
    (leaves : e.program.Leaves e.settings exports name) (tally : Tally) :
    Spares name (exports.foldlM (root e) tally) := by
  have owned {symbol : SymbolId} (left : ¬ e.program.Overwrites e.settings symbol name) :
      (e.program.symbol symbol).Owned (· ≠ name)
        fun other => other ≠ name ∨ e.isAnonymous other = false := by
    unfold Symbol.Owned
    split
    · by_cases same : (e.program.symbol symbol).name = name
      · refine Or.inr (Bool.eq_false_iff.mpr fun anonymous => left ⟨same, fun _ => ?_⟩)
        rwa [same] at anonymous
      · exact Or.inl same
    · rename_i undeclared
      exact fun same => left ⟨same, fun declares => absurd declares undeclared⟩
  refine composes_spares.roots (fun spares w => walk_isolated _ w ▸ spares w) ?_ tally
  intro symbol member kind suited
  refine (rootWays_leaves fits ordered name).includeRoot fits suited
    (fun _ => owned (leaves.roots symbol member)) fun isDefault => ?_
  subst isDefault
  obtain ⟨default, synthetic, targets⟩ := leaves.default symbol member (of?_cases suited)
  exact ⟨Ne.symm default, Ne.symm synthetic, fun site target first named =>
    owned (targets site target first named)⟩

end Leaves

/-- How the declarations of a program share the entries of a run. -/
structure Shares (e : Engine) (exports : List (Option SymbolId)) (after : Walk) : Prop where
  /-- A local named type goes by its own name, at any moment and at any depth of a run. -/
  referred : ∀ depth entries levels type name,
    (inner e.program e.settings e.libraries depth entries levels).Own type name → ∀ w node later,
    (inner e.program e.settings e.libraries depth entries levels).includeType type w =
      (.ok node, later) → e.Referred type name w node later
  /-- The final entry of a name is made of something that goes by the name. -/
  sourced : after.Sourced e
  /-- Where only one type goes by the name, the final entry is made of that. -/
  sole : ∀ type name, e.Sole type name → ∀ node, after.registry.Filled name node →
    e.Makes (fun inner => inner.includeNamed (e.entryType type)) node
  /-- An exported alias, function or variable has the entry of its name, whatever had it before, unless a
  later root writes over it in turn. -/
  exported : ∀ before symbol rest kind, exports = before ++ some symbol :: rest →
    RootKind.of? (e.program.symbol symbol) = some kind → kind.writes = true →
    e.program.Leaves e.settings rest (e.program.symbol symbol).name → e.Exported symbol after

end Engine

namespace Engine

variable (e : Engine)

def isSpared (type other : TypeId) : Bool :=
  e.entryType other == e.entryType type && !(e.program.type other).isAnonymousObject &&
    (e.program.type other).alias?.isNone

def isSpelledSole (type : TypeId) (name : String) (s : Site) : Bool :=
  !(s.kind == .typeReference && s.name == some name) ||
    match s.answers.type with
    | some (some other) => e.isSpared type other
    | _ => true

def isSole (type : TypeId) (name : String) : Bool :=
  !e.isAnonymous name &&
  (List.range e.program.types.size).all (fun index =>
    (((e.program.type ⟨index⟩).symbol.all fun symbol => (e.program.symbol symbol).name != name) &&
      e.nameOf (e.program.type ⟨index⟩) != some name) || e.isSpared type ⟨index⟩) &&
  e.program.sites.toList.all (e.isSpelledSole type name) &&
  name != RootKind.defaultName && name != RootKind.syntheticName &&
  e.program.rootSymbols.all fun symbol => (e.program.symbol symbol).name != name ||
    RootKind.declaresType (e.program.symbol symbol)

variable {e}

theorem sole_of_isSole (inside : ∀ symbol, (e.originOf (some symbol)).scope? = none) {type : TypeId}
    {name : String} (checked : e.isSole type name = true) : e.Sole type name := by
  simp only [isSole, Bool.and_eq_true, List.all_eq_true, List.mem_range, Bool.not_eq_true'] at checked
  obtain ⟨⟨⟨⟨⟨usable, types⟩, sites⟩, default⟩, synthetic⟩, roots⟩ := checked
  have written {site : SiteId} {other : TypeId}
      (reference : e.program.isReferenceSite (some site) = true)
      (denoted : e.program.typeAt (some site) = .ok (some other))
      (called : (e.program.site site).name = some name) : e.isSpared type other = true := by
    have kind : (e.program.site site).kind = .typeReference := by
      simpa [Program.isReferenceSite, Program.hasKind] using reference
    have fit := e.program.site_of_forall (e.isSpelledSole type name · = true) rfl sites site
    simpa [isSpelledSole, kind, called, Build.answer_of_typeAt denoted] using fit
  have spared (other : TypeId)
      (called : (∃ symbol, (e.program.type other).symbol = some symbol ∧
        (e.program.symbol symbol).name = name) ∨ e.nameOf (e.program.type other) = some name) :
      e.isSpared type other = true := by
    by_cases there : other.index < e.program.types.size
    · have fit := types other.index there
      rcases called with ⟨symbol, held, same⟩ | same
      · simpa [held, same] using fit
      · simpa [same] using fit
    · rw [e.program.type_of_size_le (Nat.le_of_not_lt there)] at called
      rcases called with ⟨symbol, held, -⟩ | same
      · cases held
      · cases same
  have goes {other : TypeId} (spared : e.isSpared type other = true) :
      (e.entryType other = e.entryType type ∧ (e.program.type other).isAnonymousObject = false) ∧
        (e.program.type other).alias? = none := by
    simpa [isSpared] using spared
  refine ⟨usable, fun other called => ?_, fun other called => ?_, fun symbol scope outside => ?_, ?_⟩
  · cases called with
    | own held => exact (goes (spared other (Or.inl ⟨_, held, rfl⟩))).1
    | written reference denoted called => exact (goes (written reference denoted called)).1
  · cases called with
    | named named => exact (goes (spared other (Or.inr named))).2
    | written reference denoted called => exact (goes (written reference denoted called)).2
  · rw [inside symbol] at outside
    cases outside
  · rintro (same | same | ⟨symbol, isRoot, same, anonymous⟩)
    · simp [same] at default
    · simp [same] at synthetic
    · have fit := roots symbol isRoot.mem_rootSymbols
      simp only [same, bne_self_eq_false, Bool.false_or] at fit
      have anonymous : e.isAnonymous name = true := anonymous fit
      rw [usable] at anonymous
      cases anonymous

end Engine

def distinctProgram : Program :=
  (Program.start "src/index.ts").takes
    [.enumeration { header := { name := "Level" }, members := [("low", some (.int 0))] },
     .enumeration { header := { name := "Voice" }, members := [("loud", some (.int 1))] },
     .variableOf { name := "level" } (some ⟨15⟩) none,
     .variableOf { name := "voice" } (some ⟨17⟩) none]

theorem runs_distinct : (match (extractModule distinctProgram {}).1 with
    | .ok x => x.failures.isEmpty && x.graph.names == ["Level", "Voice", "low", "level", "loud", "voice"]
    | .error _ => false) = true := by
  decide +kernel

def mergedProgram : Program :=
  (Program.start "src/index.ts").takes
    [.enumeration { header := { name := "Level" }, members := [("low", some (.int 0))] },
     .enumeration { header := { name := "Voice" }, members := [("low", some (.int 1))] },
     .variableOf { name := "level" } (some ⟨15⟩) none,
     .variableOf { name := "voice" } (some ⟨17⟩) none]

def coveredProgram : Program :=
  (Program.start "src/index.ts").takes
    [.interface { header := { name := "Item" }, members := [("id", .plain (some Program.numberType))] },
     .variableOf { name := "Item" } (some ⟨15⟩) none]

def Engine.valueName? (x : Extraction) (entry : String) : Option String :=
  match Table.get? x.graph.entries entry with
  | some (.const (.ref r) _) => some r.name
  | _ => none

def literalAt? (x : Extraction) (entry : String) : Option Literal :=
  match Table.get? x.graph.entries entry with
  | some (.literal value) => some value
  | _ => none

end TypeAtlas
