import TypeAtlas.Proofs.Extract.Standing

/-!
Ways through the roots. What the steps into types keep, and the entries that a root writes under names
of its own, every root keeps, whatever it exports.
-/

namespace TypeAtlas

def RootKind.declaresType (symbol : Symbol) : Bool :=
  !symbol.hasFlag .typeAlias && !symbol.hasFlag .function && isTypeSymbol symbol

/-- The name of a symbol is of the sort under which its entry is written. -/
def Symbol.Owned (value type : String → Prop) (symbol : Symbol) : Prop :=
  if RootKind.declaresType symbol then type symbol.name else value symbol.name

theorem Symbol.Owned.sort {value type : String → Prop} {symbol : Symbol}
    (owned : symbol.Owned value type) : value symbol.name ∨ type symbol.name := by
  unfold Owned at owned
  split at owned
  · exact Or.inr owned
  · exact Or.inl owned

/-- What a default export names. -/
def Program.DefaultOf (p : Program) (site : SiteId) (symbol : SymbolId) : Prop :=
  ∃ place, (p.site site).expression = some place ∧ (p.site place).symbol = some symbol

def RootKind.sortOf (symbol : Symbol) : RootKind :=
  if symbol.hasFlag .typeAlias then named
  else if symbol.hasFlag .function then function
  else if isTypeSymbol symbol then type
  else value

theorem RootKind.sortOf_eq {symbol : Symbol} {kind : RootKind} (suited : of? symbol = some kind)
    (other : kind ≠ .default) : sortOf symbol = kind := by
  unfold of? at suited
  unfold sortOf
  split at suited
  · cases suited
    exact absurd rfl other
  · split at suited
    · rename_i aliased
      cases suited
      rw [if_pos aliased]
    · rename_i unaliased
      rw [if_neg unaliased]
      split at suited
      · rename_i called
        cases suited
        rw [if_pos called]
      · rename_i uncalled
        rw [if_neg uncalled]
        split at suited
        · rename_i isType
          cases suited
          rw [if_pos isType]
        · rename_i untyped
          split at suited
          · cases suited
            rw [if_neg untyped]
          · cases suited

theorem RootKind.declaresType_eq (symbol : Symbol) : declaresType symbol = (sortOf symbol == type) := by
  unfold declaresType sortOf
  cases symbol.hasFlag .typeAlias <;> cases symbol.hasFlag .function <;>
    cases isTypeSymbol symbol <;> rfl

/-- The places at which a symbol is declared. -/
inductive Program.DeclaredAt (p : Program) (symbol : SymbolId) (site : SiteId) : Prop
  | first (first : (p.symbol symbol).declarations.first? = some site)
  | value (place : (p.symbol symbol).valueDeclaration = some site)

namespace Engine

open Extract

structure RootSteps (e : Engine) (Q : ∀ {α : Type}, Extract α → Prop) (root : SymbolId → Prop) :
    Prop extends Sequences Q where
  exportedAlias : ∀ {symbol site}, root symbol →
    RootKind.sortOf (e.program.symbol symbol) = .named → e.program.DeclaredAt symbol site →
    (e.program.site site).name = some (e.program.symbol symbol).name → Q (e.includeExportedAlias site)
  exportedFunction : ∀ {symbol site}, root symbol →
    RootKind.sortOf (e.program.symbol symbol) = .function → e.program.DeclaredAt symbol site →
    Q (e.includeExportedFunction (some site) (e.program.symbol symbol).name)
  exportedType : ∀ {symbol type}, root symbol →
    RootKind.sortOf (e.program.symbol symbol) = .type →
    e.program.Declares type (e.program.symbol symbol).name → Q (e.includeExportedType type)
  exportedValue : ∀ {symbol site}, root symbol →
    RootKind.sortOf (e.program.symbol symbol) = .value → e.program.DeclaredAt symbol site →
    (e.program.site site).name = some (e.program.symbol symbol).name → Q (e.includeExportedValue site)

namespace RootSteps

variable {e : Engine} {manner : Manner} {ages : Ages} {now : Nat}
  {Q : ∀ {α : Type}, Extract α → Prop} {root : SymbolId → Prop} (steps : e.RootSteps Q root)
  (fits : e.program.Fits manner ages now)
include steps fits

theorem includeDeclared {symbol : SymbolId} (isRoot : root symbol)
    (sort : RootKind.sortOf (e.program.symbol symbol) = .type)
    (isType : RootKind.isTypeSymbol (e.program.symbol symbol) = true) :
    Q (do e.includeExportedType (← present (← e.program.declaredType symbol)) : Extract Unit) := by
  refine steps.bind_of (steps.lift _) fun _ declared _ asked => ?_
  refine steps.bind_of (steps.lift _) fun _ type _ found => ?_
  rw [lift_apply, Prod.mk.injEq] at asked found
  obtain rfl := of_present found.1
  obtain ⟨-, -, declares⟩ := declares_of_declaredType fits isType asked.1
  exact steps.exportedType isRoot sort declares

theorem includeNamedDefault {symbol : SymbolId} (isRoot : root symbol) :
    Q (e.includeNamedDefault symbol) := by
  have titled := (fits.symbols symbol).titled
  unfold Engine.includeNamedDefault
  dsimp only
  split
  · rename_i aliased
    split
    · exact steps.diagnose _
    · rename_i site first
      refine steps.exportedAlias isRoot ?_ (.first first) (titled site (Or.inl ⟨?_, first⟩))
      · rw [RootKind.sortOf, if_pos aliased]
      · rw [Symbol.isTitled, aliased, Bool.true_or]
  · rename_i unaliased
    split
    · rename_i called
      split
      · exact steps.diagnose _
      · rename_i site place
        refine steps.exportedFunction isRoot ?_ (.value place)
        rw [RootKind.sortOf, if_neg unaliased, if_pos called]
    · rename_i uncalled
      split
      · rename_i isType
        refine steps.includeDeclared fits isRoot ?_ isType
        rw [RootKind.sortOf, if_neg unaliased, if_neg uncalled, if_pos isType]
      · rename_i untyped
        split
        · exact steps.diagnose _
        · rename_i site place
          refine steps.exportedValue isRoot ?_ (.value place) (titled site (Or.inr place))
          rw [RootKind.sortOf, if_neg unaliased, if_neg uncalled, if_neg untyped]

/-- A root that is no default export is extracted as it is declared. -/
theorem includeRoot {symbol : SymbolId} {kind : RootKind}
    (suited : RootKind.of? (e.program.symbol symbol) = some kind)
    (isRoot : kind ≠ .default → root symbol)
    (default : kind = .default → ∀ site, (e.program.symbol symbol).declarations.first? = some site →
      Q (e.includeDefaultExport site)) :
    Q (e.includeRoot symbol kind) := by
  have sort := of?_cases suited
  have placed {site : SiteId} (first : (e.program.symbol symbol).declarations.first? = some site) :
      e.program.DeclaredAt symbol ((e.program.symbol symbol).valueDeclaration.getD site) := by
    cases held : (e.program.symbol symbol).valueDeclaration with
    | none => exact .first first
    | some place => exact .value held
  unfold Engine.includeRoot
  dsimp only
  split
  · rename_i isType
    subst isType
    exact steps.includeDeclared fits (isRoot nofun) (RootKind.sortOf_eq suited nofun) sort
  · split
    · exact steps.diagnose _
    · rename_i site first
      cases kind with
      | default => exact default rfl site first
      | named =>
          refine steps.exportedAlias (isRoot nofun) (RootKind.sortOf_eq suited nofun) (.first first) ?_
          exact (fits.symbols symbol).titled site (Or.inl ⟨sort, first⟩)
      | function =>
          exact steps.exportedFunction (isRoot nofun) (RootKind.sortOf_eq suited nofun) (placed first)
      | type => exact absurd rfl ‹_›
      | value =>
          exact steps.exportedValue (isRoot nofun) (RootKind.sortOf_eq suited nofun) (placed first)
            (title_of_place fits sort first)

end RootSteps

/-- The steps into types and the entries of roots have a property that sequences keep. Values are
written under names of one sort, and declared types are registered under names of another. -/
structure RootWays (e : Engine) (Q : ∀ {α : Type}, Extract α → Prop) (value type : String → Prop) :
    Prop extends Ways e Q where
  includeType : ∀ type, Q (e.includeType type)
  inScope : ∀ name {step : Extract Unit}, Q step → Q (inScope name step)
  reserve : ∀ name, value name ∨ type name → Q (reserve name)
  set : ∀ name node, value name → node.isShape = false → Q (set name node)
  exportedType : ∀ {declared name}, e.program.Declares declared name → type name →
    Q (e.includeExportedType declared)

namespace RootWays

variable {e : Engine} {manner : Manner} {ages : Ages} {now : Nat}
  {Q : ∀ {α : Type}, Extract α → Prop} {value type : String → Prop}
  (ways : e.RootWays Q value type)
include ways

theorem entry {name : String} {body : Extract Node} (owned : value name) (holds : Q body)
    (plain : Yields body fun node => node.isShape = false) :
    Q (Extract.inScope name do Extract.set name (← body)) := by
  refine ways.inScope name (ways.bind_of holds fun w node after ran => ?_)
  exact ways.set name node owned (plain w node after ran)

theorem resolve {name : String} (owned : value name ∨ type name) (types : List Node)
    (live : Option TypeId) : Q (resolve name types live) :=
  ways.bind (ways.reserve name owned) fun _ => ways.pure ({ name, types, live } : Node.Ref Node)

theorem includeRef {name : String} (owned : value name ∨ type name) (of : TypeId)
    (live : Option TypeId) : Q (e.includeRef of name live) := by
  refine ways.bind (ways.visitAll _) fun types => ?_
  refine ways.bind (Visits.normalizeArguments ways.toThreads _ _ _ _) fun types => ?_
  exact ways.bind (ways.resolve owned types live) fun _ => ways.pure _

theorem declaredName (site : SiteId) : Q (e.declaredName site) := by
  unfold Engine.declaredName
  dsimp only
  split
  · exact ways.pure _
  · exact ways.diagnose _

theorem includeExportedFunction (site : Option SiteId) {name : String} (owned : value name) :
    Q (e.includeExportedFunction site name) := by
  refine ways.bind (ways.lift _) fun found => ?_
  refine ways.bind (ways.lift _) fun type => ?_
  refine ways.bind (ways.lift _) fun signatures => ?_
  split
  · exact ways.diagnose _
  · refine ways.entry owned ?_ ?_
    · refine ways.bind (ways.includeSignature _) fun callable => ?_
      refine ways.bind (ways.lift _) fun site => ?_
      exact ways.bind (ways.lift _) fun comment => ways.pure _
    · exact yields_bind fun _ => yields_bind fun _ => yields_bind fun _ => yields_pure rfl

variable (fits : e.program.Fits manner ages now)
include fits

theorem includeExportedAlias {site : SiteId} {name : String}
    (title : (e.program.site site).name = some name) (owned : value name) :
    Q (e.includeExportedAlias site) := by
  refine ways.bind_of (ways.declaredName site) fun w found after ran => ?_
  obtain ⟨rfl, -⟩ := declaredName_eq fits title ran
  split
  · exact ways.diagnose _
  · rename_i written _
    have annotation : Q (e.includeAnnotation (some written)) :=
      Visits.includeAnnotation ways.toVisits (some written)
    refine ways.entry owned ?_ ?_
    · refine ways.bind (ways.reserve found (Or.inl owned)) fun _ => ?_
      refine ways.bind (ways.lift _) fun comment => ?_
      refine ways.bind (ways.declaredTypeParameters site) fun types => ?_
      exact ways.bind annotation fun child => ways.pure _
    · exact yields_bind fun _ => yields_bind fun _ => yields_bind fun _ => yields_bind fun _ =>
        yields_pure rfl

theorem includeExportedValue {site : SiteId} {name : String}
    (title : (e.program.site site).name = some name) (owned : value name) :
    Q (e.includeExportedValue site) := by
  unfold Engine.includeExportedValue
  refine ways.bind_of (ways.declaredName site) fun w found after ran => ?_
  obtain ⟨rfl, -⟩ := declaredName_eq fits title ran
  have entry (type : Option TypeId) :
      Q (Extract.inScope found do Extract.set found (← e.exportedValue site type)) := by
    refine ways.entry owned ?_ ?_
    · refine ways.bind (ways.lift _) fun comment => ?_
      refine ways.bind (ways.lift _) fun type => ?_
      exact ways.bind (ways.includeType type) fun _ => ways.pure _
    · exact yields_bind fun _ => yields_bind fun _ => yields_bind fun _ => yields_pure rfl
  dsimp only
  split
  · exact ways.bind (ways.lift _) entry
  · exact ways.bind (ways.lift _) entry
  · exact ways.bind (ways.diagnose _) entry

theorem steps : e.RootSteps Q fun symbol => (e.program.symbol symbol).Owned value type := by
  have owned {symbol : SymbolId} (owned : (e.program.symbol symbol).Owned value type)
      (untyped : RootKind.sortOf (e.program.symbol symbol) ≠ .type) :
      value (e.program.symbol symbol).name := by
    rwa [Symbol.Owned, RootKind.declaresType_eq, if_neg (by simpa using untyped)] at owned
  exact
    { ways.toSequences with
      exportedAlias := fun isRoot sort _ title =>
        ways.includeExportedAlias fits title (owned isRoot (by simp [sort]))
      exportedFunction := fun isRoot sort _ =>
        ways.includeExportedFunction _ (owned isRoot (by simp [sort]))
      exportedType := fun isRoot sort declares => by
        rw [Symbol.Owned, RootKind.declaresType_eq, if_pos (by simp [sort])] at isRoot
        exact ways.exportedType declares isRoot
      exportedValue := fun isRoot sort _ title =>
        ways.includeExportedValue fits title (owned isRoot (by simp [sort])) }

theorem includeDefaultExport {site : SiteId} (default : value RootKind.defaultName)
    (synthetic : value RootKind.syntheticName)
    (owned : ∀ symbol, e.program.DefaultOf site symbol → (e.program.symbol symbol).Owned value type) :
    Q (e.includeDefaultExport site) := by
  have reference : Q syntheticRef :=
    ways.bind (ways.resolve (Or.inl synthetic) _ _) fun _ => ways.pure _
  have described : Q (e.defaultValue site) := by
    unfold Engine.defaultValue
    dsimp only
    split
    · exact ways.bind (ways.includeExportedFunction _ synthetic) fun _ => reference
    · split
      · exact ways.diagnose _
      · rename_i place held
        refine ways.bind (ways.lift _) fun type => ?_
        split
        · rename_i symbol named
          have sort := owned symbol ⟨place, held, named⟩
          refine ways.bind ((ways.steps fits).includeNamedDefault fits sort) fun _ => ?_
          exact ways.bind (ways.lift _) fun type => ways.includeRef sort.sort type none
        · refine ways.bind (ways.entry synthetic ?_ ?_) fun _ => reference
          · refine ways.bind (ways.lift _) fun type => ?_
            exact ways.bind (ways.includeInline type) fun _ => ways.pure _
          · exact yields_bind fun _ => yields_bind fun _ => yields_pure rfl
  refine ways.bind described fun node => ?_
  exact ways.bind (ways.lift _) fun comment => ways.set _ _ default rfl

theorem includeRoot {symbol : SymbolId} {kind : RootKind}
    (suited : RootKind.of? (e.program.symbol symbol) = some kind)
    (owned : kind ≠ .default → (e.program.symbol symbol).Owned value type)
    (default : kind = .default → value RootKind.defaultName ∧ value RootKind.syntheticName ∧
      ∀ site target, (e.program.symbol symbol).declarations.first? = some site →
        e.program.DefaultOf site target → (e.program.symbol target).Owned value type) :
    Q (e.includeRoot symbol kind) := by
  refine (ways.steps fits).includeRoot fits suited owned fun isDefault site first => ?_
  obtain ⟨default, synthetic, targets⟩ := default isDefault
  exact ways.includeDefaultExport fits default synthetic fun target => targets site target first

end RootWays

section Advances

variable {e : Engine} {manner : Manner} {ages : Ages} {now : Nat} (ordered : e.Orderly)
include ordered

/-- Roots may write over any entry and still take nothing back. -/
theorem rootWays_advances : e.RootWays Advances (fun _ => True) fun _ => True :=
  { (orderly_ways ordered).imp composes_advances advances_of_orderly with
    includeType := fun type => advances_of_orderly (orderly_includeType ordered type)
    inScope := advances_inScope
    reserve := fun name _ => advances_reserve name
    set := fun name node _ _ => (settles_set name node).advances
    exportedType := fun _ _ => (settles_includeExportedType ordered _).advances }

theorem advances_includeRoot (fits : e.program.Fits manner ages now) {symbol : SymbolId}
    {kind : RootKind} (suited : RootKind.of? (e.program.symbol symbol) = some kind) :
    Advances (e.includeRoot symbol kind) := by
  have owned (symbol : Symbol) : symbol.Owned (fun _ => True) fun _ => True := by
    unfold Symbol.Owned
    split <;> trivial
  exact (rootWays_advances ordered).includeRoot fits suited (fun _ => owned _)
    fun _ => ⟨trivial, trivial, fun _ _ _ _ => owned _⟩

/-- Roots take nothing back, however they end. -/
theorem advances_exports (fits : e.program.Fits manner ages now) (exports : List (Option SymbolId))
    (tally : Tally) : Advances (exports.foldlM (root e) tally) :=
  advances_roots (fun _ _ _ suited => advances_includeRoot ordered fits suited) tally

end Advances

end Engine

end TypeAtlas
