import TypeAtlas.Proofs.Extract.Ways

/-!
Properties that hold throughout an extraction. What sequences of steps keep, and each write to a walk
has, every step of the extractor has, on any program and from any walk on.
-/

namespace TypeAtlas

namespace Extract

structure Pervades (Q : ∀ {α : Type}, Extract α → Prop) : Prop extends Threads Q where
  set (name : String) (node : Node) : Q (set name node)
  reserve (name : String) : Q (reserve name)
  given (home name : String) : Q (modifyGet fun w => w.bind home name : Extract String)
  inScope {α : Type} (name : String) {step : Extract α} : Q step → Q (inScope name step)
  isolated {step : Extract Unit} : Q step → Q (isolated step)

namespace Pervades

variable {Q : ∀ {α : Type}, Extract α → Prop} (pervades : Pervades Q)
include pervades

theorem isRegistered (name : String) : Q (isRegistered name) :=
  pervades.reading (fun w other same => by rw [same]) fun w => pervades.pure _

theorem resolve (name : String) (types : List Node) (live : Option TypeId) :
    Q (resolve name types live) :=
  pervades.bind (pervades.reserve name) fun _ =>
    pervades.pure ({ name, types, live } : Node.Ref Node)

theorem entry {name : String} {body : Extract Node} (holds : Q body) :
    Q (Extract.inScope name do Extract.set name (← body)) :=
  pervades.inScope name (pervades.bind holds fun node => pervades.set name node)

theorem register (name : String) {body : Extract Node} (holds : Q body) :
    Q (Engine.register name body) := by
  refine pervades.bind (pervades.isRegistered name) fun known => ?_
  split
  · exact pervades.pure ()
  · refine pervades.inScope name ?_
    refine pervades.bind (pervades.reserve name) fun _ => ?_
    exact pervades.bind holds fun node => pervades.set name node

theorem registerImport (name : String) (node : Node) : Q (Engine.registerImport name node) := by
  refine pervades.reading (fun w other same => by simp only [same]) fun w => ?_
  dsimp only
  split
  · exact pervades.set name node
  · exact pervades.pure ()

end Pervades

end Extract

namespace Engine

open Extract

structure Throughout (e : Engine) (Q : ∀ {α : Type}, Extract α → Prop) : Prop extends Pervades Q where
  visit : ∀ type, Q (e.visit type)
  visitNamed : ∀ type name, Q (e.visitNamed type name)
  visitInline : ∀ type, Q (e.visitInline type)
  bodyOfType : ∀ type, Q (e.bodyOfType type)
  bodyOfAlias : ∀ site, Q (e.bodyOfAlias site)

namespace Throughout

variable {e : Engine} {Q : ∀ {α : Type}, Extract α → Prop}

section Steps

variable (all : e.Throughout Q)
include all

theorem visits : e.Visits Q :=
  { all.toThreads with
    visit := all.visit
    visitInline := all.visitInline
    visitNamed := fun _ _ _ _ => all.visitNamed _ _ }

theorem includeRef (type : TypeId) (name : String) (live : Option TypeId) :
    Q (e.includeRef type name live) := by
  refine all.bind (all.visits.visitAll _) fun types => ?_
  refine all.bind (Visits.normalizeArguments all.toThreads _ _ _ _) fun types => ?_
  exact all.bind (all.resolve name types live) fun _ => all.pure _

theorem makeRef (type : Option TypeId) (name : String) : Q (e.makeRef type name) := by
  refine all.bind (all.register name ?_) fun _ => ?_
  · exact all.bind (all.lift _) fun id => all.bodyOfType _
  · exact all.bind (all.lift _) fun id => all.includeRef id name none

theorem ensureNamed (type : Option TypeId) (name : String) : Q (e.ensureNamed type name) := by
  refine all.bind (all.isRegistered name) fun known => ?_
  split
  · exact all.pure ()
  · exact all.map _ (all.makeRef type name)

theorem bindImport (symbol : SymbolId) (origin : Origin) (scope : ImportScope) :
    Q (e.bindImport symbol origin scope) := by
  have named : Q (e.importName symbol origin scope) := by
    cases scope with
    | global => exact all.pure _
    | lib => exact all.pure _
    | module_ => exact all.given _ _
  refine all.bind named fun name => ?_
  exact all.bind (all.registerImport name _) fun _ => all.pure name

theorem externalName (symbol : Option SymbolId) : Q (e.externalName symbol) := by
  unfold Engine.externalName
  dsimp only
  split
  · exact all.pure none
  · refine all.bind (all.lift _) fun symbol => ?_
    split
    · exact all.pure none
    · exact all.map _ (all.bindImport _ _ _)

theorem includeExternal (type : TypeId) : Q (e.includeExternal type) := by
  unfold Engine.includeExternal
  dsimp only
  split
  · exact all.pure none
  · split
    · exact all.pure none
    · split
      · split
        · exact all.visits.includeHidden type
        · exact all.pure none
      · split
        · exact all.pure none
        · refine all.bind (all.bindImport _ _ _) fun name => ?_
          exact all.map _ (all.includeRef type name _)

theorem makeAliasRef (type : TypeId) (name : String) : Q (e.makeAliasRef type name) := by
  unfold Engine.makeAliasRef
  dsimp only
  split
  · rename_i site _ _
    have reference (name : String) : Q (do
        let types ← e.visitAll (e.program.type type).aliasArguments.slots
        let types ← e.normalizeArguments type (e.program.site site).typeParameters types name
        pure (Node.ref { name, types })) := by
      refine all.bind (all.visits.visitAll _) fun types => ?_
      exact all.bind (Visits.normalizeArguments all.toThreads _ _ _ _) fun types => all.pure _
    refine all.bind (all.externalName _) fun bound => ?_
    split
    · exact all.bind (all.pure _) reference
    · refine all.bind (all.register name (all.bodyOfAlias _)) fun _ => ?_
      exact all.bind (all.pure name) reference
  · exact all.diagnose _

theorem includeReference (type : TypeId) : Q (e.includeReference type) := by
  refine all.bind (all.includeExternal type) fun outside => ?_
  cases outside with
  | some node => exact all.pure node
  | none =>
      refine all.bind (all.lift _) fun symbol => ?_
      refine all.bind (all.ensureNamed _ _) fun _ => ?_
      exact all.includeRef _ _ _

theorem includeBase (site : Option SiteId) : Q (e.includeBase site) := by
  refine all.bind (all.lift _) fun base => ?_
  refine all.bind (all.visits.visitPresent base) fun node => ?_
  split
  · exact all.pure _
  · refine all.bind (all.lift _) fun site => ?_
    split
    · exact all.pure _
    · rename_i name _
      split
      · exact all.pure _
      · have reference : Q (pure (Node.ref { name, live := base }) : Extract Node) := all.pure _
        refine all.bind (all.isRegistered name) fun known => ?_
        split
        · exact all.bind (all.set name node) fun _ => reference
        · exact all.bind (all.pure ()) fun _ => reference

theorem ways : e.Ways Q :=
  { all.visits with
    reference := fun type _ => all.includeReference type
    base := fun _ _ _ site _ => all.includeBase site }

theorem includeKnown (type : TypeId) (name : Option String) : Q (e.includeKnown type name) :=
  all.ways.includeKnown type name (all.includeExternal type)
    (fun given _ => all.makeAliasRef type given) fun given _ _ _ _ => all.makeRef (some type) given

theorem includeType (type : TypeId) : Q (e.includeType type) :=
  all.ways.includeType type (all.includeKnown type _)

theorem includeExportedType (type : TypeId) : Q (e.includeExportedType type) := by
  unfold Engine.includeExportedType
  dsimp only
  split
  · exact all.diagnose _
  · refine all.bind (all.inScope _ (all.includeType type)) fun node => ?_
    split
    · exact all.pure ()
    · exact all.set _ _

theorem declaredName (site : SiteId) : Q (e.declaredName site) := by
  unfold Engine.declaredName
  dsimp only
  split
  · exact all.pure _
  · exact all.diagnose _

theorem includeExportedAlias (site : SiteId) : Q (e.includeExportedAlias site) := by
  refine all.bind (all.declaredName site) fun name => ?_
  split
  · exact all.diagnose _
  · rename_i written _
    have annotation : Q (e.includeAnnotation (some written)) :=
      Visits.includeAnnotation all.visits (some written)
    refine all.entry ?_
    refine all.bind (all.reserve name) fun _ => ?_
    refine all.bind (all.lift _) fun comment => ?_
    refine all.bind (all.visits.declaredTypeParameters site) fun types => ?_
    exact all.bind annotation fun child => all.pure _

theorem includeExportedValue (site : SiteId) : Q (e.includeExportedValue site) := by
  unfold Engine.includeExportedValue
  refine all.bind (all.declaredName site) fun name => ?_
  have entry (type : Option TypeId) :
      Q (Extract.inScope name do Extract.set name (← e.exportedValue site type)) := by
    refine all.entry ?_
    refine all.bind (all.lift _) fun comment => ?_
    refine all.bind (all.lift _) fun type => ?_
    exact all.bind (all.includeType type) fun _ => all.pure _
  dsimp only
  split
  · exact all.bind (all.lift _) entry
  · exact all.bind (all.lift _) entry
  · exact all.bind (all.diagnose _) entry

theorem includeExportedFunction (site : Option SiteId) (name : String) :
    Q (e.includeExportedFunction site name) := by
  refine all.bind (all.lift _) fun found => ?_
  refine all.bind (all.lift _) fun type => ?_
  refine all.bind (all.lift _) fun signatures => ?_
  split
  · exact all.diagnose _
  · refine all.entry ?_
    refine all.bind (all.visits.includeSignature _) fun callable => ?_
    refine all.bind (all.lift _) fun site => ?_
    exact all.bind (all.lift _) fun comment => all.pure _

theorem includeDeclared (symbol : SymbolId) :
    Q (do e.includeExportedType (← present (← e.program.declaredType symbol)) : Extract Unit) := by
  refine all.bind (all.lift _) fun declared => ?_
  exact all.bind (all.lift _) fun type => all.includeExportedType type

theorem includeNamedDefault (symbol : SymbolId) : Q (e.includeNamedDefault symbol) := by
  unfold Engine.includeNamedDefault
  dsimp only
  split
  · split
    · exact all.diagnose _
    · exact all.includeExportedAlias _
  · split
    · split
      · exact all.diagnose _
      · exact all.includeExportedFunction _ _
    · split
      · exact all.includeDeclared symbol
      · split
        · exact all.diagnose _
        · exact all.includeExportedValue _

theorem defaultValue (site : SiteId) : Q (e.defaultValue site) := by
  have reference : Q syntheticRef := all.bind (all.resolve _ _ _) fun _ => all.pure _
  unfold Engine.defaultValue
  dsimp only
  split
  · exact all.bind (all.includeExportedFunction _ _) fun _ => reference
  · split
    · exact all.diagnose _
    · refine all.bind (all.lift _) fun type => ?_
      split
      · refine all.bind (all.includeNamedDefault _) fun _ => ?_
        exact all.bind (all.lift _) fun type => all.includeRef type _ none
      · refine all.bind (all.entry ?_) fun _ => reference
        refine all.bind (all.lift _) fun type => ?_
        exact all.bind (all.ways.includeInline type) fun _ => all.pure _

theorem includeDefaultExport (site : SiteId) : Q (e.includeDefaultExport site) := by
  refine all.bind (all.defaultValue site) fun value => ?_
  exact all.bind (all.lift _) fun comment => all.set _ _

theorem includeRoot (symbol : SymbolId) (kind : RootKind) : Q (e.includeRoot symbol kind) := by
  unfold Engine.includeRoot
  dsimp only
  split
  · exact all.includeDeclared symbol
  · split
    · exact all.diagnose _
    · cases kind with
      | default => exact all.includeDefaultExport _
      | named => exact all.includeExportedAlias _
      | function => exact all.includeExportedFunction _ _
      | type => exact all.includeExportedValue _
      | value => exact all.includeExportedValue _

theorem exports (exports : List (Option SymbolId)) (tally : Tally) :
    Q (exports.foldlM (root e) tally) :=
  all.roots all.isolated (fun symbol _ kind _ => all.includeRoot symbol kind) tally

end Steps

theorem within (all : e.Throughout Q) (depth : Nat) : (e.within depth).Throughout Q := by
  induction depth with
  | zero => exact all
  | succ depth ih =>
      exact
        { all with
          visit := ih.includeType
          visitNamed := ih.includeKnown
          visitInline := ih.ways.includeInline }

theorem withEntries (all : e.Throughout Q) (depth entries : Nat) :
    (e.withEntries depth entries).Throughout Q := by
  induction entries with
  | zero => exact all
  | succ entries ih =>
      exact
        { all with
          bodyOfType := (ih.within depth).ways.includeNamed
          bodyOfAlias := (ih.within depth).ways.aliasBody }

end Throughout

theorem throughout_start {Q : ∀ {α : Type}, Extract α → Prop} (pervades : Pervades Q) (p : Program)
    (settings : ExtractionSettings) (libraries : LibrarySettings) :
    (start p settings libraries).Throughout Q := by
  let bare : Engine := { program := p, settings, libraries }
  have stuck : bare.Throughout Q :=
    { pervades with
      visit := fun _ => pervades.fail _
      visitNamed := fun _ _ => pervades.fail _
      visitInline := fun _ => pervades.fail _
      bodyOfType := fun _ => pervades.fail _
      bodyOfAlias := fun _ => pervades.fail _ }
  exact (stuck.withEntries _ _).within _

end Engine

end TypeAtlas
