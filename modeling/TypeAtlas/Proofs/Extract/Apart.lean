import TypeAtlas.Proofs.Extract.Shared

/-!
A program's own types and types from outside in the graph of one run. Both go by names of one registry,
and only new bindings keep clear of the names that are there.
-/

namespace TypeAtlas

open Extract

variable {α β : Type} {manner : Manner} {ages : Ages} {now : Nat}

namespace Walk

/-- Entries stay as they are, and new bindings have their imports, but for names that are written over. -/
structure Retains (w : Walk) (written : String → Prop) (after : Walk) : Prop where
  bound : ∀ key binding, Table.get? w.bindings key = some binding →
    Table.get? after.bindings key = some binding
  filled : ∀ name node, ¬ written name → w.registry.Filled name node → after.registry.Filled name node
  imports : ∀ home name binding, ¬ written binding → Table.get? w.bindings (home, name) = none →
    Table.get? after.bindings (home, name) = some binding →
    after.registry.Filled binding (.imported name (some home) .module_)

theorem Grows.retains {w after : Walk} (grows : w.Grows after) (written : String → Prop) :
    w.Retains written after where
  bound := grows.bound
  filled name node _ := grows.filled name node
  imports home name binding _ := grows.imports home name binding

theorem Retains.of_bindings {w after : Walk} {written : String → Prop}
    (same : after.bindings = w.bindings)
    (filled : ∀ name node, ¬ written name → w.registry.Filled name node →
      after.registry.Filled name node) : w.Retains written after where
  bound key binding held := by rwa [same]
  filled := filled
  imports home name binding _ unbound held := by rw [same, unbound] at held; cases held

theorem Retains.trans {w between after : Walk} {written : String → Prop}
    (first : w.Retains written between) (second : between.Retains written after) :
    w.Retains written after where
  bound key binding held := second.bound key binding (first.bound key binding held)
  filled name node free held := second.filled name node free (first.filled name node free held)
  imports home name binding free unbound held := by
    cases middle : Table.get? between.bindings (home, name) with
    | none => exact second.imports home name binding free middle held
    | some earlier =>
        rw [second.bound _ earlier middle, Option.some.injEq] at held
        subst held
        exact second.filled _ _ free (first.imports home name earlier free unbound middle)

end Walk

namespace Extract

def Retains (written : String → Prop) (step : Extract α) : Prop :=
  ∀ w : Walk, w.Retains written (step w).2

variable {written : String → Prop}

theorem retains_of_orderly {step : Extract α} (ordered : Orderly step) : Retains written step :=
  fun w => (ordered w).grows.retains written

theorem retains_bind_of {step : Extract α} {next : α → Extract β} (first : Retains written step)
    (rest : ∀ w value after, step w = (.ok value, after) → Retains written (next value)) :
    Retains written (step >>= next) := by
  intro w
  have between := first w
  rcases ran : step w with ⟨fault | value, after⟩
  · rw [ran] at between
    rwa [bind_error ran]
  · rw [ran] at between
    rw [bind_ok ran]
    exact between.trans (rest w value after ran after)

theorem composes_retains : Composes (Retains written) where
  bind_of := retains_bind_of
  same same := retains_of_orderly (orderly_of_same same)
  emit event := retains_of_orderly (orderly_emit event)
  declareLocal name := retains_of_orderly (orderly_declareLocal name)
  count := retains_of_orderly Engine.composes.count

theorem retains_inScope (name : String) {step : Extract α} (retains : Retains written step) :
    Retains written (inScope name step) := by
  intro w
  have opened : w.Retains written w.openScope := .of_bindings rfl fun _ _ _ filled => filled
  refine opened.trans ((retains w.openScope).trans ?_)
  rw [inScope_apply]
  refine .of_bindings (Walk.bindings_closeScope _ _) fun _ _ _ filled => ?_
  rwa [Walk.registry_closeScope]

theorem retains_set {name : String} (owned : written name) (node : Node) :
    Retains written (set name node) := by
  refine fun w => .of_bindings rfl fun other held free filled => ?_
  exact Registry.filled_set_of_ne node (fun same => free (same ▸ owned)) filled

/-- A registered name that is not reported has its entry. -/
theorem Finished.filled {e : Engine} {w final after : Walk} {exports : List (Option SymbolId)} {tally : Tally}
    {x : Extraction} (finished : Finished e w exports tally final x after) {name : String}
    (known : after.registry.has name = true) (unreported : name ∉ x.dangling) :
    ∃ node, after.registry.Filled name node ∧ Table.get? x.graph.entries name = some node := by
  rw [finished.registry] at known ⊢
  obtain ⟨node, found⟩ := Option.isSome_iff_exists.mp known
  refine ⟨node, ⟨found, ?_⟩, by rw [finished.graph]; exact found⟩
  cases reserved : final.registry.isPlaceholder name with
  | false => rfl
  | true =>
      refine absurd ?_ unreported
      rw [finished.dangling, danglingOf, mem_dedup_iff]
      refine List.mem_append_right _ (List.mem_filter.mpr ⟨?_, reserved⟩)
      exact (Registry.has_iff _ _).mp known

end Extract

namespace Engine

section Roots

variable {e : Engine} (fits : e.program.Fits manner ages now) (ordered : e.Orderly)
include fits ordered

theorem rootWays_retains : e.RootWays (Retains (e.program.WrittenOver e.settings))
    (e.program.WrittenOver e.settings) e.Exposed :=
  { (orderly_ways ordered).imp composes_retains retains_of_orderly with
    includeType := fun type => retains_of_orderly (orderly_includeType ordered type)
    inScope := retains_inScope
    reserve := fun name _ w => (Walk.grows_reserve w name).retains _
    set := fun _ node owned _ => retains_set owned node
    exportedType := fun {type name} declares exposed =>
      includeExportedType_of composes_retains fits declares
        (retains_inScope name (retains_of_orderly (orderly_includeType ordered type)))
        fun anonymous node => retains_set (exposed.2 anonymous) node }

theorem retains_exports {exports : List (Option SymbolId)}
    (listed : (e.program.symbol e.program.moduleSymbol).exports.each = .ok exports) (tally : Tally) :
    Retains (e.program.WrittenOver e.settings) (exports.foldlM (root e) tally) := by
  refine composes_retains.roots (fun retains w => walk_isolated _ w ▸ retains w) ?_ tally
  intro symbol member kind suited
  refine (rootWays_retains fits ordered).includeRoot fits suited ?_ fun _ => ?_
  · exact fun _ => owned_of_isRoot (.exported listed member)
  · exact ⟨Or.inl rfl, Or.inr (Or.inl rfl), fun _ target _ named => owned_of_isRoot (.named named)⟩

theorem retains_of_finished {w final after : Walk} {exports : List (Option SymbolId)} {tally : Tally}
    {x : Extraction} (finished : Finished e w exports tally final x after) :
    w.Retains (e.program.WrittenOver e.settings) after := by
  let begun := w.emit (started (e.program.symbol e.program.moduleSymbol).name exports.length)
  have opened : w.Retains (e.program.WrittenOver e.settings) begun :=
    .of_bindings rfl fun _ _ _ filled => filled
  have retained := retains_exports fits ordered finished.listed {} begun
  rw [finished.ran] at retained
  refine opened.trans (retained.trans (.of_bindings finished.bindings fun _ _ _ filled => ?_))
  rwa [finished.registry]

end Roots

def IsImport (e : Engine) (w : Walk) (name : String) (node : Node) : Prop :=
  ∃ symbol scope, (e.originOf (some symbol)).scope? = some scope ∧
    e.importedAs? w symbol = some name ∧ node = e.importOf symbol scope

def Attested (e : Engine) (w : Walk) (name : String) (node : Node) : Prop :=
  ∀ held, e.Confined name held →
    (∃ type, held type ∧ e.Makes (fun inner => inner.includeNamed type) node) ∨ e.IsImport w name node

theorem grants_attested {e : Engine} (fits : e.program.Fits manner ages now) :
    e.Grants e.Attested where
  later later attested held confined := by
    refine (attested held confined).imp_right ?_
    rintro ⟨symbol, scope, outside, known, same⟩
    exact ⟨symbol, scope, outside, importedAs?_later later.bound known, same⟩
  type enters domestic ran held confined :=
    Or.inl ⟨_, confined.goes _ enters.goesBy domestic, ran.makes⟩
  named called aliased domestic _ _ held confined :=
    absurd domestic (confined.unaliased _ _ called aliased)
  imported _ outside known held _ := Or.inr ⟨_, _, outside, known, rfl⟩
  base among listed denoted written described ran held confined :=
    (confined.not_base fits among listed denoted written described ran.makes).elim
  root owned _ _ held confined := absurd owned confined.unwritten

/-- The node that a run makes for a type, at some depth and at a moment before the end. -/
def ReachedAs (e : Engine) (after : Walk) (type : TypeId) (node : Node) : Prop :=
  ∃ depth entries levels w later,
    (inner e.program e.settings e.libraries depth entries levels).includeType type w =
      (.ok node, later) ∧ later.Later after

/-- Why a symbol from outside is not imported under a name, in a run that began with some bindings. -/
inductive Clear (e : Engine) (bindings : Bindings) (after : Walk) (symbol : SymbolId) (name : String) :
    Prop
  | lib (origin : e.originOf (some symbol) = .lib) (other : (e.program.symbol symbol).name ≠ name)
  | global (origin : e.originOf (some symbol) = .global)
      (other : e.program.globalName symbol ≠ name)
  | numbered {home : String} (origin : e.originOf (some symbol) = .module_ home)
      (given : Table.get? bindings (home, (e.program.symbol symbol).name) ≠ some name)
      (other : ∀ n, Bindings.candidate (e.program.symbol symbol).name n ≠ name)
  | bound {home : String} {between : Walk} (origin : e.originOf (some symbol) = .module_ home)
      (known : between.registry.has name = true)
      (unbound : Table.get? between.bindings (home, (e.program.symbol symbol).name) = none)
      (later : between.Later after)

theorem Clear.not_imported {e : Engine} {bindings : Bindings} {after : Walk} {symbol : SymbolId}
    {name : String} (clear : e.Clear bindings after symbol name)
    (begun : Walk.Later { bindings } after) : e.importedAs? after symbol ≠ some name := by
  intro known
  unfold importedAs? at known
  cases clear with
  | lib origin other =>
      simp only [origin, Option.some.injEq] at known
      exact other known
  | global origin other =>
      simp only [origin, Option.some.injEq] at known
      exact other known
  | @numbered home origin given other =>
      simp only [origin] at known
      cases earlier : Table.get? bindings (home, (e.program.symbol symbol).name) with
      | none =>
          obtain ⟨n, same⟩ := begun.formed home _ name earlier known
          exact other n same.symm
      | some binding =>
          have kept := begun.bound _ binding earlier
          rw [known] at kept
          rw [earlier, kept] at given
          exact given rfl
  | bound origin registered unbound later =>
      simp only [origin] at known
      exact later.fresh _ name unbound known ((Registry.has_iff _ _).mp registered)

/-- Why the import of a symbol has the entry of its name. -/
inductive Sheltered (e : Engine) (bindings : Bindings) (after : Walk) (symbol : SymbolId)
    (scope : ImportScope) (name : String) : Prop
  | bound {home : String} (origin : e.originOf (some symbol) = .module_ home)
      (unbound : Table.get? bindings (home, (e.program.symbol symbol).name) = none)
      (unwritten : ¬ e.program.WrittenOver e.settings name)
  | confined (confined : e.Confined name fun _ => False)
      (agree : ∀ other kind, (e.originOf (some other)).scope? = some kind →
        e.importedAs? after other = some name → e.importOf other kind = e.importOf symbol scope)

/-- How a type of the program and a type from outside stand in the graph of a run. -/
structure Apart (e : Engine) (bindings : Bindings) (type : TypeId) (name : String) (symbol : SymbolId)
    (scope : ImportScope) (near far : Node) (x : Extraction) (after : Walk) : Prop where
  own : ∃ r, near = .ref r ∧ r.name = name
  outside : ∃ r, far = .ref r ∧ e.importedAs? after symbol = some r.name ∧ r.name ≠ name
  /-- The entry is the body of the type, or an import that has not been kept clear of the name. -/
  body : e.Confined name (· = e.entryType type) → name ∉ x.dangling →
    ∃ node, Table.get? x.graph.entries name = some node ∧
      (e.Makes (fun inner => inner.includeNamed (e.entryType type)) node ∨
        ∃ other kind, ¬ e.Clear bindings after other name ∧
          (e.originOf (some other)).scope? = some kind ∧
          e.importedAs? after other = some name ∧ node = e.importOf other kind)
  imported : ∀ bound, e.importedAs? after symbol = some bound →
    e.Sheltered bindings after symbol scope bound → bound ∉ x.dangling →
    Table.get? x.graph.entries bound = some (e.importOf symbol scope)

theorem Own.of_same {e other : Engine} (program : other.program = e.program)
    (settings : other.settings = e.settings) (libraries : other.libraries = e.libraries) {type : TypeId}
    {name : String} (own : e.Own type name) : other.Own type name := by
  cases e
  cases other
  cases program
  cases settings
  cases libraries
  exact ⟨own.plain, own.declared, own.unaliased, own.named, own.usable, own.object, own.inside⟩

theorem Outside.of_same {e other : Engine} (program : other.program = e.program)
    (settings : other.settings = e.settings) {type : TypeId} {symbol : SymbolId}
    (outside : e.Outside type symbol) : other.Outside type symbol := by
  cases e
  cases other
  cases program
  cases settings
  exact ⟨outside.plain, outside.declared, outside.usable, outside.known⟩

theorem importedAs?_congr {e other : Engine} (program : other.program = e.program)
    (libraries : other.libraries = e.libraries) (w : Walk) (symbol : SymbolId) :
    other.importedAs? w symbol = e.importedAs? w symbol := by
  cases e
  cases other
  cases program
  cases libraries
  rfl

theorem ReachedAs.own {e : Engine} {after : Walk} {type : TypeId} {name : String} {node : Node}
    (reached : e.ReachedAs after type node) (own : e.Own type name) :
    (∃ r, node = .ref r ∧ r.name = name) ∧ after.registry.has name = true := by
  obtain ⟨depth, entries, levels, w, later, ran, before⟩ := reached
  have founded := founded_inner e depth entries levels
  have ordered := orderly_inner e.program e.settings e.libraries depth entries levels
  rw [(own.of_same founded.program founded.settings founded.libraries).includeType_eq] at ran
  refine ⟨(registered_of_makeRef ordered ran).1, ?_⟩
  obtain ⟨_, registered, first, ran⟩ := of_bind_ok ran
  obtain ⟨id, same, found, ran⟩ := of_bind_ok ran
  cases found
  have known := has_of_register first
  have grows := ((keeps_includeRef ordered known type none).result ran).1
  rw [Registry.has_iff] at known ⊢
  exact before.names.subset (grows.names.subset known)

theorem ReachedAs.outside {e : Engine} {after : Walk} {type : TypeId} {symbol : SymbolId}
    {scope : ImportScope} {node : Node} (reached : e.ReachedAs after type node)
    (outside : e.Outside type symbol) (origin : (e.originOf (some symbol)).scope? = some scope) :
    ∃ r, node = .ref r ∧ e.importedAs? after symbol = some r.name ∧ after.registry.has r.name = true := by
  obtain ⟨depth, entries, levels, w, later, ran, before⟩ := reached
  have founded := founded_inner e depth entries levels
  have ordered := orderly_inner e.program e.settings e.libraries depth entries levels
  have external := outside.of_same founded.program founded.settings
  rw [← founded.originOf] at origin
  obtain ⟨r, middle, rfl, first, grows⟩ := external.bound_of_includeType ordered origin ran
  refine ⟨r, rfl, ?_, ?_⟩
  · have known := importedAs?_of_bindImport origin first
    rw [importedAs?_congr founded.program founded.libraries] at known
    exact importedAs?_later before.bound (importedAs?_later grows.bound known)
  · have known := has_of_bindImport first
    rw [Registry.has_iff] at known ⊢
    exact before.names.subset (grows.names.subset known)

end Engine

open Engine in
theorem import_of_sheltered {p : Program} {allowed : Call → Program → Prop} (built : p.Built allowed)
    (settings : Settings) {bindings : Bindings} {elapsed : Data} {x : Extraction} {after : Walk}
    (ran : extractModule p settings bindings elapsed = (.ok x, after)) {symbol : SymbolId}
    {scope : ImportScope} {name : String}
    (origin : ((start p settings.extraction settings.libraries).originOf (some symbol)).scope? = some scope)
    (sheltered : (start p settings.extraction settings.libraries).Sheltered bindings after symbol scope name)
    (bound : (start p settings.extraction settings.libraries).importedAs? after symbol = some name)
    {node : Node} (filled : after.registry.Filled name node) :
    node = (start p settings.extraction settings.libraries).importOf symbol scope := by
  obtain ⟨ages, fits⟩ := fits_start built settings.extraction settings.libraries
  obtain ⟨exports, tally, final, finished⟩ := finished_of_exportsOf ran
  cases sheltered with
  | @bound home source unbound unwritten =>
      have retained := retains_of_finished fits (orderly_start _ _ _) finished
      simp only [importedAs?, source] at bound
      have imported := retained.imports home _ name unwritten unbound bound
      rw [source] at origin
      cases origin
      have same := filled.1.symm.trans imported.1
      rw [Option.some.injEq] at same
      rw [same, importOf, source]
      rfl
  | confined confined agree =>
      have bears := bears_of_extractModule built settings (grants_attested fits) ran
      rcases bears.filled _ node filled _ confined with ⟨type, none, made⟩ | ⟨other, kind, outer, given, same⟩
      · cases none
      · rw [same, agree other kind outer given]

def shelfProgram : Program :=
  (Program.start "src/index.ts").takes
    [.interface { header := { name := "Item", fileName := some "mod/item.d.ts", exported := false } },
     .interface { header := { name := "View" }, members := [("item", .plain (some ⟨15⟩))] },
     .interface { header := { name := "Shelf" }, members := [("view", .plain (some ⟨16⟩))] }]

def shelfSettings : Settings := { libraries := { modules := [("mod", ["mod/*"])] } }

def shelfEngine : Engine := .start shelfProgram shelfSettings.extraction shelfSettings.libraries

def shelfRun : Except Fault Extraction × Walk := extractModule shelfProgram shelfSettings

open Engine in
def shelfVisit (type : TypeId) : Except Fault Node × Walk :=
  (inner shelfEngine.program shelfEngine.settings shelfEngine.libraries 9 9 9).includeType type shelfRun.2

theorem runs_shelf : (shelfRun.1.isOk && [⟨15⟩, ⟨17⟩].all fun type => (shelfVisit type).1.isOk &&
    (shelfVisit type).2.registry.names == shelfRun.2.registry.names &&
    (shelfVisit type).2.bindings == shelfRun.2.bindings) = true := by
  decide +kernel

theorem candidate_ne_of_head {own name : String} (empty : own.toList ≠ [])
    (other : own.toList.head? ≠ name.toList.head?) (n : Nat) : Bindings.candidate own n ≠ name := by
  rintro rfl
  cases n with
  | zero => exact other rfl
  | succ n =>
      apply other
      rw [Bindings.candidate, String.toList_append, String.toList_append]
      cases held : own.toList with
      | nil => exact absurd held empty
      | cons first rest => rfl

def calendarProgram : Program :=
  (Program.start "src/index.ts").takes
    [.interface { header := { name := "Date" }, members := [("year", .plain (some Program.numberType))] },
     .interface { header := { name := "Date", fileName := some "lib.es5.d.ts", exported := false } },
     .variableOf { name := "holiday" } (some ⟨15⟩) none,
     .variableOf { name := "now" } (some ⟨16⟩) none]

def viewProgram : Program :=
  (Program.start "src/index.ts").takes
    [.interface { header := { name := "Component", fileName := some "react/index.d.ts",
                              exported := false } },
     .interface { header := { name := "View" }, members := [("base", .plain (some ⟨15⟩))] },
     .interface { header := { name := "Component" }
                  members := [("local", .plain (some Program.booleanType))] }]

def viewSettings : Settings := { libraries := { modules := [("react", ["react/*"])] } }

def importedName? (x : Extraction) (entry : String) : Option String :=
  match Table.get? x.graph.entries entry with
  | some (.imported name _ _) => some name
  | _ => none

end TypeAtlas
