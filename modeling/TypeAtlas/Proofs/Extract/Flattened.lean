import TypeAtlas.Proofs.Extract.Isolation
import TypeAtlas.Proofs.Extract.Shapes

/-!
What the shapes of a run list. A member of a type is listed by its entry or exposed by an edge behind
it, but a member that is exposed may be listed as well.
-/

namespace TypeAtlas

variable {α β : Type} {p : Program}

namespace Walk

def Flat (p : Program) (w : Walk) : Prop :=
  ∀ name node, node.isShape = true → w.registry.get? name = some node →
    p.Flattened w.registry name node

structure Upholds (p : Program) (w after : Walk) : Prop where
  reachable : after.Reachable
  keeps : w.registry.KeepsShapes after.registry
  flat : after.Flat p

theorem Upholds.trans {w between after : Walk} (first : w.Upholds p between)
    (second : between.Upholds p after) : w.Upholds p after :=
  ⟨second.reachable, first.keeps.trans second.keeps, second.flat⟩

theorem Upholds.of_same {w after : Walk} (reachable : after.Reachable)
    (registry : after.registry = w.registry) (flat : w.Flat p) : w.Upholds p after := by
  refine ⟨reachable, fun _ _ _ held => by rwa [registry], fun name node shape held => ?_⟩
  rw [registry] at held ⊢
  exact flat name node shape held

theorem Shapes.upholds {w after : Walk} (shapes : w.Shapes p after) (reachable : after.Reachable)
    (keeps : w.registry.KeepsShapes after.registry) (flat : w.Flat p) : w.Upholds p after := by
  refine ⟨reachable, keeps, fun name node shape held => ?_⟩
  rcases shapes name node shape held with before | ⟨-, flattened⟩
  · exact (flat name node shape before).later keeps
  · exact flattened

end Walk

namespace Extract

def Upholds (p : Program) (step : Extract α) : Prop :=
  ∀ w : Walk, w.Reachable → w.Flat p → w.Upholds p (step w).2

theorem upholds_bind_of {step : Extract α} {next : α → Extract β} (first : Upholds p step)
    (rest : ∀ w value after, step w = (.ok value, after) → Upholds p (next value)) :
    Upholds p (step >>= next) := by
  intro w reached flat
  have upheld := first w reached flat
  rcases ran : step w with ⟨fault | value, after⟩
  · rw [bind_error ran]
    rwa [ran] at upheld
  · rw [bind_ok ran]
    rw [ran] at upheld
    exact upheld.trans (rest w value after ran after upheld.reachable upheld.flat)

theorem upholds_of_flattening {step : Extract α} (flattening : Flattening p step) :
    Upholds p step := by
  intro w reached flat
  have shapely := flattening w reached
  have grows := shapely.keeps.grows
  exact shapely.shapes.upholds (grows.reachable reached) (grows.keepsShapes reached) flat

theorem composes_upholds : Composes (Upholds p) where
  bind_of := upholds_bind_of
  same same := upholds_of_flattening (composes_flattening.same same)
  emit event := upholds_of_flattening (composes_flattening.emit event)
  declareLocal name := upholds_of_flattening (composes_flattening.declareLocal name)
  count := upholds_of_flattening composes_flattening.count

theorem upholds_inScope (name : String) {step : Extract α} (upholds : Upholds p step) :
    Upholds p (inScope name step) := by
  intro w reached flat
  have inner := upholds w.openScope (.openScope reached) flat
  have closed : (step w.openScope).2.Upholds p ((step w.openScope).2.closeScope name) :=
    .of_same (.closeScope name inner.reachable) (Walk.registry_closeScope ..) inner.flat
  exact ⟨closed.reachable, inner.keeps.trans closed.keeps, closed.flat⟩

theorem upholds_reserve (name : String) : Upholds p (reserve name) := by
  intro w reached flat
  have keeps := (Walk.grows_reserve w name).keepsShapes reached
  exact (Walk.Shapes.reserve w name).upholds (.reserve name reached) keeps flat

/-- What is no shape may be written under a name that stands for no shape. -/
theorem upholds_set {name : String} {node : Node} (unshaped : ∀ type, ¬ p.Registers type name)
    (plain : node.isShape = false) : Upholds p (set name node) := by
  intro w reached flat
  have free : ∀ held, w.registry.get? name = some held → held.isShape = false := by
    intro held found
    by_contra shape
    rw [Bool.not_eq_false] at shape
    obtain ⟨_, type, -, registers, -⟩ := flat name held shape found
    exact unshaped type registers
  exact (Walk.Shapes.set_plain w plain).upholds (.set name node reached)
    (Registry.keepsShapes_set free node) flat

end Extract

namespace Program

/-- Symbols that a run writes entries for. -/
inductive IsRoot (p : Program) (symbol : SymbolId) : Prop
  | exported {exports : List (Option SymbolId)}
      (listed : (p.symbol p.moduleSymbol).exports.each = .ok exports) (member : some symbol ∈ exports)
  | named {site : SiteId} (named : p.DefaultOf site symbol)

/-- No value is exported under the name of a shape, and no type under a name that counts as made up. -/
structure RootsApart (p : Program) (settings : ExtractionSettings) : Prop where
  roots : ∀ symbol, p.IsRoot symbol →
    (p.symbol symbol).Owned (fun name => ∀ type, ¬ p.Registers type name) fun name =>
      Engine.isAnonymous { program := p, settings, libraries := {} } name = false
  default : ∀ type, ¬ p.Registers type RootKind.defaultName
  synthetic : ∀ type, ¬ p.Registers type RootKind.syntheticName

def isUnshapedType (p : Program) (name : String) (t : TypeInfo) : Bool :=
  !t.mayRegister || t.symbol.all fun symbol => (p.symbol symbol).name != name

def isUnshapedSite (p : Program) (name : String) (s : Site) : Bool :=
  !(s.kind == .typeReference && s.name == some name) ||
    match s.answers.type with
    | some (some type) => !(p.type type).mayRegister
    | _ => true

def isUnshaped (p : Program) (name : String) : Bool :=
  p.types.toList.all (p.isUnshapedType name) && p.sites.toList.all (p.isUnshapedSite name)

theorem unshaped_of_isUnshaped {name : String} (unshaped : p.isUnshaped name = true) (type : TypeId) :
    ¬ p.Registers type name := by
  simp only [isUnshaped, Bool.and_eq_true, List.all_eq_true] at unshaped
  obtain ⟨types, sites⟩ := unshaped
  rintro ⟨may, called⟩
  cases called with
  | @own symbol held =>
      have checked := p.type_of_forall (p.isUnshapedType _ · = true) rfl types type
      simp [isUnshapedType, may, held] at checked
  | @written site name reference denoted called =>
      have checked := p.site_of_forall (p.isUnshapedSite name · = true) rfl sites site
      have kind : (p.site site).kind = .typeReference := by
        simpa [isReferenceSite, hasKind] using reference
      simp [isUnshapedSite, kind, called, Build.answer_of_typeAt denoted, may] at checked

def leavesShapes (p : Program) (settings : ExtractionSettings) : Bool :=
  let named := p.sites.toList.filterMap fun s => s.expression.bind fun place => (p.site place).symbol
  let exported := (p.symbol p.moduleSymbol).exports.slots.filterMap id
  p.isUnshaped RootKind.defaultName && p.isUnshaped RootKind.syntheticName &&
    (exported ++ named).all fun symbol =>
      if RootKind.declaresType (p.symbol symbol) then
        !Engine.isAnonymous { program := p, settings, libraries := {} } (p.symbol symbol).name
      else p.isUnshaped (p.symbol symbol).name

def rootSymbols (p : Program) : List SymbolId :=
  (p.symbol p.moduleSymbol).exports.slots.filterMap id ++
    p.sites.toList.filterMap fun s => s.expression.bind fun place => (p.site place).symbol

theorem IsRoot.mem_rootSymbols {symbol : SymbolId} (isRoot : p.IsRoot symbol) :
    symbol ∈ p.rootSymbols := by
  rw [rootSymbols, List.mem_append]
  cases isRoot with
  | exported listed member =>
      left
      cases held : (p.symbol p.moduleSymbol).exports with
      | none =>
          rw [held] at listed
          cases listed
      | some exports =>
          rw [held] at listed
          cases listed
          exact List.mem_filterMap.mpr ⟨_, member, rfl⟩
  | @named site named =>
      right
      obtain ⟨place, expression, symbol⟩ := named
      have inside := (p.site_of_forall (fun s => s.expression = none ∨ s ∈ p.sites.toList)
        (Or.inl rfl) fun s member => Or.inr member) site
      rcases inside with absent | there
      · rw [absent] at expression
        cases expression
      · exact List.mem_filterMap.mpr ⟨_, there, Option.bind_eq_some_iff.mpr ⟨place, expression, symbol⟩⟩

theorem rootsApart_of_leavesShapes {settings : ExtractionSettings}
    (leaves : p.leavesShapes settings = true) : p.RootsApart settings := by
  simp only [leavesShapes, Bool.and_eq_true, List.all_eq_true] at leaves
  obtain ⟨⟨default, synthetic⟩, roots⟩ := leaves
  refine ⟨fun symbol isRoot => ?_, unshaped_of_isUnshaped default, unshaped_of_isUnshaped synthetic⟩
  have checked := roots symbol isRoot.mem_rootSymbols
  unfold Symbol.Owned
  split at checked
  · rename_i declares
    rw [if_pos declares]
    simpa using checked
  · rename_i undeclared
    rw [if_neg undeclared]
    exact unshaped_of_isUnshaped checked

end Program

namespace Engine

open Extract

theorem ref_of_declares {e : Engine} {manner : Manner} {ages : Ages} {now : Nat}
    (fits : e.program.Fits manner ages now) {type : TypeId} {name : String}
    (declares : e.program.Declares type name) (usable : e.isAnonymous name = false) {w after : Walk}
    {node : Node} (ran : e.includeType type w = (.ok node, after)) : ∃ r, node = .ref r := by
  obtain ⟨⟨symbol, held, -, called⟩, -⟩ := id declares
  rw [← called] at usable
  refine ref_of_includeType (referable_of_symbol fits held ?_ fun _ => ⟨?_, usable⟩) ran
  · exact (Bool.or_eq_false_iff.mp usable).1
  · exact (plain_of_declares fits declares).2.2.1

/-- A declared type with a usable name has registered itself, and any other is written under its
name. -/
theorem includeExportedType_of {Q : ∀ {α : Type}, Extract α → Prop} (composes : Composes Q)
    {e : Engine} {manner : Manner} {ages : Ages} {now : Nat} (fits : e.program.Fits manner ages now)
    {type : TypeId} {name : String} (declares : e.program.Declares type name)
    (visits : Q (inScope name (e.includeType type)))
    (written : e.isAnonymous name = true → ∀ node, Q (set name node)) :
    Q (e.includeExportedType type) := by
  obtain ⟨symbol, held, -, called⟩ := declares.1
  unfold includeExportedType
  simp only [held, called]
  refine composes.bind_of visits fun w node after ran => ?_
  cases anonymous : e.isAnonymous name with
  | true =>
      split
      · exact composes.pure ()
      · exact written anonymous _
  | false =>
      obtain ⟨inner, visited, -⟩ := of_inScope_ok ran
      obtain ⟨r, rfl⟩ := ref_of_declares fits declares anonymous visited
      exact composes.pure ()

section Roots

variable {e : Engine} {manner : Manner} {ages : Ages} {now : Nat} (flattening : e.Flattening)
  (fits : e.program.Fits manner ages now)
include flattening fits

theorem upholds_includeExportedType {type : TypeId} {name : String}
    (declares : e.program.Declares type name) (usable : e.isAnonymous name = false) :
    Upholds e.program (e.includeExportedType type) := by
  refine includeExportedType_of composes_upholds fits declares (upholds_inScope _
    (upholds_of_flattening (flattening_includeType flattening type))) fun anonymous => ?_
  rw [usable] at anonymous
  cases anonymous

theorem rootWays_upholds : e.RootWays (Upholds e.program)
    (fun name => ∀ type, ¬ e.program.Registers type name) fun name => e.isAnonymous name = false :=
  { (flattening_ways flattening).imp composes_upholds upholds_of_flattening with
    includeType := fun type => upholds_of_flattening (flattening_includeType flattening type)
    inScope := upholds_inScope
    reserve := fun name _ => upholds_reserve name
    set := fun _ _ => upholds_set
    exportedType := upholds_includeExportedType flattening fits }

theorem upholds_exports (apart : e.program.RootsApart e.settings) {exports : List (Option SymbolId)}
    (listed : (e.program.symbol e.program.moduleSymbol).exports.each = .ok exports) (tally : Tally) :
    Upholds e.program (exports.foldlM (root e) tally) := by
  refine composes_upholds.roots (fun upholds w => walk_isolated _ w ▸ upholds w) ?_ tally
  intro symbol member kind suited
  refine (rootWays_upholds flattening fits).includeRoot fits suited ?_ fun _ => ?_
  · exact fun _ => apart.roots symbol (.exported listed member)
  · exact ⟨apart.default, apart.synthetic, fun _ target _ named => apart.roots target (.named named)⟩

theorem upholds_of_finished (apart : e.program.RootsApart e.settings) {w final after : Walk}
    {exports : List (Option SymbolId)} {tally : Tally} {x : Extraction} (reached : w.Reachable)
    (flat : w.Flat e.program) (finished : Finished e w exports tally final x after) :
    w.Upholds e.program final := by
  let event := started (e.program.symbol e.program.moduleSymbol).name exports.length
  have begun : (w.emit event).Flat e.program := flat
  have upheld := upholds_exports flattening fits apart finished.listed {} (w.emit event)
    (reached.emit event) begun
  rw [finished.ran] at upheld
  exact ⟨upheld.reachable, upheld.keeps, upheld.flat⟩

end Roots

end Engine

theorem Registry.Behind.later {r after : Registry} {edges : List Node} {edge : Node.Ref Node}
    (behind : r.Behind edges edge) (keeps : r.KeepsShapes after) : after.Behind edges edge := by
  induction behind with
  | edge member => exact .edge member
  | @further edge next _ member ih =>
      refine .further ih ?_
      unfold Registry.outgoing at member ⊢
      cases held : r.get? edge.name with
      | none =>
          rw [held] at member
          cases member
      | some node =>
          rw [held] at member
          rw [keeps edge.name node (Node.isShape_of_mem_outgoing member) held]
          exact member

theorem mem_of_propIds {members : List Node} {id : Int} (held : id ∈ Engine.propIds members) :
    ∃ member ∈ members, member.memberId? = some id := by
  obtain ⟨member, listed, same⟩ := List.mem_filterMap.mp held
  refine ⟨member, listed, ?_⟩
  cases member with
  | prop property =>
      obtain ⟨own, known, nonzero⟩ := Option.bind_eq_some_iff.mp same
      split at nonzero
      · cases nonzero
      · rw [Node.memberId?, known, nonzero]
  | _ => cases same

namespace Program

inductive Exposes (p : Program) (r : Registry) (edge : Node.Ref Node) (id : Int) : Prop
  | listed {shape member : Node} (held : r.get? edge.name = some shape) (listed : member ∈ shape.members)
      (same : member.memberId? = some id)
  | live {type : TypeId} {members : List (Option SymbolId)} {member : SymbolId}
      (known : edge.live = some type) (each : (p.type type).properties.each = .ok members)
      (held : some member ∈ members) (same : p.memberId member = id)

theorem exposes_of_shows {e : Engine} {r after : Registry} {edge : Node.Ref Node} {id : Int}
    (shows : e.Shows r edge id) (keeps : r.KeepsShapes after) : e.program.Exposes after edge id := by
  obtain ⟨ids, shown, member⟩ := shows
  have live (shown : e.livePropIds edge.live = .ok ids) : e.program.Exposes after edge id := by
    unfold Engine.livePropIds at shown
    cases known : edge.live with
    | none =>
        rw [known] at shown
        cases shown
        cases member
    | some type =>
        simp only [known] at shown
        obtain ⟨members, each, shown⟩ := of_except_bind_ok shown
        obtain ⟨prop, held, same⟩ := mem_of_mapM shown member
        obtain ⟨symbol, found, same⟩ := of_except_bind_ok same
        cases same
        exact .live known each (of_present found ▸ held) rfl
  unfold Engine.shownIds at shown
  split at shown
  · rename_i shape held
    cases shown
    obtain ⟨prop, listed, same⟩ := mem_of_propIds member
    exact .listed (keeps edge.name _ rfl held) listed same
  · rename_i shape implemented held
    cases shown
    obtain ⟨prop, listed, same⟩ := mem_of_propIds member
    exact .listed (keeps edge.name _ rfl held) listed same
  · exact live shown

/-- A shape lists the members of a type in their order, except some that are exposed by an edge behind
it. What else it lists are static members. -/
structure Divides (p : Program) (r : Registry) (type : TypeId) (edges props : List Node)
    (members : List SymbolId) : Prop where
  each : (p.type type).properties.each = .ok (members.map some)
  listed : ∃ (inherited : List Int) (own rest : List Node), props = own ++ rest ∧
    own.map Node.memberId? =
      ((members.map p.memberId).filter fun id => !inherited.contains id).map some ∧
    (∀ node ∈ rest, ∀ id, node.memberId? = some id → p.Static type id) ∧
    ∀ id ∈ inherited, ∃ edge, r.Behind edges edge ∧ p.Exposes r edge id

theorem Divides.shown {r : Registry} {type : TypeId} {edges props : List Node}
    {members : List SymbolId} (divides : p.Divides r type edges props members) :
    ∀ member ∈ members, (∃ node ∈ props, node.memberId? = some (p.memberId member)) ∨
      ∃ edge, r.Behind edges edge ∧ p.Exposes r edge (p.memberId member) := by
  intro member held
  obtain ⟨inherited, own, rest, rfl, listed, -, exposed⟩ := divides.listed
  by_cases through : p.memberId member ∈ inherited
  · exact Or.inr (exposed _ through)
  · left
    have kept : some (p.memberId member) ∈ own.map Node.memberId? := by
      rw [listed]
      refine List.mem_map.mpr ⟨_, List.mem_filter.mpr ⟨List.mem_map.mpr ⟨member, held, rfl⟩, ?_⟩, rfl⟩
      simpa using through
    obtain ⟨node, listed, same⟩ := List.mem_map.mp kept
    exact ⟨node, List.mem_append_left _ listed, same⟩

theorem divides_of_flattens {e : Engine} {r after : Registry} {type : TypeId} {node : Node}
    (flattens : e.Flattens r type node) (keeps : r.KeepsShapes after) :
    ∃ members implemented,
      e.program.Divides after type (node.outgoing ++ implemented) node.members members ∧
        ((e.program.type type).isClass = true ∨ e.program.OnlyExtends type → implemented = []) := by
  obtain ⟨members, inherited, implemented, lists, unimplemented⟩ := flattens
  obtain ⟨own, rest, split, listed, static⟩ := lists.own
  refine ⟨members, implemented, ⟨lists.each, inherited, own, rest, split, listed, static, ?_⟩,
    unimplemented⟩
  intro id member
  obtain ⟨edge, behind, shows⟩ := Engine.shows_of_inheritedIds lists.ids member
  exact ⟨edge, behind.later keeps, exposes_of_shows shows keeps⟩

end Program

open Engine Extract in
theorem flat_of_extractModule {p : Program} {allowed : Call → Program → Prop}
    (built : p.Built allowed) (settings : Settings) (named : p.NominalsNamed settings.extraction)
    (bases : p.BasesFit) (apart : p.RootsApart settings.extraction) {bindings : Bindings}
    {elapsed : Data} {x : Extraction} {after : Walk}
    (ran : extractModule p settings bindings elapsed = (.ok x, after)) :
    x.graph.entries = after.registry.entries ∧ after.registry.Bare ∧ after.Flat p := by
  obtain ⟨ages, fits⟩ := fits_start built settings.extraction settings.libraries
  have program : (start p settings.extraction settings.libraries).program = p := program_start _ _ _
  have flattening := flattening_start settings.libraries
    (basesNamed_of_fits (program ▸ fits) named bases)
  obtain ⟨exports, tally, final, finished⟩ := finished_of_exportsOf ran
  have apart : (start p settings.extraction settings.libraries).program.RootsApart
      (start p settings.extraction settings.libraries).settings := by
    rwa [program, settings_start]
  have upheld := upholds_of_finished flattening fits apart (.fresh bindings)
    (fun _ _ _ held => by cases held) finished
  rw [program] at upheld
  have same := finished.registry
  refine ⟨?_, ?_, fun name node shape held => ?_⟩
  · rw [finished.graph, same]
    rfl
  · rw [same]
    exact upheld.reachable.bare
  · rw [same] at held ⊢
    exact upheld.flat name node shape held

open Engine Extract in
/-- A shape in the graph is that of a type that goes by its name. It lists the members of the type in
their order, except some that an edge behind it exposes, so that no member is lost. -/
theorem extractModule_flattens {p : Program} {allowed : Call → Program → Prop}
    (built : p.Built allowed) (settings : Settings) (named : p.NominalsNamed settings.extraction)
    (bases : p.BasesFit) (apart : p.RootsApart settings.extraction) (bindings : Bindings)
    (elapsed : Data) {x : Extraction} {after : Walk}
    (ran : extractModule p settings bindings elapsed = (.ok x, after)) {name : String} {node : Node}
    (entry : Table.get? x.graph.entries name = some node) (shape : node.isShape = true) :
    ∃ type described, p.Registers type name ∧
      described = (start p settings.extraction settings.libraries).entryType type ∧
      ((p.type described).isMapped = true ∨ ∃ members implemented,
        p.Divides after.registry described (node.outgoing ++ implemented) node.members members ∧
        ((p.type described).isClass = true ∨ p.OnlyExtends described → implemented = []) ∧
        ∀ member ∈ members, (∃ n ∈ node.members, n.memberId? = some (p.memberId member)) ∨
          ∃ edge, after.registry.Behind (node.outgoing ++ implemented) edge ∧
            p.Exposes after.registry edge (p.memberId member)) := by
  have program : (start p settings.extraction settings.libraries).program = p := program_start _ _ _
  obtain ⟨entries, -, flat⟩ := flat_of_extractModule built settings named bases apart ran
  rw [entries] at entry
  obtain ⟨e, type, same, registers, flattened⟩ := flat name node shape entry
  refine ⟨type, e.entryType type, registers, ?_, ?_⟩
  · simp only [entryType, same, program]
  · subst same
    rcases flattened with mapped | ⟨f, earlier, same, keeps, flattens⟩
    · exact Or.inl mapped
    · right
      obtain ⟨members, implemented, divides, only⟩ := Program.divides_of_flattens flattens keeps
      rw [same] at divides only
      exact ⟨members, implemented, divides, only, divides.shown⟩

end TypeAtlas
