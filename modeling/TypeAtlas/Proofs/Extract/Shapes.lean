import TypeAtlas.Proofs.Extract.Accounted
import TypeAtlas.Proofs.Extract.Inherited
import TypeAtlas.Proofs.Extract.Standing

/-!
Shapes in a registry. A shape is written once, under a name that was not there before, and it is the
flattened shape of a type that goes by that name.
-/

namespace TypeAtlas

variable {α β : Type} {p : Program}

/-- A type has the name of its symbol, or it is written by a name. -/
inductive Program.GoesBy (p : Program) (type : TypeId) : String → Prop
  | own {symbol : SymbolId} (held : (p.type type).symbol = some symbol) :
      GoesBy p type (p.symbol symbol).name
  | written {site : SiteId} {name : String} (reference : p.isReferenceSite (some site) = true)
      (denoted : p.typeAt (some site) = .ok (some type)) (called : (p.site site).name = some name) :
      GoesBy p type name

/-- An object type that is not written out in place and does not go by another alias. -/
def TypeInfo.mayRegister (t : TypeInfo) : Bool :=
  t.isObject && (t.isReference || !t.isAnonymousObject && !(t.alias?.isSome && t.alias? != t.symbol))

/-- A type may get an entry with a shape under a name. -/
structure Program.Registers (p : Program) (type : TypeId) (name : String) : Prop where
  may : (p.type type).mayRegister = true
  called : p.GoesBy type name

def Registry.KeepsShapes (r after : Registry) : Prop :=
  ∀ name node, node.isShape = true → r.get? name = some node → after.get? name = some node

theorem Registry.KeepsShapes.trans {r between after : Registry} (first : r.KeepsShapes between)
    (second : between.KeepsShapes after) : r.KeepsShapes after :=
  fun name node shape held => second name node shape (first name node shape held)

/-- Writing over what is no shape keeps all shapes. -/
theorem Registry.keepsShapes_set {r : Registry} {name : String}
    (free : ∀ held, r.get? name = some held → held.isShape = false) (node : Node) :
    r.KeepsShapes (r.set name node) := by
  intro other held shape found
  by_cases same : name = other
  · subst same
    rw [free held found] at shape
    cases shape
  · exact (r.get?_set_of_ne node same).trans found

namespace Program

def ShapeOf (p : Program) (r : Registry) (type : TypeId) (node : Node) : Prop :=
  (p.type type).isMapped = true ∨ ∃ (e : Engine) (earlier : Registry), e.program = p ∧
    earlier.KeepsShapes r ∧ e.Flattens earlier type node

theorem ShapeOf.later {r after : Registry} {type : TypeId} {node : Node}
    (shape : p.ShapeOf r type node) (keeps : r.KeepsShapes after) : p.ShapeOf after type node :=
  shape.imp_right fun ⟨e, earlier, same, kept, flattens⟩ =>
    ⟨e, earlier, same, kept.trans keeps, flattens⟩

def Flattened (p : Program) (r : Registry) (name : String) (node : Node) : Prop :=
  ∃ (e : Engine) (type : TypeId), e.program = p ∧ p.Registers type name ∧
    p.ShapeOf r (e.entryType type) node

theorem Flattened.later {r after : Registry} {name : String} {node : Node}
    (flattened : p.Flattened r name node) (keeps : r.KeepsShapes after) :
    p.Flattened after name node := by
  obtain ⟨e, type, same, registers, shape⟩ := flattened
  exact ⟨e, type, same, registers, shape.later keeps⟩

end Program

/-- A placeholder is no shape, so that a shape is filled. -/
theorem Registry.Bare.filled {r : Registry} (bare : r.Bare) {name : String} {node : Node}
    (shape : node.isShape = true) (held : r.get? name = some node) : r.Filled name node := by
  refine ⟨held, ?_⟩
  cases reserved : r.isPlaceholder name with
  | false => rfl
  | true =>
      rw [bare name reserved, Option.some.injEq] at held
      subst held
      cases shape

theorem Walk.Grows.keepsShapes {w after : Walk} (grows : w.Grows after) (reached : w.Reachable) :
    w.registry.KeepsShapes after.registry :=
  fun name node shape held => (grows.filled name node (reached.bare.filled shape held)).1

def Walk.Shapes (p : Program) (w after : Walk) : Prop :=
  ∀ name node, node.isShape = true → after.registry.get? name = some node →
    w.registry.get? name = some node ∨
      w.registry.has name = false ∧ p.Flattened after.registry name node

namespace Walk.Shapes

theorem of_same {w after : Walk} (registry : after.registry = w.registry) : Shapes p w after := by
  intro name node shape held
  rw [registry] at held
  exact Or.inl held

theorem trans {w between after : Walk} (names : w.registry.names ⊆ between.registry.names)
    (keeps : between.registry.KeepsShapes after.registry) (first : Shapes p w between)
    (second : Shapes p between after) : Shapes p w after := by
  intro name node shape held
  rcases second name node shape held with before | ⟨fresh, flattened⟩
  · rcases first name node shape before with there | ⟨fresh, flattened⟩
    · exact Or.inl there
    · exact Or.inr ⟨fresh, flattened.later keeps⟩
  · refine Or.inr ⟨?_, flattened⟩
    cases known : w.registry.has name with
    | false => rfl
    | true =>
        rw [Registry.has_iff] at known
        rw [(Registry.has_iff _ _).mpr (names known)] at fresh
        cases fresh

theorem reserve (w : Walk) (name : String) : Shapes p w (w.reserve name) := by
  intro other node shape held
  cases known : w.registry.has name with
  | true =>
      rw [Walk.reserve, Registry.reserve_of_has known] at held
      exact Or.inl held
  | false =>
      by_cases same : other = name
      · subst same
        have placed : (w.reserve other).registry.get? other = some (Registry.placeholder other) :=
          Registry.get?_reserve_self known
        rw [placed, Option.some.injEq] at held
        subst held
        cases shape
      · exact Or.inl ((Registry.get?_reserve_of_ne w.registry (Ne.symm same)).symm.trans held)

/-- A shape under a new name, written over what is no shape. -/
theorem set_fresh {w between : Walk} (shapes : Shapes p w between) {name : String} {node : Node}
    (fresh : w.registry.has name = false)
    (free : ∀ held, between.registry.get? name = some held → held.isShape = false)
    (made : node.isShape = true → p.Flattened between.registry name node) :
    Shapes p w (between.set name node) := by
  have keeps : between.registry.KeepsShapes (between.set name node).registry :=
    Registry.keepsShapes_set free node
  intro other held shape found
  by_cases same : name = other
  · subst same
    have written : (between.set name node).registry.get? name = some node :=
      Registry.get?_set_self ..
    rw [written, Option.some.injEq] at found
    subst found
    exact Or.inr ⟨fresh, (made shape).later keeps⟩
  · have before := (Registry.get?_set_of_ne between.registry node same).symm.trans found
    exact (shapes other held shape before).imp_right fun ⟨unknown, flattened⟩ =>
      ⟨unknown, flattened.later keeps⟩

theorem set_plain (w : Walk) {name : String} {node : Node} (plain : node.isShape = false) :
    Shapes p w (w.set name node) := by
  intro other held shape found
  by_cases same : name = other
  · subst same
    have written : (w.set name node).registry.get? name = some node := Registry.get?_set_self ..
    rw [written, Option.some.injEq] at found
    subst found
    rw [plain] at shape
    cases shape
  · exact Or.inl ((Registry.get?_set_of_ne w.registry node same).symm.trans found)

end Walk.Shapes

namespace Extract

structure Shapely (p : Program) (step : Extract α) (w : Walk) : Prop where
  keeps : Keeps step w
  shapes : w.Shapes p (step w).2

def Flattening (p : Program) (step : Extract α) : Prop := ∀ w : Walk, w.Reachable → Shapely p step w

theorem shapely_bind {step : Extract α} {next : α → Extract β} {w : Walk} (reached : w.Reachable)
    (first : Shapely p step w)
    (rest : ∀ value after, step w = (.ok value, after) → after.Reachable → w.Grows after →
      Shapely p (next value) after) : Shapely p (step >>= next) w := by
  have grows := first.keeps.grows
  have later := grows.reachable reached
  refine ⟨keeps_bind first.keeps fun value after ran grows =>
    (rest value after ran (grows.reachable reached) grows).keeps, ?_⟩
  have shapes := first.shapes
  rcases ran : step w with ⟨fault | value, after⟩
  · rw [bind_error ran]
    rwa [ran] at shapes
  · rw [bind_ok ran]
    rw [ran] at shapes grows later
    have second := rest value after ran later grows
    exact shapes.trans grows.names.subset (second.keeps.grows.keepsShapes later) second.shapes

theorem composes_flattening : Composes (Flattening p) where
  bind_of first rest w reached :=
    shapely_bind reached (first w reached) fun value after ran later _ => rest w value after ran after later
  same same w _ := ⟨orderly_of_same same w, Walk.Shapes.of_same (by rw [same w])⟩
  emit event w _ := ⟨orderly_emit event w, Walk.Shapes.of_same rfl⟩
  declareLocal name w _ :=
    ⟨orderly_declareLocal name w, Walk.Shapes.of_same (Walk.registry_declareLocal w name)⟩
  count w _ := ⟨Engine.composes.count w, Walk.Shapes.of_same rfl⟩

/-- While the body runs, the name stands for no shape, whatever else it comes to stand for. -/
theorem shapes_reserved {w : Walk} {name : String} {body : Extract Node} (reached : w.Reachable)
    (fresh : w.registry.has name = false) (flattening : Flattening p body)
    (made : ∀ (w : Walk) node after, w.Reachable → body w = (.ok node, after) → node.isShape = true →
      p.Flattened after.registry name node) :
    w.Shapes p ((inScope name do reserve name; set name (← body)) w).2 := by
  have start : w.Shapes p (w.openScope.reserve name) := Walk.Shapes.reserve w.openScope name
  have later : (w.openScope.reserve name).Reachable := .reserve name (.openScope reached)
  have placed : (w.openScope.reserve name).registry.get? name = some (Registry.placeholder name) :=
    Registry.get?_reserve_self fresh
  have known : (w.openScope.reserve name).registry.has name = true := Registry.has_of_get? placed
  have names := (Walk.grows_reserve w.openScope name).names.subset
  have built := flattening (w.openScope.reserve name) later
  have reserved : (reserve name) w.openScope = (.ok (), w.openScope.reserve name) := rfl
  have shapes := start.trans names (built.keeps.grows.keepsShapes later) built.shapes
  have inner := built.shapes
  rcases ran : body (w.openScope.reserve name) with ⟨fault | node, after⟩
  · rw [inScope_apply, bind_ok reserved, bind_error ran]
    rw [ran] at shapes
    intro other held shape found
    rw [Walk.registry_closeScope] at found ⊢
    exact shapes other held shape found
  · rw [inScope_apply, bind_ok reserved, bind_ok ran]
    rw [ran] at shapes inner
    have free : ∀ held, after.registry.get? name = some held → held.isShape = false := by
      intro held found
      by_contra shape
      rw [Bool.not_eq_false] at shape
      rcases inner name held shape found with before | ⟨unknown, -⟩
      · rw [placed, Option.some.injEq] at before
        subst before
        cases shape
      · rw [known] at unknown
        cases unknown
    have written := shapes.set_fresh fresh free (made _ node after later ran)
    intro other held shape found
    rw [set_apply, Walk.registry_closeScope] at found ⊢
    exact written other held shape found

theorem shapely_register {name : String} {body : Extract Node} (ordered : Orderly body)
    (flattening : Flattening p body)
    (made : ∀ (w : Walk) node after, w.Reachable → body w = (.ok node, after) → node.isShape = true →
      p.Flattened after.registry name node) : Flattening p (Engine.register name body) := by
  intro w reached
  refine ⟨Engine.orderly_register name ordered w, ?_⟩
  rw [Engine.register, bind_ok (isRegistered_apply name w)]
  cases fresh : w.registry.has name with
  | true => exact Walk.Shapes.of_same rfl
  | false => exact shapes_reserved reached fresh flattening made

end Extract

namespace Engine

open Extract

/-- Every way on from a type adds no shapes but flattened ones. -/
structure Flattening (e : Engine) : Prop where
  ordered : e.Orderly
  visit : ∀ type, Extract.Flattening e.program (e.visit type)
  visitInline : ∀ type, Extract.Flattening e.program (e.visitInline type)
  visitNamed : ∀ site type, e.program.isReferenceSite site = true →
    e.program.typeAt site = .ok (some type) →
    Extract.Flattening e.program (e.visitNamed type (site.bind fun id => (e.program.site id).name))
  bodyOfType : ∀ type, Extract.Flattening e.program (e.bodyOfType type)
  bodyOfAlias : ∀ site, Extract.Flattening e.program (e.bodyOfAlias site)
  shape : ∀ type (w : Walk) node after, w.Reachable → e.bodyOfType type w = (.ok node, after) →
    node.isShape = true → (e.program.type type).isObject = true ∧
      e.program.ShapeOf after.registry type node
  plain : ∀ site, Yields (e.bodyOfAlias site) fun node => node.isShape = false
  bases : e.BasesRefer

section Steps

variable {e : Engine} (flattening : e.Flattening)
include flattening

theorem flattening_visits : e.Visits (Extract.Flattening e.program) :=
  { composes_flattening with
    visit := flattening.visit
    visitInline := flattening.visitInline
    visitNamed := flattening.visitNamed }

theorem shapely_includeRef {w : Walk} (reached : w.Reachable) {name : String}
    (known : w.registry.has name = true) (type : TypeId) (live : Option TypeId) :
    Shapely e.program (e.includeRef type name live) w := by
  have visits := flattening_visits flattening
  refine shapely_bind reached (visits.visitAll _ w reached) fun types visited _ reached grows => ?_
  refine shapely_bind reached
    (Visits.normalizeArguments composes_flattening.toThreads _ _ _ _ visited reached) ?_
  intro kept final _ reached more
  refine shapely_bind reached ⟨keeps_resolve (more.has (grows.has known)) kept live, ?_⟩ ?_
  · rw [resolve_apply]
    exact .reserve final name
  · exact fun ref after _ reached _ => composes_flattening.pure _ after reached

omit flattening in
theorem isObject_of_entryType {type : TypeId}
    (object : (e.program.type (e.entryType type)).isObject = true) :
    (e.program.type type).isObject = true := by
  simp only [entryType] at object
  split at object
  · rename_i isReference
    exact (Bool.and_eq_true_iff.mp isReference).1
  · exact object

theorem flattening_makeRef {type : Option TypeId} {name : String}
    (registers : ∀ id, type = some id → (e.program.type id).isObject = true →
      e.program.Registers id name) :
    Extract.Flattening e.program (e.makeRef type name) := by
  intro w reached
  have body : Extract.Flattening e.program (do
      let id ← present type
      let info := e.program.type id
      e.bodyOfType (if info.isReference then info.target.getD id else id)) :=
    composes_flattening.bind (composes_flattening.lift _) fun id => flattening.bodyOfType _
  have ordered : Extract.Orderly (do
      let id ← present type
      let info := e.program.type id
      e.bodyOfType (if info.isReference then info.target.getD id else id)) :=
    orderly_bind (orderly_lift _) fun id => flattening.ordered.bodyOfType _
  have registered : Extract.Flattening e.program (register name _) :=
    shapely_register ordered body (by
    intro w node after reached ran shape
    obtain ⟨id, same, found, ran⟩ := of_bind_ok ran
    rw [lift_apply, Prod.mk.injEq] at found
    obtain ⟨found, rfl⟩ := found
    obtain ⟨object, shape⟩ := flattening.shape _ w node after reached ran shape
    have own := registers id (of_present found) (isObject_of_entryType object)
    exact ⟨e, id, rfl, own, shape⟩)
  refine shapely_bind reached (registered w reached) fun _ between ran reached _ => ?_
  refine shapely_bind reached (composes_flattening.lift _ between reached) ?_
  intro id after _ reached grows
  exact shapely_includeRef flattening reached (grows.has (has_of_register ran)) id none

theorem flattening_ensureNamed {type : Option TypeId} {name : String}
    (registers : ∀ id, type = some id → (e.program.type id).isObject = true →
      e.program.Registers id name) :
    Extract.Flattening e.program (e.ensureNamed type name) := by
  refine composes_flattening.bind (composes_flattening.same fun _ => rfl) fun known => ?_
  split
  · exact composes_flattening.pure ()
  · exact composes_flattening.map _ (flattening_makeRef flattening registers)

omit flattening in
theorem registry_importName (symbol : SymbolId) (origin : Origin) (scope : ImportScope) (w : Walk) :
    ∃ name between, e.importName symbol origin scope w = (.ok name, between) ∧
      between.registry = w.registry := by
  cases scope with
  | global => exact ⟨_, _, rfl, rfl⟩
  | lib => exact ⟨_, _, rfl, rfl⟩
  | module_ => exact ⟨_, _, rfl, Walk.registry_bind w _ _⟩

omit flattening in
theorem flattening_bindImport (symbol : SymbolId) {origin : Origin} {scope : ImportScope}
    (outside : origin.scope? = some scope) :
    Extract.Flattening e.program (e.bindImport symbol origin scope) := by
  intro w reached
  refine ⟨orderly_bindImport symbol outside w, ?_⟩
  obtain ⟨name, between, named, same⟩ := registry_importName (e := e) symbol origin scope w
  let node := Node.imported (e.program.symbol symbol).name origin.module? scope
  have ran : e.bindImport symbol origin scope w =
      (do registerImport name node; pure name) between := bind_ok named
  rw [ran, bind_ok (registerImport_apply name node between)]
  have written : between.Shapes e.program
      (if !between.registry.has name || between.registry.isPlaceholder name then
        between.set name node else between) := by
    split
    · exact .set_plain between rfl
    · exact .of_same rfl
  intro other held shape found
  rw [← same]
  exact written other held shape found

omit flattening in
theorem flattening_externalName (symbol : Option SymbolId) :
    Extract.Flattening e.program (e.externalName symbol) := by
  unfold externalName
  dsimp only
  split
  · exact composes_flattening.pure none
  · rename_i scope outside
    refine composes_flattening.bind (composes_flattening.lift _) fun symbol => ?_
    split
    · exact composes_flattening.pure none
    · exact composes_flattening.map _ (flattening_bindImport symbol outside)

theorem flattening_includeExternal (type : TypeId) :
    Extract.Flattening e.program (e.includeExternal type) := by
  unfold includeExternal
  dsimp only
  split
  · exact composes_flattening.pure none
  · split
    · exact composes_flattening.pure none
    · rename_i scope outside
      split
      · split
        · exact (flattening_visits flattening).includeHidden type
        · exact composes_flattening.pure none
      · split
        · exact composes_flattening.pure none
        · intro w reached
          refine shapely_bind reached (flattening_bindImport _ outside w reached) ?_
          intro name bound ran reached _
          rw [map_eq]
          refine shapely_bind reached
            (shapely_includeRef flattening reached (has_of_bindImport ran) _ _) ?_
          exact fun node after _ reached _ => composes_flattening.pure _ after reached

theorem flattening_makeAliasRef (type : TypeId) (name : String) :
    Extract.Flattening e.program (e.makeAliasRef type name) := by
  have visits := flattening_visits flattening
  unfold makeAliasRef
  dsimp only
  split
  · rename_i site _ _
    have reference (name : String) : Extract.Flattening e.program (do
        let types ← e.visitAll (e.program.type type).aliasArguments.slots
        let types ← e.normalizeArguments type (e.program.site site).typeParameters types name
        pure (Node.ref { name, types })) := by
      refine visits.bind (visits.visitAll _) fun types => ?_
      exact visits.bind (Visits.normalizeArguments composes_flattening.toThreads _ _ _ _) fun _ =>
        visits.pure _
    refine visits.bind (flattening_externalName _) fun bound => ?_
    split
    · exact visits.bind (visits.pure _) reference
    · refine visits.bind (shapely_register (flattening.ordered.bodyOfAlias _)
        (flattening.bodyOfAlias _) ?_) fun _ => visits.bind (visits.pure name) reference
      intro w node after _ ran shape
      rw [flattening.plain _ w node after ran] at shape
      cases shape
  · exact visits.diagnose _

theorem flattening_includeReference {type : TypeId}
    (isReference : (e.program.type type).isReference = true) :
    Extract.Flattening e.program (e.includeReference type) := by
  refine composes_flattening.bind (flattening_includeExternal flattening type) fun outside => ?_
  cases outside with
  | some node => exact composes_flattening.pure node
  | none =>
      refine composes_flattening.bind_of (composes_flattening.lift _) fun _ symbol _ found => ?_
      rw [lift_apply, Prod.mk.injEq] at found
      have held := of_present found.1
      have registers : ∀ id, some type = some id → (e.program.type id).isObject = true →
          e.program.Registers id (e.program.symbol symbol).name := by
        rintro id ⟨⟩ object
        exact ⟨by simp [TypeInfo.mayRegister, object, isReference], .own held⟩
      intro w reached
      refine shapely_bind reached (flattening_ensureNamed flattening registers w reached) ?_
      intro _ after ran reached _
      exact shapely_includeRef flattening reached (has_of_ensureNamed flattening.ordered ran) _ _

/-- A base becomes a reference, so that no structural base is written under its name. -/
theorem flattening_includeBase {declaration : SiteId} {clause : HeritageClause}
    (held : clause ∈ (e.program.site declaration).heritage) {site : Option SiteId}
    (listed : site ∈ clause.types) : Extract.Flattening e.program (e.includeBase site) := by
  have visits := flattening_visits flattening
  refine visits.bind_of (visits.lift _) fun _ base _ asked => ?_
  refine visits.bind_of (visits.visitPresent base) fun w node after visited => ?_
  split
  · exact visits.pure _
  · rename_i structural
    refine visits.bind_of (visits.lift _) fun _ place _ found => ?_
    rw [lift_apply, Prod.mk.injEq] at asked found
    obtain rfl := of_present found.1
    split
    · exact visits.pure _
    · rename_i name written
      split
      · exact visits.pure _
      · rename_i nonempty
        exfalso
        obtain ⟨type, between, present, stepped⟩ := of_bind_ok visited
        obtain rfl := of_present (Prod.mk.inj present).1
        rcases flattening.bases declaration clause held place listed type asked.1 with empty | refers
        · simp [written] at empty
          simp [empty] at nonempty
        · obtain ⟨r, same⟩ := refers between node after stepped
          exact structural r same

theorem flattening_ways : e.Ways (Extract.Flattening e.program) :=
  { flattening_visits flattening with
    reference := fun _ isReference => flattening_includeReference flattening isReference
    base := fun _ _ held _ listed => flattening_includeBase flattening held listed }

omit flattening in
/-- A type that goes by the name of its symbol, if not by that of an alias. -/
theorem goesBy_of_nameOf {type : TypeId} {name : String}
    (named : e.nameOf (e.program.type type) = some name)
    (plain : ((e.program.type type).alias?.isSome && (e.program.type type).alias? !=
      (e.program.type type).symbol) = false) : e.program.GoesBy type name := by
  unfold nameOf at named
  cases aliased : (e.program.type type).alias? with
  | none =>
      rw [aliased] at named
      obtain ⟨symbol, held, rfl⟩ := Option.map_eq_some_iff.mp named
      exact .own held
  | some symbol =>
      have held : some symbol = (e.program.type type).symbol := by simpa [aliased] using plain
      rw [aliased, ← held] at named
      have same : (e.program.symbol symbol).name = name := by
        dsimp only [Option.map_some] at named
        split at named <;> exact Option.some.inj named
      exact same ▸ .own held.symm

theorem flattening_includeKnown {type : TypeId} {name : Option String}
    (named : ∀ given, name = some given →
      ((e.program.type type).alias?.isSome && (e.program.type type).alias? !=
        (e.program.type type).symbol) = false → e.program.GoesBy type given) :
    Extract.Flattening e.program (e.includeKnown type name) := by
  refine (flattening_ways flattening).includeKnown type name
    (flattening_includeExternal flattening type)
    (fun given _ => flattening_makeAliasRef flattening type given) fun given same plain titled _ => ?_
  refine flattening_makeRef flattening ?_
  rintro id ⟨⟩ object
  rw [Bool.or_eq_false_iff] at titled
  exact ⟨by simp [TypeInfo.mayRegister, object, titled.2, plain], named given same plain⟩

theorem flattening_includeType (type : TypeId) :
    Extract.Flattening e.program (e.includeType type) := by
  refine (flattening_ways flattening).includeType type (flattening_includeKnown flattening ?_)
  exact fun given same plain => goesBy_of_nameOf same plain

end Steps

theorem shape_of_includeNamed {e : Engine} (ordered : e.Orderly) {type : TypeId} {w after : Walk}
    {node : Node} (reached : w.Reachable) (ran : e.includeNamed type w = (.ok node, after))
    (shape : node.isShape = true) :
    (e.program.type type).isObject = true ∧ e.program.ShapeOf after.registry type node := by
  obtain ⟨basic, between, first, ran⟩ := of_bind_ok ran
  have reached := (((orderly_ways ordered).includeBasic type w).result first).1.reachable reached
  cases basic with
  | some held =>
      cases ran
      rw [Node.isShape_of_isPlain (plain_of_basic type w _ _ first _ rfl)] at shape
      cases shape
  | none =>
      obtain ⟨object, later, second, ran⟩ := of_bind_ok ran
      cases object with
      | some held =>
          cases ran
          obtain ⟨object, flattened⟩ := flattens_of_includeObject ordered second
          refine ⟨object, ?_⟩
          rcases flattened with mapped | ⟨middle, before, grows, flattens⟩
          · exact Or.inl mapped
          · exact Or.inr ⟨e, middle.registry, rfl, grows.keepsShapes (before.reachable reached), flattens⟩
      | none =>
          obtain ⟨_, _, -, ran⟩ := of_bind_ok ran
          obtain ⟨_, _, -, ran⟩ := of_bind_ok ran
          cases ran
          cases shape

theorem plain_of_aliasBody {e : Engine} (site : SiteId) :
    Yields (e.aliasBody site) fun node => node.isShape = false :=
  yields_bind fun _ => yields_bind fun _ => yields_bind fun _ => yields_bind fun _ =>
    yields_bind fun _ => yields_pure rfl

/-- An engine that stops at once. -/
theorem flattening_bare (p : Program) (settings : ExtractionSettings) (libraries : LibrarySettings) :
    Flattening { program := p, settings, libraries } where
  ordered := orderly_bare p settings libraries
  visit _ := composes_flattening.fail _
  visitInline _ := composes_flattening.fail _
  visitNamed _ _ _ _ := composes_flattening.fail _
  bodyOfType _ := composes_flattening.fail _
  bodyOfAlias _ := composes_flattening.fail _
  shape _ _ _ _ _ ran := by cases ran
  plain _ := yields_fail _
  bases := basesRefer_bare p settings libraries

theorem flattening_within {e : Engine} (flattening : e.Flattening) (named : e.BasesNamed)
    (depth : Nat) : (e.within depth).Flattening := by
  induction depth with
  | zero => exact flattening
  | succ depth ih =>
      have program : (e.within depth).program = e.program := program_within e depth
      refine
        { flattening with
          ordered := orderly_within flattening.ordered (depth + 1)
          visit := ?_
          visitInline := ?_
          visitNamed := ?_
          bases := basesRefer_within flattening.bases named (depth + 1) }
      · exact program ▸ flattening_includeType ih
      · exact program ▸ (flattening_ways ih).includeInline
      · intro site type reference denoted
        have named : ∀ given, (site.bind fun id => (e.program.site id).name) = some given →
            e.program.GoesBy type given := by
          intro given called
          obtain ⟨id, rfl, called⟩ := Option.bind_eq_some_iff.mp called
          exact .written reference denoted called
        rw [← program] at named
        exact program ▸ flattening_includeKnown ih fun given called _ => named given called

theorem flattening_withEntries {e : Engine} (flattening : e.Flattening) (named : e.BasesNamed)
    (depth entries : Nat) : (e.withEntries depth entries).Flattening := by
  induction entries with
  | zero => exact flattening
  | succ entries ih =>
      have inner := flattening_within ih (basesNamed_withEntries named depth entries) depth
      have program : ((e.withEntries depth entries).within depth).program = e.program := by simp
      refine
        { flattening with
          ordered := orderly_withEntries flattening.ordered depth (entries + 1)
          bodyOfType := ?_
          bodyOfAlias := ?_
          shape := ?_
          plain := plain_of_aliasBody }
      · exact program ▸ (flattening_ways inner).includeNamed
      · exact program ▸ (flattening_ways inner).aliasBody
      · intro type w node after reached ran shape
        exact program ▸ shape_of_includeNamed inner.ordered reached ran shape

theorem flattening_start {p : Program} {settings : ExtractionSettings} (libraries : LibrarySettings)
    (named : BasesNamed { program := p, settings, libraries }) :
    (start p settings libraries).Flattening :=
  flattening_within (flattening_withEntries (flattening_bare p settings libraries) named _ _)
    (basesNamed_withEntries named _ _) _

end Engine

end TypeAtlas
