import TypeAtlas.Proofs.Builder.Expression
import TypeAtlas.Proofs.Extract.Levels
import TypeAtlas.Proofs.Extract.Orderly
import Mathlib.Logic.Relation

/-!
Structural types are written out as they were put together: every way of putting types together has a
node of its own, with the nodes of the parts in their places. The walk registers nothing meanwhile and
comes upon nothing that it cannot describe.
-/

namespace TypeAtlas

namespace Extract

variable {α β : Type}

/-- The step comes to the value, whatever was gathered before. All that it may leave behind is names
in the innermost scope. -/
def Quietly (step : Extract α) (value : α) : Prop :=
  ∀ w : Walk, ∃ scopes, step w = (.ok value, { w with scopes })

theorem quietly_pure (value : α) : Quietly (pure value) value := fun w => ⟨w.scopes, rfl⟩

theorem Quietly.bind {step : Extract α} {next : α → Extract β} {value : α} {result : β}
    (first : Quietly step value) (rest : Quietly (next value) result) :
    Quietly (step >>= next) result := by
  intro w
  obtain ⟨between, ran⟩ := first w
  obtain ⟨scopes, ended⟩ := rest { w with scopes := between }
  exact ⟨scopes, by rw [bind_ok ran, ended]⟩

theorem Quietly.map {step : Extract α} {value : α} (quiet : Quietly step value) (f : α → β) :
    Quietly (f <$> step) (f value) := by
  rw [map_eq]
  exact quiet.bind (quietly_pure _)

theorem quietly_mapM {f : α → Extract β} {items : List α} {values : List β}
    (long : items.length = values.length)
    (each : ∀ pair ∈ items.zip values, Quietly (f pair.1) pair.2) : Quietly (items.mapM f) values := by
  induction items generalizing values with
  | nil =>
      cases values with
      | nil => exact quietly_pure []
      | cons value rest => cases long
  | cons item items ih =>
      cases values with
      | nil => cases long
      | cons value values =>
          rw [List.zip_cons_cons, List.forall_mem_cons] at each
          rw [List.mapM_cons]
          exact each.1.bind ((ih (Nat.succ_inj.mp long) each.2).bind (quietly_pure _))

theorem quietly_declareLocal (name : String) : Quietly (declareLocal name) () := by
  intro w
  rcases w with ⟨registry, bindings, _ | ⟨scope, outer⟩, localNames, unidentified, events⟩
  · exact ⟨[], rfl⟩
  · exact ⟨Walk.addName scope name :: outer, rfl⟩

end Extract

def TypeInfo.components (t : TypeInfo) : List (Option TypeId) :=
  t.arguments.slots ++ t.types.slots ++
    [t.operand, t.objectType, t.indexType, t.checkType, t.extendsType, t.trueType, t.falseType,
     t.baseType]

theorem TypeInfo.components_fixed (t : TypeInfo) : t.fixed.components = t.components := rfl

theorem TypeInfo.parts_eq (t : TypeInfo) : t.parts = t.components ++ [t.constraint, t.typeParameter] := by
  simp [parts, components]

namespace Program

/-- One type is a part of another. -/
def HasPart (p : Program) (type part : TypeId) : Prop := some part ∈ (p.type type).components

/-- No alias stands for the type, nor for any type inside it. -/
def AliasFree (p : Program) (type : TypeId) : Prop :=
  ∀ part, Relation.ReflTransGen p.HasPart type part → (p.type part).alias? = none

theorem hasPart_of_fixed {p : Program} {type part : TypeId} {t : TypeInfo}
    (same : (p.type type).fixed = t.fixed) (member : some part ∈ t.components) : p.HasPart type part := by
  rw [HasPart, ← TypeInfo.components_fixed, same]
  exact member

theorem AliasFree.part {p : Program} {type part : TypeId} (unaliased : p.AliasFree type)
    (below : p.HasPart type part) : p.AliasFree part :=
  fun other path => unaliased other (.head below path)

end Program

namespace Engine

open Extract

section One

variable {e : Engine} {type : TypeId}

/-- A type without a name is written out, whatever has been added to its record since it was made. -/
theorem includeType_of_fixed {t : TypeInfo} (same : (e.program.type type).fixed = t.fixed)
    (symbol : t.symbol = none) (index : t.hasFlag .index = false)
    (unaliased : (e.program.type type).alias? = none) : e.includeType type = e.includeInline type := by
  have flags : (e.program.type type).flags = t.flags := (congrArg TypeInfo.flags same :)
  have bare : (e.program.type type).symbol = none := (congrArg TypeInfo.symbol same :).trans symbol
  have plain : (e.program.type type).keyofOperand? = none := by
    rw [TypeInfo.keyofOperand?, TypeInfo.hasFlag, flags, if_neg]
    exact Bool.eq_false_iff.mp index
  simp only [includeType, plain, nameOf, unaliased, bare, Option.map_none]
  exact e.includeKnown_of_other none (.inr bare)

theorem includeInline_of_terminal {terminal : Terminal}
    (told : Terminal.ofFlags? (e.program.type type).flags = some terminal) :
    e.includeInline type = e.includeTerminal (e.program.type type) terminal := by
  simp [includeInline, firstOf, includeBasic, told]

theorem includeInline_of_combinator (told : Terminal.ofFlags? (e.program.type type).flags = none)
    {step : Extract Node} (combined : e.includeCombinator type = some <$> step) :
    e.includeInline type = step := by
  simp [includeInline, firstOf, includeBasic, told, combined]

/-- The key of an indexed access is written like any other type, but for where a `keyof` is
recognized. -/
theorem includeIndex_eq (type : TypeId) : e.includeIndex (some type) = some <$> e.includeType type ∨
    e.includeIndex (some type) = some <$> e.visit type := by
  simp only [includeIndex, includeType]
  cases (e.program.type type).keyofOperand? with
  | some operand => exact .inl rfl
  | none => exact .inr rfl

theorem includeTerminal_fixed (t : TypeInfo) (terminal : Terminal) :
    e.includeTerminal t.fixed terminal = e.includeTerminal t terminal := by
  cases terminal <;> rfl

theorem includeType_of_terminal {t : TypeInfo} {terminal : Terminal}
    (same : (e.program.type type).fixed = t.fixed) (symbol : t.symbol = none)
    (index : t.hasFlag .index = false) (told : Terminal.ofFlags? t.flags = some terminal)
    (unaliased : (e.program.type type).alias? = none) :
    e.includeType type = e.includeTerminal t terminal := by
  have flags : (e.program.type type).flags = t.flags := (congrArg TypeInfo.flags same :)
  rw [includeType_of_fixed same symbol index unaliased, includeInline_of_terminal (flags ▸ told),
    ← includeTerminal_fixed, same, includeTerminal_fixed]

theorem hasFlag_of_fixed {s t : TypeInfo} (same : s.fixed = t.fixed) {flag : TypeFlag}
    (single : t.flags = [flag]) (other : TypeFlag) : s.hasFlag other = (other == flag) := by
  have flags : s.flags = t.flags := (congrArg TypeInfo.flags same :)
  rw [TypeInfo.hasFlag, flags, single, List.contains_cons, List.contains_nil, Bool.or_false]

theorem includeType_of_combinator {t : TypeInfo} {step : Extract Node}
    (same : (e.program.type type).fixed = t.fixed) (symbol : t.symbol = none)
    (index : t.hasFlag .index = false) (other : Terminal.ofFlags? t.flags = none)
    (unaliased : (e.program.type type).alias? = none)
    (combined : e.includeCombinator type = some <$> step) : e.includeType type = step := by
  have flags : (e.program.type type).flags = t.flags := (congrArg TypeInfo.flags same :)
  rw [includeType_of_fixed same symbol index unaliased,
    includeInline_of_combinator (flags ▸ other) combined]

theorem quietly_visitAll {types : List TypeId} {xs : List TypeExpr} (long : types.length = xs.length)
    (each : ∀ part ∈ types.zip xs, Quietly (e.visit part.1) part.2.image) :
    Quietly (e.visitAll (types.map some)) (xs.map TypeExpr.image) := by
  refine quietly_mapM (by simpa using long) ?_
  rw [List.zip_map, List.forall_mem_map]
  exact each

end One

section Level

variable {p : Program} {e : Engine} (program : e.program = p) {type : TypeId} {x : TypeExpr}
include program

theorem quietly_terminal {t : TypeInfo} (same : (p.type type).fixed = t.fixed)
    (writes : t.Writes x) (unaliased : (p.type type).alias? = none) :
    Quietly (e.includeType type) x.image := by
  subst program
  obtain ⟨terminal, told, written⟩ := writes.terminal
  rw [includeType_of_terminal same writes.symbol writes.index told unaliased, written]
  exact quietly_pure _

theorem quietly_parameter {name : String} (parameter : p.Parameter name type) :
    Quietly (e.includeType type) (TypeExpr.parameter name).image := by
  subst program
  obtain ⟨symbol, constraint, made, -, called⟩ := parameter
  have flags : (e.program.type type).flags = [.typeParameter] := congrArg TypeInfo.flags made
  have held : (e.program.type type).symbol = some symbol := congrArg TypeInfo.symbol made
  have plain : (e.program.type type).keyofOperand? = none := by
    rw [TypeInfo.keyofOperand?, TypeInfo.hasFlag, flags]
    rfl
  have declared : (e.program.type type).isTypeParameter = true := by
    rw [TypeInfo.isTypeParameter, TypeInfo.hasFlag, flags]
    rfl
  simp only [includeType, plain]
  rw [e.includeKnown_of_parameter _ declared held, called, TypeExpr.image]
  have declares : Quietly (typeParameterRef name) { name } :=
    (quietly_declareLocal name).bind (quietly_pure _)
  exact declares.bind (quietly_pure _)

variable (unaliased : (p.type type).alias? = none)
include unaliased

theorem quietly_union {types : List TypeId} {xs : List TypeExpr}
    (same : (p.type type).fixed =
      TypeInfo.fixed { flags := [.union], types := some (types.map some) })
    (long : types.length = xs.length)
    (each : ∀ part ∈ types.zip xs, Quietly (e.visit part.1) part.2.image) :
    Quietly (e.includeType type) (TypeExpr.union xs).image := by
  subst program
  have flagged := hasFlag_of_fixed same rfl
  have listed : (e.program.type type).types = some (types.map some) := congrArg TypeInfo.types same
  have combined : e.includeCombinator type = some <$> e.unionNode (types.map some) := by
    simp [includeCombinator, Program.isTuple, TypeInfo.isReference, TypeInfo.isObject,
      TypeInfo.isUnion, flagged, listed, Slots.each]
    rfl
  rw [includeType_of_combinator same rfl rfl rfl unaliased combined, TypeExpr.image]
  exact (quietly_visitAll long each).map Node.union

theorem quietly_intersection {types : List TypeId} {xs : List TypeExpr}
    (same : (p.type type).fixed =
      TypeInfo.fixed { flags := [.intersection], types := some (types.map some) })
    (long : types.length = xs.length)
    (each : ∀ part ∈ types.zip xs, Quietly (e.visit part.1) part.2.image) :
    Quietly (e.includeType type) (TypeExpr.intersection xs).image := by
  subst program
  have flagged := hasFlag_of_fixed same rfl
  have listed : (e.program.type type).types = some (types.map some) := congrArg TypeInfo.types same
  have combined : e.includeCombinator type =
      some <$> Node.intersection <$> e.visitAll (types.map some) := by
    simp [includeCombinator, Program.isTuple, TypeInfo.isReference, TypeInfo.isObject,
      TypeInfo.isUnion, TypeInfo.isIntersection, flagged, listed, Slots.each]
    rfl
  rw [includeType_of_combinator same rfl rfl rfl unaliased combined, TypeExpr.image]
  exact (quietly_visitAll long each).map Node.intersection

theorem quietly_tuple {target : TypeId} {types : List TypeId} {xs : List TypeExpr}
    (same : (p.type type).fixed = (Build.tupleRecord target (types.map some)).fixed)
    (tuples : (p.type target).hasObjectFlag .tuple = true) (long : types.length = xs.length)
    (each : ∀ part ∈ types.zip xs, Quietly (e.visit part.1) part.2.image) :
    Quietly (e.includeType type) (TypeExpr.tuple xs).image := by
  subst program
  have flagged := hasFlag_of_fixed same rfl
  have reference : (e.program.type type).hasObjectFlag .reference = true := by
    have objectFlags : (e.program.type type).objectFlags = [.reference] := congrArg TypeInfo.objectFlags same
    rw [TypeInfo.hasObjectFlag, objectFlags]
    rfl
  have held : (e.program.type type).target = some target := congrArg TypeInfo.target same
  have listed : (e.program.type type).arguments = some (types.map some) :=
    congrArg TypeInfo.arguments same
  have tuple : e.program.isTuple (e.program.type type) = true := by
    simp [Program.isTuple, TypeInfo.isReference, TypeInfo.isObject, flagged, reference, held, tuples]
  have combined : e.includeCombinator type = some <$> Node.tuple <$> e.visitAll (types.map some) := by
    simp [includeCombinator, tuple, listed, Slots.slots]
  rw [includeType_of_combinator same rfl rfl rfl unaliased combined, TypeExpr.image]
  exact (quietly_visitAll long each).map Node.tuple

theorem quietly_indexedAccess {object index : TypeId} {holder key : TypeExpr}
    (same : (p.type type).fixed = TypeInfo.fixed
      { flags := [.indexedAccess], objectType := some object, indexType := some index })
    (first : Quietly (e.visit object) holder.image) (second : Quietly (e.visit index) key.image)
    (here : Quietly (e.includeType index) key.image) :
    Quietly (e.includeType type) (TypeExpr.indexedAccess holder key).image := by
  subst program
  have flagged := hasFlag_of_fixed same rfl
  have objectType : (e.program.type type).objectType = some object := congrArg TypeInfo.objectType same
  have indexType : (e.program.type type).indexType = some index := congrArg TypeInfo.indexType same
  have written : Quietly (e.includeIndex (some index)) (some key.image) := by
    rcases e.includeIndex_eq index with same | same
    · exact same ▸ here.map some
    · exact same ▸ second.map some
  have combined : e.includeCombinator type = some <$> (do
      let index ← e.includeIndex (some index)
      let object ← some <$> e.visit object
      return .indexedAccess index object) := by
    simp [includeCombinator, Program.isTuple, TypeInfo.isReference, TypeInfo.isObject,
      TypeInfo.isUnion, TypeInfo.isIntersection, TypeInfo.isIndexedAccess, flagged, objectType, indexType]
  rw [includeType_of_combinator same rfl rfl rfl unaliased combined, TypeExpr.image]
  exact written.bind ((first.map some).bind (quietly_pure _))

theorem quietly_conditional {checked bound yes no : TypeId}
    {check extended primary alternate : TypeExpr}
    (same : (p.type type).fixed = TypeInfo.fixed
      { flags := [.conditional], checkType := some checked, extendsType := some bound,
        trueType := some yes, falseType := some no })
    (first : Quietly (e.visit checked) check.image) (second : Quietly (e.visit bound) extended.image)
    (third : Quietly (e.visit yes) primary.image) (fourth : Quietly (e.visit no) alternate.image) :
    Quietly (e.includeType type) (TypeExpr.conditional check extended primary alternate).image := by
  subst program
  rw [includeType_of_terminal same rfl rfl (show _ = some .conditional from rfl) unaliased, TypeExpr.image]
  exact second.bind (first.bind (third.bind (fourth.bind (quietly_pure _))))

theorem quietly_substitution {base : TypeId}
    (same : (p.type type).fixed =
      TypeInfo.fixed { flags := [.substitution], baseType := some base })
    (quiet : Quietly (e.visit base) x.image) :
    Quietly (e.includeType type) (TypeExpr.substitution x).image := by
  subst program
  rw [includeType_of_terminal same rfl rfl (show _ = some .substitution from rfl) unaliased, TypeExpr.image]
  exact quiet.bind (quietly_pure _)

omit unaliased in
theorem quietly_keyof {operand : TypeId}
    (same : (p.type type).fixed =
      TypeInfo.fixed { flags := [.index], operand := some operand })
    (quiet : Quietly (e.visit operand) x.image) :
    Quietly (e.includeType type) (TypeExpr.keyof x).image := by
  subst program
  have flagged := hasFlag_of_fixed same rfl
  have held : (e.program.type type).operand = some operand := congrArg TypeInfo.operand same
  have keyof : (e.program.type type).keyofOperand? = some operand := by
    rw [TypeInfo.keyofOperand?, flagged, held]
    rfl
  simp only [includeType, keyof]
  rw [TypeExpr.image]
  exact quiet.map (Node.prefixed "keyof")

end Level

theorem quietly_visit {e : Engine} {id part : TypeId} {node : Node}
    (quiet : ∀ n, part.index ≤ n → Quietly ((e.within n).includeType part) node)
    (older : part.index < id.index) {n : Nat} (deep : id.index ≤ n) :
    Quietly ((e.within n).visit part) node := by
  cases n with
  | zero => omega
  | succ n => exact quiet n (by omega)

theorem quietly_includeType {p : Program} {e : Engine} (program : e.program = p) {id : TypeId} {x : TypeExpr}
    (ordered : ∀ id part, p.HasPart id part → part.index < id.index) (records : p.Records id x)
    (unaliased : p.AliasFree id) {n : Nat} (deep : id.index ≤ n) :
    Quietly ((e.within n).includeType id) x.image := by
  have visits {id part : TypeId} {x : TypeExpr} (below : p.HasPart id part) (unaliased : p.AliasFree id)
      (ih : p.AliasFree part → ∀ {n}, part.index ≤ n → Quietly ((e.within n).includeType part) x.image)
      {n : Nat} (deep : id.index ≤ n) : Quietly ((e.within n).visit part) x.image :=
    quietly_visit (fun _ => ih (unaliased.part below)) (ordered id part below) deep
  induction records generalizing n with
  | terminal same writes =>
      exact quietly_terminal (by simpa using program) same writes (unaliased _ .refl)
  | parameter known => exact quietly_parameter (by simpa using program) known
  | union same long parts ih =>
      refine quietly_union (by simpa using program) (unaliased _ .refl) same long fun part member => ?_
      have held := (List.of_mem_zip member).1
      have below := Program.hasPart_of_fixed same
        (show some part.1 ∈ _ by simp [TypeInfo.components, Slots.slots, held])
      exact visits below unaliased (ih part member) deep
  | intersection same long parts ih =>
      refine quietly_intersection (by simpa using program) (unaliased _ .refl) same long fun part member => ?_
      have held := (List.of_mem_zip member).1
      have below := Program.hasPart_of_fixed same
        (show some part.1 ∈ _ by simp [TypeInfo.components, Slots.slots, held])
      exact visits below unaliased (ih part member) deep
  | tuple tuples same long parts ih =>
      refine quietly_tuple (by simpa using program) (unaliased _ .refl) same tuples long fun part member => ?_
      have held := (List.of_mem_zip member).1
      have below := Program.hasPart_of_fixed same
        (show some part.1 ∈ _ by simp [Build.tupleRecord, TypeInfo.components, Slots.slots, held])
      exact visits below unaliased (ih part member) deep
  | @keyof id operand x same _ ih =>
      have below : p.HasPart id operand :=
        Program.hasPart_of_fixed same (by simp [TypeInfo.components, Slots.slots])
      exact quietly_keyof (by simpa using program) same (visits below unaliased ih deep)
  | @indexedAccess id object index holder key same _ _ first second =>
      have parts (part : TypeId) (held : part = object ∨ part = index) : p.HasPart id part :=
        Program.hasPart_of_fixed same (by simpa [TypeInfo.components, Slots.slots] using held)
      have key := parts index (.inr rfl)
      have older := ordered id index key
      exact quietly_indexedAccess (by simpa using program) (unaliased _ .refl) same
        (visits (parts object (.inl rfl)) unaliased first deep) (visits key unaliased second deep)
        (second (unaliased.part key) (by omega))
  | @conditional id checked bound yes no _ _ _ _ same _ _ _ _ first second third fourth =>
      have parts (part : TypeId) (held : part = checked ∨ part = bound ∨ part = yes ∨ part = no) :
          p.HasPart id part :=
        Program.hasPart_of_fixed same (by simpa [TypeInfo.components, Slots.slots] using held)
      exact quietly_conditional (by simpa using program) (unaliased _ .refl) same
        (visits (parts checked (by simp)) unaliased first deep)
        (visits (parts bound (by simp)) unaliased second deep)
        (visits (parts yes (by simp)) unaliased third deep)
        (visits (parts no (by simp)) unaliased fourth deep)
  | @substitution id base x same _ ih =>
      have below : p.HasPart id base :=
        Program.hasPart_of_fixed same (by simp [TypeInfo.components, Slots.slots])
      exact quietly_substitution (by simpa using program) (unaliased _ .refl) same
        (visits below unaliased ih deep)

/-- A structural type that calls of the builder put together, and that no alias stands for, is written
as the image of how it was put together, and so that it can be read back, whatever the walk has gathered
before: nothing is registered, counted or reported, and only names of the innermost scope are added. -/
theorem includeType_image {p : Program} {id : TypeId} {x : TypeExpr} (composed : p.Composed id x)
    (unaliased : p.AliasFree id) (settings : ExtractionSettings) (libraries : LibrarySettings)
    (w : Walk) :
    (∃ scopes, (start p settings libraries).includeType id w = (.ok x.image, { w with scopes })) ∧
      x.image.expression? = some x := by
  refine ⟨?_, Node.expression?_image x⟩
  obtain ⟨built, records⟩ := composed.records
  obtain ⟨ages, live⟩ := live_of_built ⟨False, False⟩ built fun _ _ _ => ⟨nofun, nofun⟩
  have ordered (id part : TypeId) (below : p.HasPart id part) : part.index < id.index := by
    refine (live.types id).parts part ?_
    rw [TypeInfo.parts_eq]
    exact List.mem_append_left _ below
  have deep : id.index ≤ depthBound p := by
    have inside := records.inside
    rw [depthBound]
    omega
  exact quietly_includeType (program_withEntries _ _ _) ordered records unaliased deep w

end Engine

def nestedCall : Nat → Call
  | 0 => .typeParameter "T" none none
  | 1 => .keyof (some ⟨15⟩)
  | 2 => .indexedAccess (some ⟨15⟩) (some ⟨16⟩)
  | 3 => .tuple [some ⟨17⟩]
  | 4 => .literal (some (.text "a"))
  | 5 => .union [some ⟨19⟩, some ⟨20⟩, some Program.booleanType]
  | _ => .conditional (some ⟨15⟩) (some Program.stringType) (some ⟨21⟩) (some ⟨16⟩)

def nestedProgram : Nat → Program
  | 0 => Program.start "src/index.ts"
  | n + 1 => ((nestedCall n).step (nestedProgram n)).2

def nestedExpr : TypeExpr :=
  .conditional (.parameter "T") (.primitive .string)
    (.union [.tuple [.indexedAccess (.parameter "T") (.keyof (.parameter "T"))], .literal (.text "a"),
      .primitive .boolean])
    (.keyof (.parameter "T"))

theorem nestedProgram_handed {n : Nat} {step : Build TypeId} {id : TypeId}
    (same : (nestedCall n).step = discard step) (found : (step (nestedProgram n)).1.toOption = some id) :
    step (nestedProgram n) = (.ok id, nestedProgram (n + 1)) := by
  rcases ran : step (nestedProgram n) with ⟨fault | other, q⟩
  · rw [ran] at found
    cases found
  · rw [ran] at found
    cases found
    rw [nestedProgram, Program.step_of_ran same ran]

theorem nestedProgram_known : ∀ n < 7, (nestedCall n).isKnown (nestedProgram n) = true := by
  decide +kernel

theorem nestedProgram_built {n : Nat} (few : n ≤ 7) : (nestedProgram n).Built fun _ _ => True := by
  induction n with
  | zero => exact .start _ _
  | succ n ih =>
      exact .call _ (ih (by omega)) (Call.known_of_isKnown (nestedProgram_known n few)) trivial

theorem nestedProgram_later {m n : Nat} {id : TypeId} {x : TypeExpr}
    (composed : (nestedProgram m).Composed id x) (later : m ≤ n) (few : n ≤ 7) :
    (nestedProgram n).Composed id x := by
  induction later with
  | refl => exact composed
  | step _ ih => exact .later _ (ih (by omega)) (Call.known_of_isKnown (nestedProgram_known _ few))

theorem nestedProgram_composed : (nestedProgram 7).Composed ⟨22⟩ nestedExpr := by
  have intrinsic {n : Nat} {id : TypeId} {x : TypeExpr} (few : n ≤ 7)
      (listed : (id, x) ∈ TypeExpr.intrinsics) : (nestedProgram n).Composed id x :=
    .intrinsic (nestedProgram_built few) listed
  have parameter : (nestedProgram 1).Composed ⟨15⟩ (.parameter "T") :=
    .parameter (nestedProgram_built (by decide)) (Call.known_of_isKnown (by decide +kernel))
      (nestedProgram_handed rfl (by decide +kernel))
  have keyof : (nestedProgram 2).Composed ⟨16⟩ (.keyof (.parameter "T")) :=
    .keyof parameter (nestedProgram_handed rfl (by decide +kernel))
  have access : (nestedProgram 3).Composed ⟨17⟩
      (.indexedAccess (.parameter "T") (.keyof (.parameter "T"))) :=
    .indexedAccess (nestedProgram_later parameter (by decide) (by decide)) keyof
      (nestedProgram_handed rfl (by decide +kernel))
  have tuple : (nestedProgram 4).Composed ⟨19⟩
      (.tuple [.indexedAccess (.parameter "T") (.keyof (.parameter "T"))]) := by
    have made : Build.tuple ([⟨17⟩].map some) (nestedProgram 3) = (.ok ⟨19⟩, nestedProgram 4) :=
      nestedProgram_handed rfl (by decide +kernel)
    exact .tuple (nestedProgram_built (by decide)) rfl (by simpa using access) made
  have literal : (nestedProgram 5).Composed ⟨20⟩ (.literal (.text "a")) := by
    have same : ((nestedProgram 5).type ⟨20⟩).value.getD (.text "a") = .text "a" := by decide +kernel
    have composed : (nestedProgram 5).Composed ⟨20⟩
        (.literal (((nestedProgram 5).type ⟨20⟩).value.getD (.text "a"))) :=
      .literal (nestedProgram_built (by decide)) (nestedProgram_handed rfl (by decide +kernel))
    rwa [same] at composed
  have union : (nestedProgram 6).Composed ⟨21⟩
      (.union [.tuple [.indexedAccess (.parameter "T") (.keyof (.parameter "T"))],
        .literal (.text "a"), .primitive .boolean]) := by
    have made : Build.union ([⟨19⟩, ⟨20⟩, Program.booleanType].map some) (nestedProgram 5) =
        (.ok ⟨21⟩, nestedProgram 6) := nestedProgram_handed rfl (by decide +kernel)
    refine .union (nestedProgram_built (by decide)) rfl ?_ made
    simpa using ⟨nestedProgram_later tuple (by decide) (by decide), literal,
      intrinsic (by decide) (by simp [TypeExpr.intrinsics])⟩
  exact .conditional (nestedProgram_later parameter (by decide) (by decide))
    (intrinsic (by decide) (by simp [TypeExpr.intrinsics])) union
    (nestedProgram_later keyof (by decide) (by decide))
    (nestedProgram_handed rfl (by decide +kernel))

theorem nestedProgram_aliasFree : (nestedProgram 7).AliasFree ⟨22⟩ := fun part _ =>
  (nestedProgram 7).type_of_forall (fun t => t.alias? = none) rfl (by decide +kernel) part

theorem includeType_image_nested :
    (nestedProgram 7).Composed ⟨22⟩ nestedExpr ∧ (nestedProgram 7).AliasFree ⟨22⟩ ∧
      (∃ scopes, (Engine.start (nestedProgram 7) {} {}).includeType ⟨22⟩ {} =
        (.ok nestedExpr.image, { ({} : Walk) with scopes })) ∧
      nestedExpr.image.expression? = some nestedExpr :=
  ⟨nestedProgram_composed, nestedProgram_aliasFree,
    Engine.includeType_image nestedProgram_composed nestedProgram_aliasFree {} {} {}⟩

end TypeAtlas
