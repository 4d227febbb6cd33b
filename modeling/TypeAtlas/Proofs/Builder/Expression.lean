import TypeAtlas.Extract.Terminal
import TypeAtlas.Proofs.Builder.SpellingCall
import TypeAtlas.Proofs.Node.Expression

/-!
Structural types that calls of the builder put together. Their records say what they are made of, and
go on saying it however the program grows.
-/

namespace TypeAtlas

open Build Program

/-- What a terminal type is written as can be told from its record alone. -/
structure TypeInfo.Writes (t : TypeInfo) (x : TypeExpr) : Prop where
  symbol : t.symbol = none
  index : t.hasFlag .index = false
  terminal : ∃ terminal, Terminal.ofFlags? t.flags = some terminal ∧
    ∀ e : Engine, e.includeTerminal t terminal = pure x.image

namespace Program

inductive Records (p : Program) : TypeId → TypeExpr → Prop
  | terminal {id : TypeId} {t : TypeInfo} {x : TypeExpr} :
      (p.type id).fixed = t.fixed → t.Writes x → Records p id x
  | parameter {id : TypeId} {name : String} : p.Parameter name id → Records p id (.parameter name)
  | union {id : TypeId} {types : List TypeId} {xs : List TypeExpr} :
      (p.type id).fixed = TypeInfo.fixed { flags := [.union], types := some (types.map some) } →
      types.length = xs.length → (∀ part ∈ types.zip xs, Records p part.1 part.2) →
      Records p id (.union xs)
  | intersection {id : TypeId} {types : List TypeId} {xs : List TypeExpr} :
      (p.type id).fixed = TypeInfo.fixed
        { flags := [.intersection], types := some (types.map some) } →
      types.length = xs.length → (∀ part ∈ types.zip xs, Records p part.1 part.2) →
      Records p id (.intersection xs)
  | tuple {id target : TypeId} {types : List TypeId} {xs : List TypeExpr} :
      (p.type target).hasObjectFlag .tuple = true →
      (p.type id).fixed = (tupleRecord target (types.map some)).fixed →
      types.length = xs.length → (∀ part ∈ types.zip xs, Records p part.1 part.2) →
      Records p id (.tuple xs)
  | keyof {id operand : TypeId} {x : TypeExpr} :
      (p.type id).fixed = TypeInfo.fixed { flags := [.index], operand := some operand } →
      Records p operand x → Records p id (.keyof x)
  | indexedAccess {id object index : TypeId} {holder key : TypeExpr} :
      (p.type id).fixed = TypeInfo.fixed
        { flags := [.indexedAccess], objectType := some object, indexType := some index } →
      Records p object holder → Records p index key → Records p id (.indexedAccess holder key)
  | conditional {id checked bound yes no : TypeId} {check extended primary alternate : TypeExpr} :
      (p.type id).fixed = TypeInfo.fixed
        { flags := [.conditional], checkType := some checked, extendsType := some bound,
          trueType := some yes, falseType := some no } →
      Records p checked check → Records p bound extended → Records p yes primary →
      Records p no alternate → Records p id (.conditional check extended primary alternate)
  | substitution {id base : TypeId} {x : TypeExpr} :
      (p.type id).fixed = TypeInfo.fixed { flags := [.substitution], baseType := some base } →
      Records p base x → Records p id (.substitution x)

variable {p q : Program}

theorem Records.inside {id : TypeId} {x : TypeExpr} (records : p.Records id x) :
    id.index < p.types.size := by
  cases records with
  | terminal same writes =>
      refine inside_of_fixed same fun bare => ?_
      obtain ⟨terminal, told, -⟩ := writes.terminal
      rw [bare] at told
      cases told
  | parameter known =>
      obtain ⟨symbol, constraint, made, -⟩ := known
      exact inside_of_fixed made nofun
  | union same | intersection same | tuple _ same | keyof same | indexedAccess same
  | conditional same | substitution same => exact inside_of_fixed same nofun

theorem Records.carry {id : TypeId} {x : TypeExpr} (records : p.Records id x) (amid : p.Amid q) :
    q.Records id x := by
  have still {id : TypeId} {t : TypeInfo} (same : (p.type id).fixed = t.fixed)
      (inside : id.index < p.types.size) : (q.type id).fixed = t.fixed :=
    (amid.type id inside).fixed.trans same
  have there := records.inside
  induction records with
  | terminal same writes => exact .terminal (still same there) writes
  | parameter known => exact .parameter (known.carry amid.type amid.symbols amid.name)
  | union same long parts ih =>
      exact .union (still same there) long fun part member => ih part member (parts part member).inside
  | intersection same long parts ih =>
      exact .intersection (still same there) long fun part member =>
        ih part member (parts part member).inside
  | @tuple id target types xs flagged same long parts ih =>
      have held : target.index < p.types.size := by
        apply Nat.lt_of_not_le
        intro outside
        rw [p.type_of_size_le outside] at flagged
        cases flagged
      have flagged : (q.type target).hasObjectFlag .tuple = true := by
        rw [TypeInfo.hasObjectFlag, (amid.type target held).objectFlags]
        exact flagged
      exact .tuple flagged (still same there) long fun part member =>
        ih part member (parts part member).inside
  | keyof same operand ih => exact .keyof (still same there) (ih operand.inside)
  | indexedAccess same object index first second =>
      exact .indexedAccess (still same there) (first object.inside) (second index.inside)
  | conditional same checked bound yes no first second third fourth =>
      exact .conditional (still same there) (first checked.inside) (second bound.inside)
        (third yes.inside) (fourth no.inside)
  | substitution same base ih => exact .substitution (still same there) (ih base.inside)

end Program

def TypeExpr.intrinsics : List (TypeId × TypeExpr) :=
  [(anyType, .primitive .any), (unknownType, .primitive .unknown), (stringType, .primitive .string),
   (numberType, .primitive .number), (bigintType, .primitive .bigint),
   (esSymbolType, .primitive .esSymbol), (uniqueEsSymbolType, .primitive .uniqueEsSymbol),
   (voidType, .primitive .void), (undefinedType, .primitive .undefined),
   (nullType, .primitive .null), (neverType, .primitive .never), (nonPrimitiveType, .nonPrimitive),
   (falseType, .literal (.bool false)), (trueType, .literal (.bool true)),
   (booleanType, .primitive .boolean)]

def intrinsicRecords : List TypeInfo :=
  (intrinsics.map fun item => { flags := [item.1], intrinsicName := some item.2 }) ++
    [{ flags := [.boolean, .union], intrinsicName := some "boolean",
       types := Slots.of [falseType, trueType] }]

section Started

variable {α β : Type} {read : TypeInfo → β}
  (blind : ∀ (t : TypeInfo) (n : Int), read { t with id := n } = read t)
include blind

theorem map_foldl_addType (make : α → TypeInfo) (items : List α) (p : Program) :
    (items.foldl (fun p item => (p.addType (make item)).2) p).types.toList.map read =
      p.types.toList.map read ++ items.map fun item => read (make item) := by
  induction items generalizing p with
  | nil => simp
  | cons item rest ih =>
      have made : (p.addType (make item)).2.types.toList.map read =
          p.types.toList.map read ++ [read (make item)] := by
        simp [addType, addNumberedType, blind]
      rw [List.foldl_cons, ih, made, List.append_assoc, List.map_cons, List.singleton_append]

/-- Whatever is read off the intrinsic types of a new program, but for their numbers. -/
theorem map_start (fileName : String) (lastId : Nat) :
    (Program.start fileName lastId).types.toList.map read = intrinsicRecords.map read := by
  unfold Program.start
  dsimp only
  generalize begun : (Program.addSymbol _ _).2 = p
  have empty : p.types = #[] := by rw [← begun]; rfl
  rw [addType, addNumberedType, Array.toList_push, List.map_append,
    map_foldl_addType blind fun item : TypeFlag × String =>
      { flags := [item.1], intrinsicName := some item.2 }, empty, intrinsicRecords, List.map_append,
    List.map_map, List.map_singleton, blind]
  rfl

end Started

namespace Program

theorem read_type {β : Type} (p : Program) (id : TypeId) (read : TypeInfo → β) :
    read (p.type id) = (p.types.toList.map read).getD id.index (read default) := by
  rw [Program.type, List.getD_eq_getElem?_getD, Array.getD_eq_getD_getElem?, List.getElem?_map,
    Array.getElem?_toList]
  cases p.types[id.index]? <;> rfl

theorem fixed_intrinsic {id : TypeId} {t : TypeInfo} (built : Built (fun _ _ => True) p)
    (listed : (intrinsicRecords.map TypeInfo.fixed).getD id.index (default : TypeInfo).fixed = t.fixed)
    (flagged : t.flags ≠ []) : (p.type id).fixed = t.fixed := by
  induction built with
  | start fileName lastId => rw [read_type _ _ TypeInfo.fixed, map_start (fun _ _ => rfl), listed]
  | call call built known _ ih =>
      have spelled := spelled_of_built built
      have amid : Amid _ (call.step _).2 := (spells_call spelled.formed spelled.caches known).after rfl
      exact (amid.type id (inside_of_fixed ih flagged)).fixed.trans ih

theorem records_intrinsic {id : TypeId} {x : TypeExpr} (built : Built (fun _ _ => True) p)
    (listed : (id, x) ∈ TypeExpr.intrinsics) : p.Records id x := by
  have intrinsic (t : TypeInfo)
      (same : (intrinsicRecords.map TypeInfo.fixed).getD id.index (default : TypeInfo).fixed = t.fixed)
      (flagged : t.flags ≠ []) (writes : t.Writes x) : p.Records id x :=
    .terminal (fixed_intrinsic built same flagged) writes
  simp only [TypeExpr.intrinsics, List.mem_cons, Prod.mk.injEq, List.not_mem_nil, or_false] at listed
  rcases listed with ⟨rfl, rfl⟩ | ⟨rfl, rfl⟩ | ⟨rfl, rfl⟩ | ⟨rfl, rfl⟩ | ⟨rfl, rfl⟩ | ⟨rfl, rfl⟩ |
    ⟨rfl, rfl⟩ | ⟨rfl, rfl⟩ | ⟨rfl, rfl⟩ | ⟨rfl, rfl⟩ | ⟨rfl, rfl⟩ | ⟨rfl, rfl⟩ | ⟨rfl, rfl⟩ |
    ⟨rfl, rfl⟩ | ⟨rfl, rfl⟩ <;>
  exact intrinsic _ rfl (by rintro ⟨⟩) ⟨rfl, rfl, _, rfl, fun _ => by rw [TypeExpr.image]; rfl⟩

end Program

def LiteralKey.written? : LiteralKey → Option TypeExpr
  | .unset => none
  | .text value => some (.literal (.text value))
  | .int value => some (.literal (.int value))
  | .float value => some (.literal (.float value))
  | .bigint digits => digits.map .bigint

theorem LiteralKey.writes {key : LiteralKey} {x : TypeExpr} (written : key.written? = some x) :
    key.record.Writes x := by
  cases key with
  | unset => cases written
  | text value | int value | float value =>
      cases written
      exact ⟨rfl, rfl, _, rfl, fun _ => by rw [TypeExpr.image]; rfl⟩
  | bigint digits =>
      cases digits with
      | none => cases written
      | some digits =>
          cases written
          exact ⟨rfl, rfl, _, rfl, fun _ => by rw [TypeExpr.image]; rfl⟩

theorem LiteralKey.written_bigint (digits : Option String) (value : Literal) :
    (LiteralKey.bigint digits).written? ≠ some (.literal value) := by
  cases digits <;> nofun

theorem LiteralKey.written_of_same {held key : LiteralKey} {value : Literal}
    (same : held = key ∨ held.same key = true) (asked : key.written? = some (.literal value)) :
    ∃ kept, held.record.value = some kept ∧ held.written? = some (.literal kept) := by
  rcases same with rfl | same
  · cases held with
    | unset => cases asked
    | text | int | float => exact ⟨_, rfl, rfl⟩
    | bigint digits => exact absurd asked (written_bigint digits value)
  · cases key with
    | unset => cases asked
    | bigint digits => exact absurd asked (written_bigint digits value)
    | text | int | float =>
        cases held with
        | unset | bigint => cases same
        | text | int | float => first | cases same | exact ⟨_, rfl, rfl⟩

namespace Program

variable {p q : Program}

/-- The handle of a structural type that was put together by calls, whatever else was called before,
meanwhile and since. A number is kept in the form in which it was asked for first. -/
inductive Composed : Program → TypeId → TypeExpr → Prop
  | intrinsic {p : Program} {id : TypeId} {x : TypeExpr} :
      Built (fun _ _ => True) p → (id, x) ∈ TypeExpr.intrinsics → Composed p id x
  | literal {p q : Program} {id : TypeId} {value : Literal} :
      Built (fun _ _ => True) p → Build.literal (some value) p = (.ok id, q) →
      Composed q id (.literal ((q.type id).value.getD value))
  | bigint {p q : Program} {id : TypeId} {digits : String} :
      Built (fun _ _ => True) p → bigintLiteral (some digits) p = (.ok id, q) →
      Composed q id (.bigint digits)
  | parameter {p q : Program} {id : TypeId} {name : String} {constraint default : Option TypeId} :
      Built (fun _ _ => True) p → (Call.typeParameter name constraint default).Known p →
      typeParameter name constraint default p = (.ok id, q) → Composed q id (.parameter name)
  | infer {p q : Program} {id : TypeId} {name : String} :
      Built (fun _ _ => True) p → Build.infer name p = (.ok id, q) → Composed q id (.parameter name)
  | union {p q : Program} {id : TypeId} {types : List TypeId} {xs : List TypeExpr} :
      Built (fun _ _ => True) p → types.length = xs.length →
      (∀ part ∈ types.zip xs, Composed p part.1 part.2) →
      Build.union (types.map some) p = (.ok id, q) → Composed q id (.union xs)
  | intersection {p q : Program} {id : TypeId} {types : List TypeId} {xs : List TypeExpr} :
      Built (fun _ _ => True) p → types.length = xs.length →
      (∀ part ∈ types.zip xs, Composed p part.1 part.2) →
      Build.intersection (types.map some) p = (.ok id, q) → Composed q id (.intersection xs)
  | tuple {p q : Program} {id : TypeId} {types : List TypeId} {xs : List TypeExpr} :
      Built (fun _ _ => True) p → types.length = xs.length →
      (∀ part ∈ types.zip xs, Composed p part.1 part.2) →
      Build.tuple (types.map some) p = (.ok id, q) → Composed q id (.tuple xs)
  | keyof {p q : Program} {id operand : TypeId} {x : TypeExpr} :
      Composed p operand x → Build.keyof (some operand) p = (.ok id, q) → Composed q id (.keyof x)
  | indexedAccess {p q : Program} {id object index : TypeId} {holder key : TypeExpr} :
      Composed p object holder → Composed p index key →
      Build.indexedAccess (some object) (some index) p = (.ok id, q) →
      Composed q id (.indexedAccess holder key)
  | conditional {p q : Program} {id checked bound yes no : TypeId}
      {check extended primary alternate : TypeExpr} :
      Composed p checked check → Composed p bound extended → Composed p yes primary →
      Composed p no alternate →
      Build.conditional (some checked) (some bound) (some yes) (some no) p = (.ok id, q) →
      Composed q id (.conditional check extended primary alternate)
  | substitution {p q : Program} {id base : TypeId} {x : TypeExpr} :
      Composed p base x → Build.substitution (some base) p = (.ok id, q) →
      Composed q id (.substitution x)
  | later {p : Program} {id : TypeId} {x : TypeExpr} (call : Call) :
      Composed p id x → call.Known p → Composed (call.step p).2 id x

theorem Records.later {id : TypeId} {x : TypeExpr} (records : p.Records id x)
    (built : Built (fun _ _ => True) p) {call : Call} (known : call.Known p) :
    (call.step p).2.Records id x := by
  have spelled := spelled_of_built built
  exact records.carry ((spells_call spelled.formed spelled.caches known).after rfl)

theorem step_of_ran {call : Call} {step : Build TypeId} {id : TypeId} (same : call.step = discard step)
    (ran : step p = (.ok id, q)) : (call.step p).2 = q := by
  rw [same]
  change ((Function.const TypeId () <$> step) p).2 = q
  rw [map_eq, bind_ok ran]
  rfl

theorem Built.handed {call : Call} {step : Build TypeId} {told : Program → TypeId → Prop}
    {id : TypeId} (built : Built (fun _ _ => True) p) (known : call.Known p)
    (same : call.step = discard step) (keeps : p.Amid p → (spelling p).Keeps p step told)
    (ran : step p = (.ok id, q)) : Built (fun _ _ => True) q ∧ p.Amid q ∧ told q id := by
  have spelled := spelled_of_built built
  obtain ⟨amid, -, told⟩ := (keeps (Amid.refl spelled.formed spelled.caches)).result id q ran
  exact ⟨step_of_ran same ran ▸ .call call built known trivial, amid, told⟩

/-- A call that is given nothing but types is given what is there. -/
theorem known_of_types {call : Call} (types : ∀ type, some type ∈ call.types → type.index < p.types.size)
    (typeParameters : call.typeParameters = []) (symbols : call.symbols = []) (sites : call.sites = [])
    (signatures : call.signatures = []) (other : ∀ draft value, call ≠ .closeMapped draft value) :
    call.Known p where
  types type member := types type (by rwa [typeParameters, List.append_nil] at member)
  symbols symbol member := by simp [symbols] at member
  sites site member := by simp [sites] at member
  signatures signature member := by simp [signatures] at member
  draft draft value same := absurd same (other draft value)

theorem Records.inside_of_zip {types : List TypeId} {xs : List TypeExpr} (long : types.length = xs.length)
    (parts : ∀ part ∈ types.zip xs, p.Records part.1 part.2) :
    ∀ type, some type ∈ types.map some → type.index < p.types.size := by
  intro type member
  have held : type ∈ types := by simpa using member
  rw [← List.map_fst_zip (Nat.le_of_eq long)] at held
  obtain ⟨part, listed, rfl⟩ := List.mem_map.mp held
  exact (parts part listed).inside

theorem Composed.records {id : TypeId} {x : TypeExpr} (composed : p.Composed id x) :
    Built (fun _ _ => True) p ∧ p.Records id x := by
  induction composed with
  | intrinsic built listed => exact ⟨built, records_intrinsic built listed⟩
  | @literal p q id value built ran =>
      have known : (Call.literal (some value)).Known p :=
        known_of_types nofun rfl rfl rfl rfl nofun
      have found (key : LiteralKey) (is : Build.literal (some value) = cached key key.record)
          (asked : key.written? = some (.literal value)) :
          Built (fun _ _ => True) q ∧ q.Records id (.literal ((q.type id).value.getD value)) := by
        obtain ⟨after, -, held, same, record⟩ := built.handed known rfl
          (fun amid => is ▸ spells_cached amid key) ran
        obtain ⟨kept, holds, written⟩ := LiteralKey.written_of_same same asked
        have value : (q.type id).value = some kept := (congrArg TypeInfo.value record).trans holds
        rw [value]
        exact ⟨after, .terminal record (LiteralKey.writes written)⟩
      cases value with
      | bool truth =>
          have bare (id : TypeId) {name : String} (same : (intrinsicRecords.map TypeInfo.fixed).getD
              id.index (default : TypeInfo).fixed =
                TypeInfo.fixed { flags := [.booleanLiteral], intrinsicName := some name }) :
              (p.type id).value = none :=
            congrArg TypeInfo.value (fixed_intrinsic built same nofun)
          cases truth <;> cases ran
          · rw [bare falseType rfl]
            exact ⟨built, records_intrinsic built (by simp [TypeExpr.intrinsics])⟩
          · rw [bare trueType rfl]
            exact ⟨built, records_intrinsic built (by simp [TypeExpr.intrinsics])⟩
      | int value => exact found (.int value) rfl rfl
      | float value => exact found (.float value) rfl rfl
      | text value => exact found (.text value) rfl rfl
  | @bigint p q id digits built ran =>
      have known : (Call.bigintLiteral (some digits)).Known p :=
        known_of_types nofun rfl rfl rfl rfl nofun
      obtain ⟨after, -, held, same, record⟩ := built.handed known rfl
        (fun amid => spells_cached amid (.bigint (some digits))) ran
      have written : held.written? = some (.bigint digits) := by
        rcases same with rfl | same
        · rfl
        · cases held with
          | unset | text | int | float => cases same
          | bigint other => rw [LiteralKey.written?, beq_iff_eq.mp same]; rfl
      exact ⟨after, .terminal record (LiteralKey.writes written)⟩
  | @parameter p q id name constraint default built known ran =>
      obtain ⟨after, -, parameter⟩ := built.handed known rfl
        (fun amid => spells_typeParameter amid name constraint default) ran
      exact ⟨after, .parameter parameter⟩
  | @infer p q id name built ran =>
      have known : (Call.infer name).Known p := known_of_types nofun rfl rfl rfl rfl nofun
      obtain ⟨after, -, parameter⟩ := built.handed known rfl (fun amid => spells_infer amid name) ran
      exact ⟨after, .parameter parameter⟩
  | @union p q id types xs built long parts ran ih =>
      have known : (Call.union (types.map some)).Known p :=
        known_of_types (Records.inside_of_zip long fun part member => (ih part member).2)
          rfl rfl rfl rfl nofun
      obtain ⟨after, amid, record⟩ := built.handed known rfl
        (fun amid => spells_union amid (types.map some)) ran
      exact ⟨after, .union record long fun part member => (ih part member).2.carry amid⟩
  | @intersection p q id types xs built long parts ran ih =>
      have known : (Call.intersection (types.map some)).Known p :=
        known_of_types (Records.inside_of_zip long fun part member => (ih part member).2)
          rfl rfl rfl rfl nofun
      obtain ⟨after, amid, record⟩ := built.handed known rfl
        (fun amid => spells_newType amid (formed_of_plain rfl rfl rfl)) ran
      exact ⟨after, .intersection record long fun part member => (ih part member).2.carry amid⟩
  | @tuple p q id types xs built long parts ran ih =>
      have known : (Call.tuple (types.map some)).Known p :=
        known_of_types (Records.inside_of_zip long fun part member => (ih part member).2)
          rfl rfl rfl rfl nofun
      obtain ⟨after, amid, target, flagged, record⟩ := built.handed known rfl
        (fun amid => spells_tuple amid (types.map some)) ran
      exact ⟨after, .tuple flagged record long fun part member => (ih part member).2.carry amid⟩
  | @keyof p q id operand x composed ran ih =>
      obtain ⟨built, records⟩ := ih
      have known : (Call.keyof (some operand)).Known p :=
        known_of_types (by simpa [Call.types] using records.inside) rfl rfl rfl rfl nofun
      obtain ⟨after, amid, record⟩ := built.handed known rfl
        (fun amid => spells_newType amid (formed_of_plain rfl rfl rfl)) ran
      exact ⟨after, .keyof record (records.carry amid)⟩
  | @indexedAccess p q id object index holder key _ _ ran first second =>
      obtain ⟨⟨built, first⟩, -, second⟩ := first, second
      have known : (Call.indexedAccess (some object) (some index)).Known p :=
        known_of_types (by simpa [Call.types] using ⟨first.inside, second.inside⟩) rfl rfl rfl rfl nofun
      obtain ⟨after, amid, record⟩ := built.handed known rfl
        (fun amid => spells_newType amid (formed_of_plain rfl rfl rfl)) ran
      exact ⟨after, .indexedAccess record (first.carry amid) (second.carry amid)⟩
  | @conditional p q id checked bound yes no check extended primary alternate _ _ _ _ ran first second
      third fourth =>
      obtain ⟨⟨built, first⟩, ⟨-, second⟩, ⟨-, third⟩, -, fourth⟩ := first, second, third, fourth
      have known : (Call.conditional (some checked) (some bound) (some yes) (some no)).Known p :=
        known_of_types (by simpa [Call.types] using
          ⟨first.inside, second.inside, third.inside, fourth.inside⟩) rfl rfl rfl rfl nofun
      obtain ⟨after, amid, record⟩ := built.handed known rfl
        (fun amid => spells_newType amid (formed_of_plain rfl rfl rfl)) ran
      exact ⟨after, .conditional record (first.carry amid) (second.carry amid) (third.carry amid)
        (fourth.carry amid)⟩
  | @substitution p q id base x composed ran ih =>
      obtain ⟨built, records⟩ := ih
      have known : (Call.substitution (some base)).Known p :=
        known_of_types (by simpa [Call.types] using records.inside) rfl rfl rfl rfl nofun
      obtain ⟨after, amid, record⟩ := built.handed known rfl
        (fun amid => spells_newType amid (formed_of_plain rfl rfl rfl)) ran
      exact ⟨after, .substitution record (records.carry amid)⟩
  | later call composed known ih => exact ⟨.call call ih.1 known trivial, ih.2.later ih.1 known⟩

end Program

end TypeAtlas
