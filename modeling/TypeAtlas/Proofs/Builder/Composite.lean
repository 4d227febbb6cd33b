import TypeAtlas.Proofs.Builder.Written

/-!
Types made of other types keep a program fitting: their parts are older than they are.
-/

namespace TypeAtlas

variable {manner : Manner} {ages : Ages} {now age : Nat} {p q : Program}

namespace Build

open Program

section Steps

variable (live : p.Live manner ages now)
include live

theorem Given.older {types : List (Option TypeId)} (given : Given now types) {part : TypeId}
    (member : some part ∈ types) : part.index < p.types.size :=
  Nat.lt_of_lt_of_le (given part member) live.bound

/-- A new type without a symbol. -/
theorem keeps_unnamed {type : TypeInfo} (simple : type.Simple) (unnamed : type.symbol = none)
    (keyof : type.hasFlag .index = true → type.flags = [.index])
    (calls : type.callSignatures = some []) (plain : type.isEnumeration = false)
    (parts : ∀ part, some part ∈ type.parts → part.index < p.types.size) :
    Keeps manner ages now p (newType type) fun q id => id.index < q.types.size := by
  refine (keeps_newType live fun id => ?_).weaken fun _ _ _ made => made.1
  refine typeFits_unnamed ?_ unnamed keyof calls plain parts
  exact ⟨simple.unaliased, simple.aliasArguments, simple.typeParameters, simple.properties,
    simple.stringIndex, simple.numberIndex, simple.parameter, simple.nominal, simple.mapped⟩

theorem keeps_cached (key : LiteralKey) {type : TypeInfo} (simple : type.Simple)
    (unnamed : type.symbol = none) (keyof : type.hasFlag .index = true → type.flags = [.index])
    (calls : type.callSignatures = some []) (plain : type.isEnumeration = false)
    (parts : ∀ part, some part ∈ type.parts → part.index < p.types.size) :
    Keeps manner ages now p (cached key type) fun _ _ => True := by
  apply keeps_get_bind
  split
  · exact keeps_pure live trivial
  · refine keeps_bind (keeps_unnamed live simple unnamed keyof calls plain parts) ?_
    intro id q live _ _
    refine keeps_bind (keeps_modify live rfl rfl rfl rfl rfl live.inferred rfl) ?_
    intro _ r live _ _
    exact keeps_pure live trivial

theorem keeps_literal (value : Option Literal) :
    Keeps manner ages now p (literal value) fun _ _ => True := by
  cases value with
  | none =>
      exact keeps_cached live _ (by constructor <;> rfl) rfl (by rintro ⟨⟩) rfl rfl
        (by simp [TypeInfo.parts, Slots.slots])
  | some value =>
      cases value with
      | bool value => cases value <;> exact keeps_pure live trivial
      | int value =>
          exact keeps_cached live _ (by constructor <;> rfl) rfl (by rintro ⟨⟩) rfl rfl
            (by simp [TypeInfo.parts, Slots.slots])
      | float value =>
          exact keeps_cached live _ (by constructor <;> rfl) rfl (by rintro ⟨⟩) rfl rfl
            (by simp [TypeInfo.parts, Slots.slots])
      | text value =>
          exact keeps_cached live _ (by constructor <;> rfl) rfl (by rintro ⟨⟩) rfl rfl
            (by simp [TypeInfo.parts, Slots.slots])

theorem keeps_bigintLiteral (digits : Option String) :
    Keeps manner ages now p (bigintLiteral digits) fun _ _ => True :=
  keeps_cached live _ (by constructor <;> rfl) rfl (by rintro ⟨⟩) rfl rfl
    (by simp [TypeInfo.parts, Slots.slots])

theorem keeps_union {types : List (Option TypeId)} (given : Given now types) :
    Keeps manner ages now p (union types) fun q id => id.index < q.types.size := by
  refine keeps_unnamed live (by constructor <;> rfl) rfl (by rintro ⟨⟩) rfl rfl ?_
  intro part member
  exact given.older live (by simpa [TypeInfo.parts, Slots.slots] using member)

theorem keeps_intersection {types : List (Option TypeId)} (given : Given now types) :
    Keeps manner ages now p (intersection types) fun _ _ => True := by
  refine (keeps_unnamed live (by constructor <;> rfl) rfl (by rintro ⟨⟩) rfl rfl ?_).weaken
      fun _ _ _ _ => trivial
  intro part member
  exact given.older live (by simpa [TypeInfo.parts, Slots.slots] using member)

theorem keeps_tuple {elements : List (Option TypeId)} (given : Given now elements) :
    Keeps manner ages now p (tuple elements) fun _ _ => True := by
  have finish {q : Program} (target : TypeId) (live : q.Live manner ages now) :
      Keeps manner ages now q (newType
        { flags := [.object], objectFlags := [.reference], target := some target,
          arguments := some elements }) fun _ _ => True := by
    refine (keeps_unnamed live (by constructor <;> rfl) rfl (by rintro ⟨⟩) rfl rfl ?_).weaken
      fun _ _ _ _ => trivial
    intro part member
    exact given.older live (by simpa [TypeInfo.parts, Slots.slots] using member)
  apply keeps_get_bind
  dsimp only
  split
  · rw [pure_bind]
    exact finish _ live
  · refine keeps_bind (keeps_unnamed live (by constructor <;> rfl) rfl (by rintro ⟨⟩) rfl rfl
      (by simp [TypeInfo.parts, Slots.slots])) ?_
    intro id q live _ _
    refine keeps_bind (keeps_modify live rfl rfl rfl rfl rfl live.inferred rfl) ?_
    intro _ r live _ _
    rw [pure_bind]
    exact finish id live

theorem keeps_keyof {operand : Option TypeId} (given : Given now [operand]) :
    Keeps manner ages now p (keyof operand) fun _ _ => True := by
  refine (keeps_unnamed live (by constructor <;> rfl) rfl (fun _ => rfl) rfl rfl ?_).weaken
      fun _ _ _ _ => trivial
  intro part member
  exact given.older live (by simpa [TypeInfo.parts, Slots.slots] using member)

theorem keeps_indexedAccess {objectType indexType : Option TypeId}
    (given : Given now [objectType, indexType]) :
    Keeps manner ages now p (indexedAccess objectType indexType) fun _ _ => True := by
  refine (keeps_unnamed live (by constructor <;> rfl) rfl (by rintro ⟨⟩) rfl rfl ?_).weaken
      fun _ _ _ _ => trivial
  intro part member
  exact given.older live (by simpa [TypeInfo.parts, Slots.slots] using member)

theorem keeps_conditional {checkType extendsType trueType falseType : Option TypeId}
    (given : Given now [checkType, extendsType, trueType, falseType]) :
    Keeps manner ages now p (conditional checkType extendsType trueType falseType)
      fun _ _ => True := by
  refine (keeps_unnamed live (by constructor <;> rfl) rfl (by rintro ⟨⟩) rfl rfl ?_).weaken
      fun _ _ _ _ => trivial
  intro part member
  exact given.older live (by simpa [TypeInfo.parts, Slots.slots] using member)

theorem keeps_substitution {baseType : Option TypeId} (given : Given now [baseType]) :
    Keeps manner ages now p (substitution baseType) fun _ _ => True := by
  refine (keeps_unnamed live (by constructor <;> rfl) rfl (by rintro ⟨⟩) rfl rfl ?_).weaken
      fun _ _ _ _ => trivial
  intro part member
  exact given.older live (by simpa [TypeInfo.parts, Slots.slots] using member)

end Steps

end Build

end TypeAtlas
