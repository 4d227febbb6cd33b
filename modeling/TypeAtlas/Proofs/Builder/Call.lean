import TypeAtlas.Proofs.Builder.Composite
import TypeAtlas.Proofs.Builder.Export
import TypeAtlas.Proofs.Program.Calls

/-!
Every program that calls build has records that fit. A call starts with all records aged as they were
before it, whatever it makes is as old as the types that were there when it began, and the next call
finds the program in order again.
-/

namespace TypeAtlas

/-- Members are added to declared types only. -/
def Call.Extending (call : Call) (p : Program) : Prop :=
  ∀ type specs, call = .addMembers (some type) specs → (p.type type).isNominal = true

def Call.isExtending (call : Call) (p : Program) : Bool :=
  match call with
  | .addMembers (some type) _ => (p.type type).isNominal
  | _ => true

theorem Call.extending_of_isExtending {call : Call} {p : Program}
    (checked : call.isExtending p = true) : call.Extending p := by
  rintro type specs rfl
  exact checked

/-- Type parameters are given as such, and members are added to declared types only. -/
structure Call.Disciplined (call : Call) (p : Program) : Prop where
  typeParameters : ∀ param, some param ∈ call.typeParameters → (p.type param).isTypeParameter = true
  extended : call.Extending p

def Call.isDisciplined (call : Call) (p : Program) : Bool :=
  call.typeParameters.all (·.all fun param => (p.type param).isTypeParameter) && call.isExtending p

theorem Call.disciplined_of_isDisciplined {call : Call} {p : Program}
    (checked : call.isDisciplined p = true) : call.Disciplined p := by
  simp only [isDisciplined, Bool.and_eq_true, List.all_eq_true] at checked
  refine ⟨?_, extending_of_isExtending checked.2⟩
  intro param member
  simpa using checked.1 (some param) member

/-- No symbol is exported as the default. -/
def Call.Nameless (call : Call) : Prop :=
  ∀ symbol doc, call ≠ .defaultExport (.symbol symbol) doc

def Call.isNameless : Call → Bool
  | .defaultExport (.symbol _) _ => false
  | _ => true

theorem Call.nameless_of_isNameless {call : Call} (checked : call.isNameless = true) :
    call.Nameless := by
  rintro symbol doc rfl
  cases checked

structure Manner.Allows (manner : Manner) (call : Call) (p : Program) : Prop where
  disciplined : manner.disciplined → call.Disciplined p
  nameless : manner.nameless → call.Nameless

variable {manner : Manner} {ages : Ages} {now : Nat} {p : Program}

open Build Program

def Ages.advance (ages : Ages) (p : Program) : Ages where
  site id := if id.index < p.sites.size then ages.site id else p.types.size
  symbol id := if id.index < p.symbols.size then ages.symbol id else p.types.size
  signature id := if id.index < p.signatures.size then ages.signature id else p.types.size
  index id := if id.index < p.indexes.size then ages.index id else p.types.size

theorem Ages.agree_advance (ages : Ages) (p : Program) : ages.Agree (ages.advance p) p :=
  ⟨fun _ inside => if_pos inside, fun _ inside => if_pos inside, fun _ inside => if_pos inside,
    fun _ inside => if_pos inside⟩

theorem Ages.During.advance (during : ages.During now p) (bound : now ≤ p.types.size) :
    (ages.advance p).During p.types.size p where
  site id := by
    change ite _ _ _ ≤ _
    split
    · exact Nat.le_trans (during.site id) bound
    · exact Nat.le_refl _
  symbol id := by
    change ite _ _ _ ≤ _
    split
    · exact Nat.le_trans (during.symbol id) bound
    · exact Nat.le_refl _
  signature id := by
    change ite _ _ _ ≤ _
    split
    · exact Nat.le_trans (during.signature id) bound
    · exact Nat.le_refl _
  index id := by
    change ite _ _ _ ≤ _
    split
    · exact Nat.le_trans (during.index id) bound
    · exact Nat.le_refl _
  siteNow _ outside := if_neg (Nat.not_lt_of_le outside)
  symbolNow _ outside := if_neg (Nat.not_lt_of_le outside)
  signatureNow _ outside := if_neg (Nat.not_lt_of_le outside)
  indexNow _ outside := if_neg (Nat.not_lt_of_le outside)
  ordered a b older := by
    change ite _ _ _ ≤ ite _ _ _
    by_cases inside : b.index < p.sites.size
    · rw [if_pos inside, if_pos (Nat.lt_of_le_of_lt older inside)]
      exact during.ordered a b older
    · rw [if_neg inside]
      split
      · exact Nat.le_trans (during.site a) bound
      · exact Nat.le_refl _

theorem signatureFits_default (age : Nat) : SignatureFits manner ages p age default where
  typeParameters _ _ held := by cases held
  parameters _ held := by cases held
  returns _ held := by cases held

theorem Program.Fits.advance (fits : p.Fits manner ages now) (during : ages.During now p) :
    p.Fits manner (ages.advance p) p.types.size where
  sites id := by
    by_cases inside : id.index < p.sites.size
    · rw [(ages.agree_advance p).site id inside]
      exact (fits.sites id).carry (Before.refl p) (ages.agree_advance p)
        (Nat.le_trans (during.site id) fits.bound)
    · rw [p.site_of_size_le (Nat.le_of_not_lt inside)]
      exact siteFits_fresh _ _ _ _ _ _ _
  symbols id := by
    by_cases inside : id.index < p.symbols.size
    · rw [(ages.agree_advance p).symbol id inside]
      exact (fits.symbols id).carry (Before.refl p) (ages.agree_advance p)
    · rw [p.symbol_of_size_le (Nat.le_of_not_lt inside)]
      exact symbolFits_undeclared rfl rfl rfl rfl
  types id := (fits.types id).carry (Before.refl p) (ages.agree_advance p)
  signatures id := by
    by_cases inside : id.index < p.signatures.size
    · rw [(ages.agree_advance p).signature id inside]
      exact (fits.signatures id).carry (Before.refl p) (ages.agree_advance p)
    · rw [Program.signature, getD_of_size_le _ (Nat.le_of_not_lt inside)]
      exact signatureFits_default _
  indexes id := by
    by_cases inside : id.index < p.indexes.size
    · rw [(ages.agree_advance p).index id inside]
      exact fits.indexes id
    · rw [Program.indexInfo, getD_of_size_le _ (Nat.le_of_not_lt inside)]
      intro type held
      cases held
  inferred := fits.inferred
  nowhere := fits.nowhere
  founded := Nat.lt_of_lt_of_le fits.founded fits.bound
  bound := Nat.le_refl _

theorem Program.Live.advance (live : p.Live manner ages now) :
    p.Live manner (ages.advance p) p.types.size :=
  ⟨live.toFits.advance live.toDuring, live.toDuring.advance live.bound⟩

theorem keeps_call {call : Call} (live : p.Live manner ages p.types.size) (known : call.Known p)
    (allowed : manner.Allows call p) :
    Keeps manner ages p.types.size p call.step fun _ _ => True := by
  have given : Given p.types.size call.types := by
    intro type member
    exact known.types type (List.mem_append_left _ member)
  have genuine : Genuine manner p.types.size p call.typeParameters := by
    intro disciplined param member
    exact ⟨known.types param (List.mem_append_right _ member),
      (allowed.disciplined disciplined).typeParameters param member⟩
  cases call with
  | literal value => exact keeps_discard (keeps_literal live value)
  | bigintLiteral digits => exact keeps_discard (keeps_bigintLiteral live digits)
  | union types => exact keeps_discard (keeps_union live given)
  | intersection types => exact keeps_discard (keeps_intersection live given)
  | tuple elements => exact keeps_discard (keeps_tuple live given)
  | keyof operand => exact keeps_discard (keeps_keyof live given)
  | indexedAccess objectType indexType => exact keeps_discard (keeps_indexedAccess live given)
  | conditional checkType extendsType trueType falseType =>
      exact keeps_discard (keeps_conditional live given)
  | substitution baseType => exact keeps_discard (keeps_substitution live given)
  | typeParameter name constraint default => exact keeps_discard (keeps_typeParameter live name given)
  | infer name => exact keeps_discard (keeps_infer live name)
  | instantiate generic arguments => exact keeps_discard (keeps_instantiate live given)
  | instantiateAlias aliased arguments => exact keeps_discard (keeps_instantiateAlias live given)
  | interface spec =>
      exact keeps_discard (keeps_interface live given genuine known.signatures)
  | classType spec => exact keeps_discard (keeps_classType live given genuine)
  | addMembers target specs =>
      refine keeps_discard (keeps_addMembers live given genuine ?_)
      rintro disciplined type rfl
      exact (allowed.disciplined disciplined).extended type specs rfl
  | aliasType header aliased typeParameters =>
      exact keeps_discard (keeps_aliasType live header given genuine)
  | enumeration spec => exact keeps_discard (keeps_enumeration live spec)
  | function header spec => exact keeps_discard (keeps_function live header given genuine)
  | functionType spec => exact keeps_discard (keeps_functionType live given genuine)
  | constructorType parameters returns parent fileName =>
      exact keeps_discard (keeps_constructorType live given parent fileName)
  | callSignature spec => exact keeps_discard (keeps_callSignature live given genuine)
  | objectLiteral specs callSignatures stringIndex numberIndex =>
      exact keeps_discard (keeps_objectLiteral live given genuine known.signatures)
  | openMapped key constraint optional => exact keeps_discard (keeps_openMapped live key given optional)
  | closeMapped draft value =>
      exact keeps_discard (keeps_closeMapped live (known.draft draft value rfl) given)
  | variableOf header type initializer => exact keeps_discard (keeps_variableOf live header given)
  | namespaceOf name fileName => exact keeps_discard (keeps_namespaceOf live name fileName)
  | addExport symbol => exact keeps_addExport live symbol
  | defaultExport target doc =>
      refine keeps_discard (keeps_defaultExport live doc ?_)
      rintro symbol rfl
      exact ⟨known.symbols symbol (by simp [Call.symbols]),
        fun nameless => allowed.nameless nameless symbol doc rfl⟩
  | defaultFunction spec doc => exact keeps_discard (keeps_defaultFunction live given doc)
  | writtenType type parent => exact keeps_discard (keeps_writtenType live given parent)

/-- The types that are added one after the other come behind those that are there, and nothing else
changes but the number that was given last. -/
theorem foldl_addType {α : Type} (make : α → TypeInfo) (items : List α) (p q : Program)
    (made : items.foldl (fun p item => (p.addType (make item)).2) p = q) :
    q = { p with lastId := q.lastId, types := q.types } ∧
      q.types.size = p.types.size + items.length ∧
      ∀ id, q.type id = p.type id ∨
        ∃ item ∈ items, ∃ number, q.type id = { make item with id := number } := by
  induction items generalizing p with
  | nil =>
      subst made
      exact ⟨rfl, rfl, fun _ => .inl rfl⟩
  | cons item rest ih =>
      obtain ⟨same, size, types⟩ := ih (p.addType (make item)).2 made
      refine ⟨same, ?_, ?_⟩
      · rw [size, List.length_cons, Program.addType, Program.addNumberedType, Array.size_push,
          Nat.add_assoc, Nat.add_comm 1]
      · intro id
        rcases types id with old | ⟨other, member, number, new⟩
        · rw [old, p.type_addType]
          split
          · exact .inr ⟨item, List.mem_cons_self .., _, rfl⟩
          · exact .inl rfl
        · exact .inr ⟨other, List.mem_cons_of_mem _ member, number, new⟩

def Ages.foundation : Ages := ⟨fun _ => 15, fun _ => 15, fun _ => 15, fun _ => 15⟩

theorem typeFits_intrinsic {item : TypeFlag × String}
    (other : item.1 ≠ .typeParameter ∧ item.1 ≠ .enumLiteral ∧ item.1 ≠ .enum) (i : Nat)
    (number : Int) : TypeFits manner ages p i
      { flags := [item.1], id := number, intrinsicName := some item.2 } := by
  refine typeFits_unnamed ?_ rfl ?_ rfl ?_ ?_
  · refine ⟨rfl, rfl, rfl, rfl, rfl, rfl, ?_, rfl, rfl⟩
    simpa [TypeInfo.isTypeParameter, TypeInfo.hasFlag] using Ne.symm other.1
  · intro flagged
    simpa [TypeInfo.hasFlag, eq_comm] using flagged
  · simpa [TypeInfo.isEnumeration, TypeInfo.hasFlag] using ⟨Ne.symm other.2.1, Ne.symm other.2.2⟩
  · intro part held
    simp [TypeInfo.parts, Slots.slots] at held

theorem live_start (fileName : String) (lastId : Nat) :
    (Program.start fileName lastId).Live manner Ages.foundation
      (Program.start fileName lastId).types.size := by
  unfold Program.start
  dsimp only
  generalize made : List.foldl _ _ _ = q
  obtain ⟨same, size, types⟩ := foldl_addType
    (fun item : TypeFlag × String => { flags := [item.1], intrinsicName := some item.2 }) _ _ q made
  have size : q.types.size = 14 := size
  have symbols : q.symbols = #[{ name := fileName, flags := [.moduleKind], id := (lastId + 1 : Nat) }] := by
    rw [same]
    rfl
  have last : (q.addType
      { flags := [.boolean, .union], intrinsicName := some "boolean",
        types := Slots.of [falseType, trueType] }).2.types.size = 15 := by
    rw [Program.addType, Program.addNumberedType, Array.size_push, size]
  rw [last]
  refine
    { sites := ?_, symbols := ?_, types := ?_, signatures := ?_, indexes := ?_, inferred := ?_, nowhere := ?_,
      founded := by decide, bound := Nat.le_of_eq last.symm, site := fun _ => Nat.le_refl 15,
      symbol := fun _ => Nat.le_refl 15, signature := fun _ => Nat.le_refl 15,
      index := fun _ => Nat.le_refl 15, siteNow := fun _ _ => rfl, symbolNow := fun _ _ => rfl,
      signatureNow := fun _ _ => rfl, indexNow := fun _ _ => rfl,
      ordered := fun _ _ _ => Nat.le_refl 15 }
  · intro id
    have none : q.sites = #[] := by rw [same]; rfl
    change SiteFits _ _ _ _ (q.sites.getD id.index default)
    rw [none, getD_of_size_le _ (Nat.zero_le _)]
    exact siteFits_fresh _ _ _ _ _ _ _
  · intro id
    change SymbolFits _ _ _ (q.symbols.getD id.index default)
    rw [symbols]
    obtain ⟨_ | i⟩ := id <;> exact symbolFits_undeclared rfl rfl rfl rfl
  · intro id
    rw [Program.type_addType]
    split
    · rename_i same
      refine typeFits_unnamed (by constructor <;> rfl) rfl (fun flagged => by cases flagged) rfl rfl ?_
      intro part held
      have older : part = falseType ∨ part = trueType := by
        simpa [TypeInfo.parts, Slots.slots, Slots.of] using held
      rw [same, size]
      rcases older with rfl | rfl <;> decide
    · rcases types id with old | ⟨item, member, number, new⟩
      · rw [old, Program.type_of_size_le _ (Nat.zero_le _)]
        refine typeFits_unnamed (by constructor <;> rfl) rfl (fun flagged => by cases flagged) rfl rfl ?_
        intro part held
        have empty : (default : TypeInfo).parts = List.replicate 10 none := rfl
        rw [empty] at held
        cases (List.mem_replicate.mp held).2
      · rw [new]
        have other : ∀ item ∈ intrinsics, item.1 ≠ .typeParameter ∧ item.1 ≠ .enumLiteral ∧
            item.1 ≠ .enum := by decide
        exact typeFits_intrinsic (other item member) _ _
  · intro id
    have none : q.signatures = #[] := by rw [same]; rfl
    change SignatureFits _ _ _ _ (q.signatures.getD id.index default)
    rw [none, getD_of_size_le _ (Nat.zero_le _)]
    exact signatureFits_default _
  · intro id
    have none : q.indexes = #[] := by rw [same]; rfl
    change IndexFits _ (q.indexes.getD id.index default)
    rw [none, getD_of_size_le _ (Nat.zero_le _)]
    intro type held
    cases held
  · have none : q.inferred = [] := by rw [same]; rfl
    intro type member
    change type ∈ q.inferred at member
    rw [none] at member
    cases member
  · have none : q.answersNowhere = {} := by rw [same]; rfl
    change q.answersNowhere.type = _
    rw [none]

theorem live_of_built (manner : Manner) {allowed : Call → Program → Prop}
    (built : Program.Built allowed p)
    (manners : ∀ call p, allowed call p → manner.Allows call p) :
    ∃ ages, p.Live manner ages p.types.size := by
  induction built with
  | start fileName lastId => exact ⟨_, live_start fileName lastId⟩
  | call call _ known permitted ih =>
      obtain ⟨ages, live⟩ := ih
      have keeps := keeps_call live known (manners call _ permitted)
      exact ⟨_, keeps.live.advance⟩

end TypeAtlas
