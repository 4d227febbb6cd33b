import TypeAtlas.Proofs.Builder.Stemming

/-!
The number of a member. However a program is built, a property is known by the number of the declared
member that it stems from, whatever instantiations and bases it came through.
-/

namespace TypeAtlas

open Build Program

variable {p : Program}

theorem traced_call (traced : p.Traced) (call : Call) :
    tracing.Keeps p call.step fun _ _ => True := by
  have calm {α : Type} {step : Build α} (quiet : Quietly p step fun _ _ => True) :
      tracing.Keeps p (Functor.discard step) fun _ _ => True :=
    Course.discard (quiet.traces traced)
  cases call with
  | literal value => exact calm (quietly_literal value)
  | bigintLiteral digits => exact calm (quietly_cached (.bigint digits) rfl)
  | union types | intersection types | keyof operand | indexedAccess objectType indexType
  | conditional checkType extendsType trueType falseType | substitution baseType =>
      exact calm (quietly_newType rfl)
  | tuple elements => exact calm (quietly_tuple elements)
  | typeParameter name constraint default => exact calm (quietly_typeParameter name constraint default)
  | infer name => exact calm (quietly_infer name)
  | instantiate generic arguments => exact Course.discard (traced_instantiate traced generic arguments)
  | instantiateAlias aliased arguments =>
      exact Course.discard (traced_instantiateAlias traced aliased arguments)
  | interface spec => exact Course.discard (traced_interface traced spec)
  | classType spec => exact Course.discard (traced_classType traced spec)
  | addMembers target specs => exact Course.discard (traced_addMembers traced target specs)
  | aliasType header aliased typeParameters =>
      exact calm (quietly_aliasType header aliased typeParameters)
  | enumeration spec => exact calm (quietly_enumeration spec)
  | function header spec => exact calm (quietly_function header spec)
  | functionType spec => exact calm (quietly_functionType spec)
  | constructorType parameters returns parent fileName =>
      exact calm (quietly_constructorType parameters returns parent fileName)
  | callSignature spec => exact calm (quietly_callSignature spec)
  | objectLiteral specs callSignatures stringIndex numberIndex =>
      exact Course.discard (traced_objectLiteral traced specs callSignatures stringIndex numberIndex)
  | openMapped key constraint optional => exact calm (quietly_openMapped key constraint optional)
  | closeMapped draft value => exact calm (quietly_closeMapped draft value)
  | variableOf header type initializer => exact calm (quietly_variableOf header type initializer)
  | namespaceOf name fileName => exact calm (quietly_namespaceOf name fileName)
  | addExport symbol =>
      exact ((quietly_addExport symbol).traces traced).weaken fun _ _ _ _ _ => trivial
  | defaultExport target doc => exact calm (quietly_defaultExport target doc)
  | defaultFunction spec doc => exact calm (quietly_defaultFunction spec doc)
  | writtenType type parent => exact calm (quietly_writtenType type parent)

theorem traced_start (fileName : String) (lastId : Nat) : (start fileName lastId).Traced := by
  have empty (p : Program) (symbols : p.symbols = #[]) (types : p.types = #[]) : p.Traced := by
    have none (id : SymbolId) : ¬ id.index < p.symbols.size := by
      rw [symbols]
      exact Nat.not_lt_zero _
    refine ⟨fun type slot held => ?_, fun id inside => absurd inside (none id),
      fun _ b _ inside => absurd inside (none b)⟩
    rw [p.type_of_size_le (by rw [types]; exact Nat.zero_le _)] at held
    cases held
  have plain (t : TypeInfo) (empty : t.properties.slots = []) {p : Program} (traced : p.Traced) :
      (p.addType t).2.Traced := by
    apply traced.addType
    intro slot held
    rw [empty] at held
    cases held
  have grown (items : List (TypeFlag × String)) (p : Program) (traced : p.Traced) :
      (items.foldl (fun p item =>
        (p.addType { flags := [item.1], intrinsicName := some item.2 }).2) p).Traced := by
    induction items generalizing p with
    | nil => exact traced
    | cons item rest ih => exact ih _ (plain _ rfl traced)
  apply plain _ rfl
  apply grown
  exact (empty _ rfl rfl).later ((Carries.refl _).addSymbol _)

theorem traced_takes (traced : p.Traced) (calls : List Call) : (p.takes calls).Traced := by
  induction calls generalizing p with
  | nil => exact traced
  | cons call rest ih => exact ih ((traced_call traced call).after rfl)

namespace Program

/-- A member that a type shows. -/
def Visible (p : Program) (member : SymbolId) : Prop :=
  ∃ type, some member ∈ (p.type type).properties.slots

theorem Traced.rooted (traced : p.Traced) {member : SymbolId} (visible : p.Visible member) :
    ∃ declared, p.Rooted member declared := by
  obtain ⟨type, held⟩ := visible
  obtain ⟨same, declared, isSame, rooted⟩ := traced.properties type _ held
  cases isSame
  exact ⟨declared, rooted⟩

/-- The numbers of two members are the same when they stem from one member, since no other symbol has
the number of that one. -/
theorem Traced.memberId_eq_iff (traced : p.Traced) {a b : SymbolId} (visibleA : p.Visible a)
    (visibleB : p.Visible b) :
    p.memberId a = p.memberId b ↔ ∃ declared, p.Stems a declared ∧ p.Stems b declared := by
  obtain ⟨declaredA, rootedA⟩ := traced.rooted visibleA
  obtain ⟨declaredB, rootedB⟩ := traced.rooted visibleB
  rw [rootedA.memberId_eq, rootedB.memberId_eq]
  constructor
  · intro same
    have one := traced.ascending.eq_of_id rootedA.declared_inside rootedB.declared_inside same
    subst one
    exact ⟨declaredA, rootedA.stems, rootedB.stems⟩
  · rintro ⟨declared, stemsA, stemsB⟩
    rw [stemsA.unique rootedA.stems] at stemsB
    rw [stemsB.unique rootedB.stems]

/-- Every property of a type is there, its chain of targets ends, and its number is that of the symbol
at its first declaration; so two members have one number if and only if they stem from one declared
member. -/
theorem memberId_exact (fileName : String) (lastId : Nat) (calls : List Call) :
    let p := (start fileName lastId).takes calls
    (∀ type, ∀ slot ∈ (p.type type).properties.slots, ∃ member declared site, slot = some member ∧
      p.Stems member declared ∧ p.firstDeclaration (some member) = some site ∧
      (p.site site).symbol = some declared ∧ p.memberId member = (p.symbol declared).id) ∧
    ∀ a b, p.Visible a → p.Visible b →
      (p.memberId a = p.memberId b ↔ ∃ declared, p.Stems a declared ∧ p.Stems b declared) := by
  have traced := traced_takes (traced_start fileName lastId) calls
  constructor
  · intro type slot held
    obtain ⟨member, declared, same, rooted⟩ := traced.properties type slot held
    obtain ⟨site, first, stands⟩ := rooted.first
    exact ⟨member, declared, site, same, rooted.stems, first, stands, rooted.memberId_eq⟩
  · intro a b visibleA visibleB
    exact traced.memberId_eq_iff visibleA visibleB

/-- A generic box, a type that inherits the value of a box of text, a copy of that type, and a second
member that is added to the box afterwards. -/
def boxCalls : List Call :=
  [.typeParameter "T" none none,
   .interface
     { header := { name := "Box" }, members := [("value", .plain (some ⟨15⟩))],
       typeParameters := [some ⟨15⟩] },
   .instantiate (some ⟨16⟩) [some stringType],
   .interface
     { header := { name := "Label" }, bases := [some ⟨17⟩], typeParameters := [some ⟨15⟩] },
   .instantiate (some ⟨18⟩) [some numberType],
   .addMembers (some ⟨16⟩) [("note", .plain (some stringType))]]

def boxProgram : Program := (start "src/index.ts").takes boxCalls

/-- The value of the last copy is that of the box, two instantiations away, and not the added member. -/
theorem memberId_box :
    boxProgram.memberId ⟨6⟩ = boxProgram.memberId ⟨3⟩ ∧
      boxProgram.memberId ⟨7⟩ ≠ boxProgram.memberId ⟨6⟩ := by
  obtain ⟨-, known⟩ := memberId_exact "src/index.ts" 0 boxCalls
  have declared : boxProgram.Visible ⟨3⟩ := ⟨⟨16⟩, by decide +kernel⟩
  have added : boxProgram.Visible ⟨7⟩ := ⟨⟨16⟩, by decide +kernel⟩
  have copied : boxProgram.Visible ⟨6⟩ := ⟨⟨19⟩, by decide +kernel⟩
  have itself : boxProgram.Stems ⟨3⟩ ⟨3⟩ := .declared (by decide +kernel)
  have inherited : boxProgram.Stems ⟨4⟩ ⟨3⟩ := .instantiated (by decide +kernel) itself
  have chain : boxProgram.Stems ⟨6⟩ ⟨3⟩ := .instantiated (by decide +kernel) inherited
  have other : boxProgram.Stems ⟨7⟩ ⟨7⟩ := .declared (by decide +kernel)
  constructor
  · exact (known ⟨6⟩ ⟨3⟩ copied declared).mpr ⟨⟨3⟩, chain, itself⟩
  · intro same
    obtain ⟨root, fromAdded, fromCopied⟩ := (known ⟨7⟩ ⟨6⟩ added copied).mp same
    have apart := (fromAdded.unique other).symm.trans (fromCopied.unique chain)
    cases apart

end Program

end TypeAtlas
