import TypeAtlas.Proofs.Builder.Declared
import TypeAtlas.Proofs.Builder.Spared

/-!
Functions and the types written in place keep a program fitting.
-/

namespace TypeAtlas

variable {manner : Manner} {ages : Ages} {now age : Nat} {p q : Program}

namespace Build

open Program

section Steps

variable (live : p.Live manner ages now)
include live

/-- What is called returns nothing when nothing else is given. -/
theorem Given.returning {spec : CallSpec} (given : Given now spec.types) :
    Given now (some (spec.returns.getD voidType) :: spec.parameters.map ParamSpec.type) := by
  intro type member
  rcases List.mem_cons.mp member with same | inside
  · cases same
    cases held : spec.returns with
    | some returns => exact given returns (by simp [CallSpec.types, held])
    | none => exact Nat.lt_trans (by decide) live.founded
  · exact given type (by simp [CallSpec.types, inside])

theorem keeps_function (header : Header) {spec : CallSpec} (given : Given now spec.types)
    (genuine : Genuine manner now p spec.typeParameters) :
    Keeps manner ages now p (function header spec) fun _ _ => True := by
  have suits : Suits .functionDeclaration [.function] := ⟨rfl, by rintro ⟨⟩, by rintro ⟨⟩, by decide⟩
  refine keeps_bind (keeps_declare live suits _ _ _) ?_
  rintro ⟨symbol, site⟩ q live before declared
  refine keeps_bind (keeps_valueDeclaration live declared rfl) ?_
  intro _ r live next _
  have before := before.trans next
  have declared := declared.stay next
  refine keeps_bind (keeps_callable live declared ⟨rfl, by decide, rfl, rfl⟩ (given.returning live)
    (genuine.stay before)) ?_
  intro type s live next _
  have declared := declared.stay next
  refine keeps_bind (keeps_bindSymbol live ?_) ?_
  · rw [Symbol.hasFlag, declared.flags]
    rintro ⟨⟩
  intro _ t live _ _
  refine keeps_bind (keeps_exportIf live header.exported symbol) ?_
  intro _ u live _ _
  exact keeps_pure live trivial

theorem keeps_functionType {spec : CallSpec} (given : Given now spec.types)
    (genuine : Genuine manner now p spec.typeParameters) :
    Keeps manner ages now p (functionType spec) fun _ _ => True := by
  have suits : Suits .functionType [.typeLiteral] := ⟨rfl, nofun, nofun, by decide⟩
  refine keeps_bind (keeps_declare live suits _ _ _) ?_
  rintro ⟨symbol, site⟩ q live before declared
  exact keeps_callable live declared ⟨rfl, by decide, rfl, rfl⟩ (given.returning live)
    (genuine.stay before)

theorem keeps_constructorType {parameters : List ParamSpec} {returns : Option TypeId}
    (given : Given now (returns :: parameters.map ParamSpec.type)) (parent : Option SiteId)
    (fileName : Option String) :
    Keeps manner ages now p (constructorType parameters returns parent fileName) fun _ _ => True := by
  have suits : Suits .constructorType [.typeLiteral] := ⟨rfl, nofun, nofun, by decide⟩
  refine keeps_bind (keeps_declare live suits _ _ _) ?_
  rintro ⟨symbol, site⟩ q live - declared
  have finish {r : Program} (live : r.Live manner ages now) (next : q.Before r) :
      Keeps manner ages now r (do
        let params ← addParameters site parameters
        let signature ← newSignature
          { declaration := some site, parameters := Slots.of params, returns }
        bindSignature site signature
        let type ← newType
          { flags := [.object], objectFlags := [.anonymous], symbol := some symbol,
            constructSignatures := Slots.of [signature] }
        bindSite site type
        pure type) fun _ _ => True := by
    have declared := declared.stay next
    refine keeps_bind (keeps_addParameters live site (given.mono (by simp))) ?_
    intro params s live next made
    have declared := declared.stay next
    refine keeps_bind (keeps_newSignature live
      (signatureFits_of made given.head (fun _ _ none => by cases none))) ?_
    intro signature t live next by_
    have declared := declared.stay next
    refine keeps_bind (keeps_bindSignature live (by rwa [declared.siteAge])) ?_
    intro _ u live next _
    have declared := declared.stay next
    refine keeps_bind (keeps_newType live fun id => typeFits_simple (by constructor <;> rfl)
      (by simp [TypeInfo.parts, Slots.slots]) ?_ nofun nofun fun _ held => by cases held) ?_
    · intro other held
      cases held
      exact Declared.structural live declared ⟨rfl, by decide, rfl, rfl⟩
    intro type v live next _
    have declared := declared.stay next
    refine keeps_bind (keeps_answer live (by rw [declared.kind]; rfl)
      (by rw [declared.kind]; decide)) ?_
    intro _ w live _ _
    exact keeps_pure live trivial
  dsimp only
  split
  · refine keeps_bind (keeps_arrange live rfl) ?_
    intro _ r live next _
    exact finish live next
  · exact finish live (Before.refl q)

theorem keeps_callSignature {spec : CallSpec} (given : Given now spec.types)
    (genuine : Genuine manner now p spec.typeParameters) :
    Keeps manner ages now p (callSignature spec) fun _ _ => True := by
  refine keeps_bind (keeps_newSite live (siteFits_fresh _ _ _ _ _ _ _)) ?_
  rintro site q live before ⟨-, age, -, -⟩
  have given := given.returning live
  refine keeps_bind (keeps_addParameters live site (given.mono (by simp))) ?_
  intro params r live next made
  refine keeps_bind (keeps_newSignature live
    (signatureFits_of made given.head (genuine.stay (before.trans next)))) ?_
  intro signature s live _ by_
  refine keeps_bind (keeps_bindSignature live (by rwa [age])) ?_
  intro _ t live _ _
  exact keeps_pure live trivial

theorem keeps_objectLiteral {specs : Table String MemberSpec}
    {callSignatures : List (Option SignatureId)} {stringIndex numberIndex : Option IndexSpec}
    (given : Given now (IndexSpec.typeOf stringIndex :: IndexSpec.typeOf numberIndex ::
      memberTypes specs))
    (genuine : Genuine manner now p (memberParameters specs))
    (signatures : ∀ signature, some signature ∈ callSignatures →
      signature.index < p.signatures.size) :
    Keeps manner ages now p (objectLiteral specs callSignatures stringIndex numberIndex)
      fun _ _ => True := by
  have suits : Suits .typeLiteral [.typeLiteral] := ⟨rfl, nofun, nofun, by decide⟩
  refine keeps_bind (keeps_declare live suits _ _ _) ?_
  rintro ⟨symbol, site⟩ q live before declared
  refine keeps_bind (keeps_newType live fun id => typeFits_simple (by constructor <;> rfl)
    (by simp [TypeInfo.parts, Slots.slots]) ?_ nofun nofun fun _ held => by cases held) ?_
  · intro other held
    cases held
    exact Declared.structural live declared ⟨rfl, by decide, rfl, rfl⟩
  rintro type r live next ⟨-, new, -⟩
  have before := before.trans next
  have declared := declared.stay next
  refine keeps_bind (keeps_populate live new site (Or.inl rfl) given (genuine.stay before)
    (Or.inl rfl)) ?_
  intro _ s live next _
  have before := before.trans next
  have declared := declared.stay next
  refine keeps_bind (keeps_setType live ⟨rfl, rfl, rfl⟩
    { live.types type with
      calls := fun signature held =>
        ⟨Nat.lt_of_lt_of_le (signatures signature held) before.signatures,
          Nat.le_trans (live.signature signature) new⟩ }) ?_
  intro _ t live next _
  have declared := declared.stay next
  refine keeps_bind (keeps_answer live (by rw [declared.kind]; rfl)
    (by rw [declared.kind]; decide)) ?_
  intro _ u live _ _
  exact keeps_pure live trivial

theorem keeps_openMapped (key : String) {constraint : Option TypeId} (given : Given now [constraint])
    (optional : Bool) :
    Keeps manner ages now p (openMapped key constraint optional) fun _ _ => True := by
  have suits : Suits .mappedType [.typeLiteral] := ⟨rfl, nofun, nofun, by decide⟩
  refine keeps_bind (keeps_declare live suits _ _ _) ?_
  rintro ⟨symbol, site⟩ q live - declared
  refine keeps_bind (keeps_arrange live rfl) ?_
  intro _ r live next _
  have declared := declared.stay next
  have given : Given now [constraint, none] := by
    intro type member
    exact given type (by simpa using member)
  refine keeps_bind (keeps_typeParameter live key given) ?_
  intro keyType s live next _
  have declared := declared.stay next
  refine keeps_ask_bind live fun place _ => ?_
  refine keeps_lift_bind live fun keySite _ => ?_
  refine keeps_bind (keeps_arrange live rfl) ?_
  intro _ t live next _
  have declared := declared.stay next
  refine keeps_bind (keeps_setSite live ⟨rfl, rfl, fun _ _ held => held⟩
    { live.sites site with
      inferredAt := by
        intro infer
        change (t.site site).kind = .inferType at infer
        rw [declared.kind] at infer
        cases infer }) ?_
  intro _ u live _ _
  exact keeps_pure live trivial

theorem keeps_closeMapped {draft : MappedDraft} (isOpen : draft.Open p) {value : Option TypeId}
    (given : Given now [value]) :
    Keeps manner ages now p (closeMapped draft value) fun _ _ => True := by
  have inside : draft.site.index < p.sites.size := by
    refine Nat.lt_of_not_le fun outside => ?_
    have kind := isOpen.kind
    rw [p.site_of_size_le outside] at kind
    cases kind
  have there : draft.symbol.index < p.symbols.size := by
    refine Nat.lt_of_not_le fun outside => ?_
    have flags := isOpen.structural
    rw [p.symbol_of_size_le outside] at flags
    cases flags
  have keyThere : draft.key.index < p.types.size := by
    refine Nat.lt_of_not_le fun outside => ?_
    have flags := isOpen.key
    rw [p.type_of_size_le outside] at flags
    cases flags
  have keyParameter : (p.type draft.key).isTypeParameter = true := by
    rw [TypeInfo.isTypeParameter, TypeInfo.hasFlag, isOpen.key]
    rfl
  -- the place is still empty when the value has been written
  have writes : Keeps manner ages now p (writtenType value draft.site) fun q site =>
      ages.WrittenBy q now site ∧ q.site draft.site = p.site draft.site := by
    have keeps := keeps_writtenType live given (some draft.site)
    refine ⟨keeps.live, keeps.before, ?_⟩
    intro site after ran
    refine ⟨keeps.result site after ran, ?_⟩
    have same := site_writtenType value (some draft.site) inside
    rwa [ran] at same
  refine keeps_bind writes ?_
  rintro written q live before ⟨by_, same⟩
  have kind : (q.site draft.site).kind = .mappedType := by rw [same]; exact isOpen.kind
  have empty : (q.site draft.site).type = none := by rw [same]; exact isOpen.empty
  refine keeps_bind (keeps_setSite live ⟨rfl, rfl, ?_⟩
    ((live.sites draft.site).withType fun other => absurd kind other)) ?_
  · intro _ other held
    rw [empty] at held
    cases held
  intro _ r live next set
  have place := set (Nat.lt_of_lt_of_le inside before.sites)
  have whole := before.trans next
  have flags : (r.symbol draft.symbol).flags = [.typeLiteral] := by
    rw [(whole.symbol _ there).flags]
    exact isOpen.structural
  have literal : (p.symbol draft.symbol).hasFlag .typeLiteral = true := by
    rw [Symbol.hasFlag, isOpen.structural]
    rfl
  have first : (r.symbol draft.symbol).declarations.first? = some draft.site := by
    apply (whole.symbol _ there).first literal
    rw [isOpen.declared]
    rfl
  refine keeps_bind (keeps_newType live fun id => ?_) ?_
  · exact
      { parts := fun part member => by
          have same : part = draft.key := by simpa [TypeInfo.parts, Slots.slots] using member
          rw [same]
          exact Nat.lt_of_lt_of_le keyThere whole.types
        aliasArguments := fun _ _ held => by cases held
        symbol := fun symbol held => by
          cases held
          refine ⟨⟨Nat.lt_of_lt_of_le there whole.symbols, ?_⟩, by rw [Symbol.hasFlag, flags]; rfl⟩
          exact Nat.le_trans (live.symbol _) live.bound
        nominal := by rintro ⟨⟩
        declared := fun symbol held nominal => by
          cases held
          rw [Symbol.isNominal, Symbol.hasFlag, Symbol.hasFlag, flags] at nominal
          cases nominal
        keyof := by rintro ⟨⟩
        index := by rintro ⟨⟩
        parameter := by rintro ⟨⟩
        aliased := fun _ held => by cases held
        enumerated := by rintro ⟨⟩
        members := fun _ held => by cases held
        properties := fun _ _ _ held => by cases held
        calls := fun _ held => by cases held
        indexes := fun _ held => by rcases held with held | held <;> cases held
        typeParameters := fun _ => rfl
        mapped := fun _ => by
          refine ⟨draft.symbol, draft.site, written, draft.key, rfl, ?_, first, ?_, ?_, ?_, rfl,
            whole.isTypeParameter keyParameter⟩
          · rw [Symbol.hasFlag, flags]
            rfl
          · rw [place]
            exact kind
          · rw [place]
          · obtain ⟨⟨there, age⟩, isWritten⟩ := next.writtenBy by_
            exact ⟨⟨there, Nat.le_trans age live.bound⟩, isWritten⟩ }
  intro type s live next _
  have kind : (s.site draft.site).kind = .mappedType := by
    rw [(next.site_of_kind (by rw [place]; change (q.site draft.site).kind ≠ _; rw [kind]; decide)).kind,
      place]
    exact kind
  refine keeps_bind (keeps_answer live (by rw [kind]; rfl) (by rw [kind]; decide)) ?_
  intro _ t live _ _
  exact keeps_pure live trivial

end Steps

end Build

end TypeAtlas
