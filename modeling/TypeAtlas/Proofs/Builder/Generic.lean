import TypeAtlas.Proofs.Builder.Composite
import TypeAtlas.Proofs.Gather

/-!
Type parameters and instantiations keep a program fitting. Whatever a type parameter stands for was
there before the instantiation, and so was everything that is written at the parameter.
-/

namespace TypeAtlas

variable {manner : Manner} {ages : Ages} {now age : Nat} {p q : Program}

namespace Build

open Program

theorem answer_of_typeAt {site : SiteId} {type : Option TypeId}
    (asked : p.typeAt (some site) = .ok type) : (p.site site).answers.type = some type := by
  rw [typeAt, recordedType] at asked
  cases held : (p.siteAnswers (some site)).type with
  | none =>
      rw [held] at asked
      cases asked
  | some answer =>
      rw [held] at asked
      cases asked
      exact held

section Steps

variable (live : p.Live manner ages now)
include live

theorem typeFits_parameter {name : String} {symbol : SymbolId} {site : SiteId}
    (declared : Declared ages now .typeParameter name [.typeParameter] p symbol site)
    {constraint : Option TypeId} (given : Given now [constraint]) (id : Int) :
    TypeFits manner ages p p.types.size
      { flags := [.typeParameter], symbol := some symbol, constraint, id } where
  parts part member := given.older live (by simpa [TypeInfo.parts, Slots.slots] using member)
  aliasArguments _ _ held := by cases held
  symbol other held := by
    cases held
    refine ⟨⟨declared.symbolThere, ?_⟩, by rw [Symbol.hasFlag, declared.flags]; rfl⟩
    rw [declared.symbolAge]
    exact live.bound
  nominal flagged := by cases flagged
  declared other held flagged := by
    cases held
    rw [Symbol.isNominal, Symbol.hasFlag, Symbol.hasFlag, declared.flags] at flagged
    cases flagged
  keyof flagged := by cases flagged
  index flagged := by cases flagged
  parameter _ := ⟨rfl, symbol, rfl, by rw [Symbol.hasFlag, declared.flags]; rfl⟩
  aliased _ held := by cases held
  enumerated flagged := by cases flagged
  members _ held := by cases held
  properties _ _ _ held := by cases held
  calls _ held := by cases held
  indexes _ held := by rcases held with held | held <;> cases held
  typeParameters _ := rfl
  mapped flagged := by cases flagged

theorem keeps_typeParameter (name : String) {constraint default : Option TypeId}
    (given : Given now [constraint, default]) :
    Keeps manner ages now p (typeParameter name constraint default) fun q type =>
      (q.type type).isTypeParameter = true := by
  have givenConstraint : Given now [constraint] := given.head
  have givenDefault : Given now [default] := given.mono (by simp)
  have suits : Suits .typeParameter [.typeParameter] := ⟨rfl, fun _ => rfl, by rintro ⟨⟩, by decide⟩
  refine keeps_bind (keeps_declare live suits _ _ _) ?_
  rintro ⟨symbol, site⟩ q live - declared
  refine keeps_bind (keeps_arrange live rfl) ?_
  intro _ r live before _
  have declared := declared.stay before
  refine keeps_bind (keeps_newType live (typeFits_parameter live declared givenConstraint)) ?_
  rintro type t live before ⟨there, -, made⟩
  have declared := declared.stay before
  have parameter : (t.type type).isTypeParameter = true := by rw [made]; rfl
  -- the end, once the bounds are written
  have finish {u : Program} (live : u.Live manner ages now) (before : t.Before u) :
      Keeps manner ages now u (do
        bindDeclared symbol type
        bindSite site type
        pure type) fun v type => (v.type type).isTypeParameter = true := by
    have declared := declared.stay before
    refine keeps_bind (keeps_bindDeclared live ?_ ?_ (fun _ => before.isTypeParameter parameter)
      ?_) ?_
    · rw [Symbol.hasFlag, declared.flags]
      rintro ⟨⟩
    · rw [Symbol.isNominal, Symbol.hasFlag, Symbol.hasFlag, declared.flags]
      rintro ⟨⟩
    · simp only [Symbol.isTypeSymbol, Symbol.isNominal, Symbol.hasFlag, declared.flags]
      rintro ⟨⟩
    · intro _ v live after _
      have declared := declared.stay after
      refine keeps_bind (keeps_answer live (by rw [declared.kind]; rfl)
        (by rw [declared.kind]; decide)) ?_
      intro _ x live last _
      exact keeps_pure live (last.isTypeParameter (after.isTypeParameter
        (before.isTypeParameter parameter)))
  have fallback {u : Program} (live : u.Live manner ages now) (before : t.Before u) :
      Keeps manner ages now u (writingDefault default site do
        bindDeclared symbol type
        bindSite site type
        pure type) fun v type => (v.type type).isTypeParameter = true := by
    cases default with
    | none => exact finish live before
    | some fallback =>
        refine keeps_bind (keeps_writtenType live givenDefault _) ?_
        intro written v live after made
        have declared := declared.stay (before.trans after)
        refine keeps_bind (keeps_setSite live ⟨rfl, rfl, fun _ _ held => held⟩
          { live.sites site with
            default := by
              intro child held
              cases held
              rwa [declared.siteAge] }) ?_
        intro _ x live last _
        exact finish live (before.trans (after.trans last))
  cases constraint with
  | none => exact fallback live (Before.refl t)
  | some bound =>
      refine keeps_bind (keeps_writtenType live givenConstraint _) ?_
      intro written v live after made
      have declared := declared.stay after
      refine keeps_bind (keeps_setSite live ⟨rfl, rfl, fun _ _ held => held⟩
        { live.sites site with
          constraint := by
            intro child held
            cases held
            rwa [declared.siteAge] }) ?_
      intro _ x live last _
      exact fallback live (after.trans last)

theorem keeps_infer (name : String) : Keeps manner ages now p (infer name) fun _ _ => True := by
  have given : Given now [none, none] := by
    intro type member
    simp at member
  refine keeps_bind (keeps_typeParameter live name given) ?_
  intro type q live _ parameter
  refine keeps_bind (keeps_modify live rfl rfl rfl rfl rfl ?_ rfl) ?_
  · intro other member
    rcases List.mem_append.mp member with old | new
    · exact live.inferred other old
    · rw [List.mem_singleton] at new
      rw [new]
      exact parameter
  · intro _ r live _ _
    exact keeps_pure live trivial

theorem keeps_fillDefaults (params : List (Option TypeId)) :
    Keeps manner ages now p (fillDefaults params) fun _ types => Given now types := by
  induction params generalizing p with
  | nil => exact keeps_pure live nofun
  | cons param rest ih =>
      unfold fillDefaults
      refine keeps_ask_bind live fun declared _ => ?_
      refine keeps_lift_bind live fun site _ => ?_
      apply keeps_get_bind
      split
      · exact keeps_pure live nofun
      · rename_i fallback held
        refine keeps_ask_bind live fun type asked => ?_
        refine keeps_bind (ih live) ?_
        intro others r liveR _ given
        apply keeps_pure liveR
        intro other member
        rcases List.mem_cons.mp member with same | later
        · have written := (live.sites site).default fallback held
          have answer := answer_of_typeAt asked
          rw [← same] at answer
          exact Nat.lt_of_lt_of_le ((live.sites fallback).denotes written.2 other answer)
            (live.site fallback)
        · exact given other later

theorem keeps_withDefaults (params : List (Option TypeId)) {arguments : List (Option TypeId)}
    (given : Given now arguments) :
    Keeps manner ages now p (withDefaults params arguments) fun _ types => Given now types := by
  refine keeps_bind (keeps_fillDefaults live _) ?_
  intro filled q live _ others
  apply keeps_pure live
  intro type member
  rcases List.mem_append.mp member with own | default
  · exact given type own
  · exact others type default

theorem keeps_instantiateMember {mapping : Mapping} (given : ∀ key type,
    Table.get? mapping key = some (some type) → type.index < now) {member : Option SymbolId}
    (known : ∀ symbol, member = some symbol → (p.symbol symbol).isMember = true) :
    Keeps manner ages now p (instantiateMember mapping member) fun q symbol =>
      ages.SymbolBy q now symbol ∧ (q.symbol symbol).isMember = true := by
  apply keeps_get_bind
  refine keeps_lift_bind live fun id found => ?_
  obtain rfl : member = some id := of_present found
  have fits := live.symbols id
  have older : ages.symbol id ≤ now := live.symbol id
  refine keeps_bind (keeps_newSymbol live fun _ => ?_) ?_
  · exact
      { first := fun place held =>
          ⟨⟨(fits.first place held).1.1, Nat.le_trans (fits.first place held).1.2 older⟩,
            (fits.first place held).2⟩
        parameter := fits.parameter
        member := fits.member
        place := fun place held =>
          ⟨⟨(fits.place place held).1.1, Nat.le_trans (fits.place place held).1.2 older⟩,
            (fits.place place held).2⟩
        titled := fits.titled
        value := fun _ _ held => by cases held
        aliased := fun _ _ held => by cases held
        nominal := fun _ _ held => by cases held
        parameterType := fun _ _ held => by cases held
        declares := fun _ _ held => by cases held }
  · rintro symbol q liveQ before ⟨there, made, same⟩
    have member : (q.symbol symbol).isMember = true := by
      rw [same]
      exact known id rfl
    have finish {r : Program} (liveR : r.Live manner ages now) (after : q.Before r) :
        Keeps manner ages now r (pure symbol) fun r symbol =>
          ages.SymbolBy r now symbol ∧ (r.symbol symbol).isMember = true := by
      refine keeps_pure liveR ⟨after.symbolBy ⟨there, Nat.le_of_eq made⟩, ?_⟩
      rw [(after.symbol symbol there).isMember]
      exact member
    dsimp only
    split
    · rename_i type held
      refine keeps_bind (keeps_bindSymbol liveQ ?_) fun _ r liveR after _ => finish liveR after
      intro flagged value answer
      rw [same] at flagged
      rw [made]
      cases mapped : Table.get? mapping (some type) with
      | none =>
          rw [mapped] at answer
          cases answer
          exact Nat.lt_of_lt_of_le (fits.value flagged _ held) older
      | some stands =>
          rw [mapped] at answer
          cases answer
          exact given _ _ mapped
    · exact finish liveQ (Before.refl q)

theorem keeps_instantiateIndex {mapping : Mapping} (given : ∀ key type,
    Table.get? mapping key = some (some type) → type.index < now) {index : Option IndexId}
    (known : ∀ id, index = some id → ages.IndexBy p now id) :
    Keeps manner ages now p (instantiateIndex mapping index) fun q made =>
      ∀ id, made = some id → ages.IndexBy q now id := by
  cases index with
  | none => exact keeps_pure live nofun
  | some id =>
      apply keeps_get_bind
      dsimp only
      split
      · apply keeps_pure live
        rintro other same
        cases same
        exact known id rfl
      · rename_i type mapped
        have fits : IndexFits now { p.indexInfo id with type } := by
          intro other held
          change type = some other at held
          rw [held] at mapped
          exact given _ other mapped
        refine keeps_map _ (keeps_newIndexInfo live fits) ?_
        rintro q made by_ other same
        cases same
        exact by_

theorem keeps_instantiate {generic : Option TypeId} {arguments : List (Option TypeId)}
    (given : Given now (generic :: arguments)) :
    Keeps manner ages now p (instantiate generic arguments) fun _ _ => True := by
  refine keeps_lift_bind live fun target found => ?_
  obtain rfl : generic = some target := of_present found
  have older : target.index < now := given.head.of_some
  have fits := live.types target
  apply keeps_get_bind
  refine keeps_bind (keeps_withDefaults live _ (given.mono (by simp))) ?_
  intro arguments q live before given
  have mapped (key : Option TypeId) (type : TypeId)
      (held : Table.get? (Table.ofPairs ((p.type target).typeParameters.slots.zip arguments)) key =
        some (some type)) : type.index < now :=
    given type (List.of_mem_zip (Table.mem_of_get?_ofPairs held)).2
  refine keeps_lift_bind live fun members listed => ?_
  have stable (q r : Program) (symbol : SymbolId) (before : q.Before r)
      (known : ages.SymbolBy q now symbol ∧ (q.symbol symbol).isMember = true) :
      ages.SymbolBy r now symbol ∧ (r.symbol symbol).isMember = true := by
    refine ⟨before.symbolBy known.1, ?_⟩
    rw [(before.symbol symbol known.1.1).isMember]
    exact known.2
  refine keeps_bind (keeps_mapM stable live fun member inList r live after =>
    keeps_instantiateMember live mapped fun symbol same => ?_) ?_
  · subst same
    rw [← slots_of_each listed] at inList
    have known := fits.members symbol inList
    rw [((before.trans after).symbol_of_isMember known).isMember]
    exact known
  intro properties r live after made
  refine keeps_lift_bind live fun calls called => ?_
  have indexed {s : Program} (before : p.Before s) (id : IndexId)
      (held : (p.type target).stringIndex = some id ∨ (p.type target).numberIndex = some id) :
      ages.IndexBy s now id := by
    obtain ⟨there, age⟩ := before.indexBy (fits.indexes id held)
    exact ⟨there, Nat.le_trans age (Nat.le_of_lt older)⟩
  refine keeps_bind (keeps_instantiateIndex live mapped fun id held =>
    indexed (before.trans after) id (Or.inl held)) ?_
  intro stringIndex s live afterString string
  refine keeps_bind (keeps_instantiateIndex live mapped fun id held =>
    indexed ((before.trans after).trans afterString) id (Or.inr held)) ?_
  intro numberIndex t live afterNumber number
  have last := (before.trans after).trans (afterString.trans afterNumber)
  have fitsNow := fits.stay last
  have bound := live.bound
  refine (keeps_newType live fun id => ?_).weaken fun _ _ _ _ => trivial
  exact
    { parts := fun part member =>
        given.older live (by simpa [TypeInfo.parts, Slots.slots] using member)
      aliasArguments := fun _ _ held => by cases held
      symbol := fun symbol held => by
        obtain ⟨⟨there, age⟩, plain⟩ := fitsNow.symbol symbol held
        exact ⟨⟨there, Nat.le_trans age (Nat.le_of_lt (Nat.lt_of_lt_of_le older bound))⟩, plain⟩
      nominal := nofun
      declared := fun _ _ _ => ⟨rfl, Or.inr rfl⟩
      keyof := nofun
      index := nofun
      parameter := nofun
      aliased := fun _ held => by cases held
      enumerated := nofun
      members := fun member held => by
        obtain ⟨symbol, inList, same⟩ := List.mem_map.mp held
        rw [Option.some_inj] at same
        subst same
        exact (stable r t symbol (afterString.trans afterNumber) (made symbol inList)).2
      properties := fun _ _ member held => by
        obtain ⟨symbol, inList, same⟩ := List.mem_map.mp held
        rw [Option.some_inj] at same
        subst same
        have by_ := (stable r t symbol (afterString.trans afterNumber) (made symbol inList)).1
        exact ⟨by_.1, Nat.le_trans by_.2 bound⟩
      calls := fun signature held => by
        change some signature ∈ calls at held
        rw [← slots_of_each called] at held
        obtain ⟨there, age⟩ := fitsNow.calls signature held
        exact ⟨there, Nat.le_trans age (Nat.le_of_lt (Nat.lt_of_lt_of_le older bound))⟩
      indexes := fun id held => by
        rcases held with held | held
        · obtain ⟨there, age⟩ := afterNumber.indexBy (string id held)
          exact ⟨there, Nat.le_trans age bound⟩
        · obtain ⟨there, age⟩ := number id held
          exact ⟨there, Nat.le_trans age bound⟩
      typeParameters := fun _ => rfl
      mapped := nofun }

theorem keeps_instantiateAlias {aliased : Option TypeId} {arguments : List (Option TypeId)}
    (given : Given now (aliased :: arguments)) :
    Keeps manner ages now p (instantiateAlias aliased arguments) fun _ _ => True := by
  apply keeps_get_bind
  refine keeps_lift_bind live fun id found => ?_
  obtain rfl : aliased = some id := of_present found
  have older : id.index ≤ p.types.size :=
    Nat.le_of_lt (Nat.lt_of_lt_of_le given.head.of_some live.bound)
  dsimp only
  split
  · exact keeps_throw live _
  · refine keeps_lift_bind live fun declared _ => ?_
    refine keeps_lift_bind live fun site _ => ?_
    refine keeps_lift_bind live fun written _ => ?_
    have asked : Keeps manner ages now p (written.mapM fun param => ask (·.typeAt param))
        fun q params => ∀ param ∈ params, True :=
      keeps_mapM (fun _ _ _ _ known => known) live fun _ _ q live _ =>
        keeps_ask live fun _ _ => trivial
    refine keeps_bind asked ?_
    intro params q liveQ before _
    have fits := ((live.types id).stay before).later (Nat.le_trans older before.types)
    refine keeps_bind (keeps_newType liveQ fun _ => fits.renumber _) ?_
    rintro copy r liveR after ⟨there, new, -⟩
    refine keeps_bind (keeps_withDefaults liveR params (given.mono (by simp))) ?_
    intro filled s liveS last givenFilled
    refine keeps_bind (keeps_setType liveS ⟨rfl, rfl, rfl⟩
      { liveS.types copy with
        aliasArguments := fun _ argument member =>
          Or.inl (Nat.lt_of_lt_of_le (givenFilled argument member) new) }) ?_
    intro _ t liveT _ _
    exact keeps_pure liveT trivial

end Steps

end Build

end TypeAtlas
