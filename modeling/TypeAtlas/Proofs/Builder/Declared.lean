import Mathlib.Data.List.ReduceOption
import TypeAtlas.Proofs.Builder.Generic
import TypeAtlas.Proofs.Builder.Member

/-!
Declared types keep a program fitting. An interface or a class may come to mention types that are made
after it, and nothing else does.
-/

namespace TypeAtlas

variable {manner : Manner} {ages : Ages} {now age : Nat} {p q : Program}

namespace Build

open Program

theorem sublist_of_filterM {α : Type} {f : α → Except Fault Bool} {items kept : List α}
    (ran : items.filterM f = .ok kept) : kept.Sublist items := by
  have gathered (items acc kept : List α) (ran : items.filterAuxM f acc = .ok kept) :
      ∃ picked : List α, kept = picked.reverse ++ acc ∧ picked.Sublist items := by
    induction items generalizing acc with
    | nil =>
        cases ran
        exact ⟨[], rfl, .slnil⟩
    | cons first rest ih =>
        obtain ⟨holds, asked, ran⟩ := of_except_bind_ok ran
        obtain ⟨picked, rfl, among⟩ := ih _ ran
        cases holds
        · exact ⟨picked, rfl, among.cons first⟩
        · exact ⟨first :: picked, by simp, among.cons_cons first⟩
  obtain ⟨acc, listed, rest⟩ := of_except_bind_ok ran
  cases rest
  obtain ⟨picked, rfl, among⟩ := gathered items [] acc listed
  simpa using among

theorem mem_propertiesWith {site : SiteId} {type : TypeId} {added : List SymbolId}
    {properties : List (Option SymbolId)}
    (found : propertiesWith p site type added = .ok properties) {slot : Option SymbolId}
    (member : slot ∈ properties) :
    slot ∈ (p.type type).properties.slots ∨ ∃ symbol ∈ added, slot = some symbol := by
  obtain ⟨held, listed, found⟩ := of_except_bind_ok found
  obtain ⟨own, filtered, found⟩ := of_except_bind_ok found
  cases found
  rw [slots_of_each listed]
  rcases List.mem_append.mp member with inOwn | others
  · exact Or.inl ((sublist_of_filterM filtered).subset inOwn)
  · obtain ⟨other, inOthers, rfl⟩ := List.mem_map.mp others
    rcases List.mem_append.mp inOthers with new | inherited
    · exact Or.inr ⟨other, new, rfl⟩
    · left
      have inHeld := (List.mem_filter.mp inherited).1
      exact List.reduceOption_mem_iff.mp inHeld

theorem of_propertiesWith {site : SiteId} {type : TypeId} {added : List SymbolId}
    {properties : List (Option SymbolId)}
    (found : propertiesWith p site type added = .ok properties) {symbol : SymbolId}
    (member : some symbol ∈ properties) :
    some symbol ∈ (p.type type).properties.slots ∨ symbol ∈ added := by
  rcases mem_propertiesWith found member with held | ⟨other, new, same⟩
  · exact Or.inl held
  · rw [Option.some_inj] at same
    exact Or.inr (same ▸ new)

section Steps

variable (live : p.Live manner ages now)
include live

/-- A declared type, before it has members. -/
theorem typeFits_nominal {kind : SiteKind} {name : String} {flags : SymbolFlags} {symbol : SymbolId}
    {site : SiteId} (declared : Declared ages now kind name flags p symbol site)
    {flag : ObjectFlag} {own : SymbolFlag}
    (pair : flag = .interface ∧ own = .interface ∨ flag = .classKind ∧ own = .classKind)
    (same : flags = [own]) (params : Slots TypeId) (id : Int) :
    TypeFits manner ages p p.types.size
      { flags := [.object], objectFlags := [flag], symbol := some symbol, typeParameters := params,
        id } where
  parts part member := by simp [TypeInfo.parts, Slots.slots] at member
  aliasArguments _ _ held := by cases held
  symbol other held := by
    cases held
    refine ⟨⟨declared.symbolThere, by rw [declared.symbolAge]; exact live.bound⟩, ?_⟩
    rw [Symbol.hasFlag, declared.flags, same]
    rcases pair with ⟨-, rfl⟩ | ⟨-, rfl⟩ <;> rfl
  nominal _ := by
    refine ⟨rfl, ?_, ?_, ?_, rfl, symbol, rfl, ?_⟩
    · rcases pair with ⟨rfl, -⟩ | ⟨rfl, -⟩ <;> rfl
    · rcases pair with ⟨rfl, -⟩ | ⟨rfl, -⟩ <;> rfl
    · rcases pair with ⟨rfl, -⟩ | ⟨rfl, -⟩ <;> rfl
    · rw [Symbol.isNominal, Symbol.hasFlag, Symbol.hasFlag, declared.flags, same]
      rcases pair with ⟨-, rfl⟩ | ⟨-, rfl⟩ <;> rfl
  declared _ _ _ := by
    refine ⟨rfl, Or.inl ?_⟩
    rcases pair with ⟨rfl, -⟩ | ⟨rfl, -⟩ <;> rfl
  keyof := nofun
  index := nofun
  parameter := nofun
  aliased _ held := by cases held
  enumerated := nofun
  members _ held := by cases held
  properties _ _ _ held := by cases held
  calls _ held := by cases held
  indexes _ held := by rcases held with held | held <;> cases held
  typeParameters structural := by rcases pair with ⟨rfl, -⟩ | ⟨rfl, -⟩ <;> cases structural
  mapped flagged := by rcases pair with ⟨rfl, -⟩ | ⟨rfl, -⟩ <;> cases flagged

theorem keeps_conclude {kind : SiteKind} {name : String} {flags : SymbolFlags} {symbol : SymbolId}
    {site : SiteId} (declared : Declared ages now kind name flags p symbol site) {type : TypeId}
    (unwritten : kind.isWritten = false) (ground : kind ≠ .expressionWithTypeArguments)
    (aliased : flags.contains .typeAlias = true → type.index < now)
    (nominal : (flags.contains .interface || flags.contains .classKind) = true →
      (p.type type).isNominal = true)
    (parameter : flags.contains .typeParameter = false)
    (declares : (flags.contains .interface || flags.contains .classKind ||
      flags.contains .regularEnum || flags.contains .constEnum) = true → p.Declares type name)
    (exported : Bool) :
    Keeps manner ages now p (do
      bindDeclared symbol type
      bindSite site type
      exportIf exported symbol
      pure type) fun _ _ => True := by
  refine keeps_bind (keeps_bindDeclared live ?_ ?_ ?_ ?_) ?_
  · rw [Symbol.hasFlag, declared.flags, declared.symbolAge]
    exact aliased
  · rw [Symbol.isNominal, Symbol.hasFlag, Symbol.hasFlag, declared.flags]
    exact nominal
  · rw [Symbol.hasFlag, declared.flags, parameter]
    rintro ⟨⟩
  · rw [declared.name]
    simp only [Symbol.isTypeSymbol, Symbol.isNominal, Symbol.hasFlag, declared.flags]
    exact declares
  intro _ q live before _
  have declared := declared.stay before
  refine keeps_bind (keeps_answer live (by rw [declared.kind]; exact unwritten)
    (by rw [declared.kind]; exact ground)) ?_
  intro _ r live _ _
  refine keeps_bind (keeps_exportIf live exported symbol) ?_
  intro _ s live _ _
  exact keeps_pure live trivial

theorem keeps_interface {spec : InterfaceSpec} (given : Given now spec.types)
    (genuine : Genuine manner now p (spec.typeParameters ++ memberParameters spec.members))
    (signatures : ∀ signature, some signature ∈ spec.callSignatures →
      signature.index < p.signatures.size) :
    Keeps manner ages now p (interface spec) fun _ _ => True := by
  have suits : Suits .interfaceDeclaration [.interface] := ⟨rfl, nofun, nofun, by decide⟩
  refine keeps_bind (keeps_declare live suits _ _ _) ?_
  rintro ⟨symbol, site⟩ q live before declared
  refine keeps_bind (keeps_arrangeSymbol live rfl) ?_
  intro _ r live next _
  have before := before.trans next
  have declared := declared.stay next
  refine keeps_bind (keeps_newType live fun id =>
    typeFits_nominal live declared (Or.inl ⟨rfl, rfl⟩) rfl _ id) ?_
  rintro type s live next ⟨-, new, made⟩
  have begun := before.trans next
  have declared := declared.stay next
  have isNominal : (s.type type).isNominal = true := by rw [made]; rfl
  have nominal {t : Program} (since : s.Before t) : (t.type type).isNominal = true := by
    rw [(since.type_of_isNominal isNominal).isNominal]
    exact isNominal
  refine keeps_bind (keeps_attachTypeParameters live site _) ?_
  intro _ t live since _
  refine keeps_bind (keeps_populate live new site (Or.inl rfl) given
    ((genuine.stay (begun.trans since)).mono (by simp)) (Or.inr (nominal since))) ?_
  intro _ u live next _
  have since := since.trans next
  refine keeps_bind (keeps_setType live ⟨rfl, rfl, rfl⟩
    { live.types type with
      calls := by
        intro signature held
        have there := (begun.trans since).signatures
        exact ⟨Nat.lt_of_lt_of_le (signatures signature held) there,
          Nat.le_trans (live.signature signature) new⟩ }) ?_
  intro _ v live next _
  have since := since.trans next
  refine keeps_bind (keeps_addHeritage live site .bases
    (given.mono (by intro base member; simp [InterfaceSpec.types, member]))) ?_
  intro _ w live next _
  have since := since.trans next
  have declares : s.Declares type spec.header.name :=
    ⟨⟨symbol, by rw [made], declared.symbolThere, declared.name⟩, Or.inl isNominal⟩
  exact keeps_conclude live (declared.stay since) rfl (by decide) nofun (fun _ => nominal since) rfl
    (fun _ => since.declares declares) _

omit live in
/-- A symbol with no declaration. -/
theorem symbolFits_undeclared {symbol : Symbol} (declarations : symbol.declarations.first? = none)
    (value : symbol.valueDeclaration = none) (parameter : symbol.hasFlag .typeParameter = false)
    (unanswered : symbol.answers = {}) : SymbolFits ages p age symbol where
  first _ held := by
    rw [declarations] at held
    cases held
  parameter flagged := by
    rw [parameter] at flagged
    cases flagged
  member _ _ held := by
    rw [declarations] at held
    cases held
  place _ held := by
    rw [value] at held
    cases held
  value _ _ held := by
    rw [unanswered] at held
    cases held
  aliased _ _ held := by
    rw [unanswered] at held
    cases held
  nominal _ _ held := by
    rw [unanswered] at held
    cases held
  titled _ held := by
    rw [declarations, value] at held
    rcases held with ⟨_, held⟩ | held <;> cases held
  parameterType _ _ held := by
    rw [unanswered] at held
    cases held
  declares _ _ held := by
    rw [unanswered] at held
    cases held

theorem keeps_staticMember (site : SiteId) (name : String) {spec : MemberSpec}
    (given : Given now spec.types) (genuine : Genuine manner now p spec.typeParameters) :
    Keeps manner ages now p (staticMember site name spec) fun _ _ => True := by
  refine keeps_bind (keeps_member live site (Or.inr rfl) name given genuine) ?_
  intro symbol q live _ _
  apply keeps_get_bind
  dsimp only
  split
  · refine keeps_bind (keeps_arrange live rfl) ?_
    intro _ r live _ _
    exact keeps_pure live trivial
  · exact keeps_pure live trivial

theorem keeps_constructorSite (classSite : SiteId) {instanceType : TypeId}
    (nominal : (p.type instanceType).isNominal = true) {parameters : List ParamSpec}
    (given : Given now (parameters.map ParamSpec.type)) :
    Keeps manner ages now p (constructorSite classSite instanceType parameters) fun q site =>
      ages.SiteBy q now site ∧ (q.site site).kind = .constructorDeclaration := by
  refine keeps_bind (keeps_newSite live (siteFits_fresh _ _ _ _ _ _ _)) ?_
  rintro site q live before ⟨inside, age, held, -⟩
  refine keeps_bind (keeps_addParameters live site given) ?_
  intro params r live after made
  have fits : SignatureFits manner ages r now
      { declaration := some site, parameters := Slots.of params, returns := some instanceType } :=
    { typeParameters := fun _ _ held => by cases held
      parameters := by
        intro param held
        obtain ⟨symbol, inList, same⟩ := List.mem_map.mp held
        rw [Option.some_inj] at same
        subst same
        exact made symbol inList
      returns := by
        intro type held
        cases held
        right
        rw [((before.trans after).type_of_isNominal nominal).isNominal]
        exact nominal }
  refine keeps_bind (keeps_newSignature live fits) ?_
  intro signature s live last by_
  refine keeps_bind (keeps_bindSignature live (by rwa [age])) ?_
  intro _ t live next _
  have stays := after.trans (last.trans next)
  refine keeps_pure live ⟨⟨Nat.lt_of_lt_of_le inside stays.sites, Nat.le_of_eq age⟩, ?_⟩
  rw [(stays.site site inside).kind, held]

theorem keeps_statics (site : SiteId) {specs : Table String MemberSpec}
    (given : Given now (memberTypes specs)) (genuine : Genuine manner now p (memberParameters specs)) :
    Keeps manner ages now p (specs.mapM fun (name, member) => staticMember site name member)
      fun _ statics => ∀ symbol ∈ statics, True := by
  refine keeps_mapM (fun _ _ _ _ known => known) live ?_
  rintro ⟨name, spec⟩ member q live before
  refine keeps_staticMember live site name (given.mono ?_) ((genuine.stay before).mono ?_)
  · intro type inside
    exact List.mem_flatMap.mpr ⟨(name, spec), member, inside⟩
  · intro type inside
    exact List.mem_flatMap.mpr ⟨(name, spec), member, inside⟩

theorem keeps_constructors (classSite : SiteId) {instanceType : TypeId}
    (nominal : (p.type instanceType).isNominal = true) {specs : List (List ParamSpec)}
    (given : Given now (specs.flatten.map ParamSpec.type)) :
    Keeps manner ages now p (specs.mapM (constructorSite classSite instanceType)) fun q sites =>
      ∀ site ∈ sites, ages.SiteBy q now site ∧ (q.site site).kind = .constructorDeclaration := by
  refine keeps_mapM ?_ live ?_
  · intro q r site before known
    refine ⟨before.siteBy known.1, ?_⟩
    rw [(before.site site known.1.1).kind]
    exact known.2
  · intro parameters member q live before
    refine keeps_constructorSite live classSite ?_ (given.mono ?_)
    · rw [(before.type_of_isNominal nominal).isNominal]
      exact nominal
    · intro type inside
      obtain ⟨parameter, inParameters, rfl⟩ := List.mem_map.mp inside
      exact List.mem_map.mpr
        ⟨parameter, List.mem_flatten.mpr ⟨parameters, member, inParameters⟩, rfl⟩

theorem keeps_held {constructors : List SiteId} (made : ∀ site ∈ constructors,
    ages.SiteBy p now site ∧ (p.site site).kind = .constructorDeclaration) :
    Keeps manner ages now p
      (newSymbol { name := constructorKey, declarations := Slots.of constructors })
      fun _ _ => True := by
  refine (keeps_newSymbol live fun id => ?_).weaken fun _ _ _ _ => trivial
  exact
    { first := by
        intro place held
        cases constructors with
        | nil => cases held
        | cons first rest =>
            cases held
            obtain ⟨by_, kind⟩ := made place (by simp)
            exact ⟨by_, by rw [kind]; rfl⟩
      parameter := nofun
      member := nofun
      place := fun _ held => by cases held
      titled := nofun
      value := fun _ _ held => by cases held
      aliased := fun _ _ held => by cases held
      nominal := fun _ _ held => by cases held
      parameterType := fun _ _ held => by cases held
      declares := fun _ _ held => by cases held }

theorem keeps_classType {spec : ClassSpec} (given : Given now spec.types)
    (genuine : Genuine manner now p
      (spec.typeParameters ++ memberParameters spec.members ++ memberParameters spec.statics)) :
    Keeps manner ages now p (classType spec) fun _ _ => True := by
  have base : spec.base.toList.map some ⊆ spec.types := by
    intro base member
    simp only [List.mem_map, Option.mem_toList] at member
    obtain ⟨held, same, rfl⟩ := member
    rw [← same]
    exact List.mem_cons_self ..
  have populated : Given now (IndexSpec.typeOf none :: IndexSpec.typeOf none ::
      (spec.base.toList.map some ++ memberTypes spec.members)) := by
    intro part member
    simp only [IndexSpec.typeOf, Option.bind_none, List.mem_cons, reduceCtorEq, List.mem_append,
      false_or] at member
    rcases member with inBase | inMembers
    · exact given part (base inBase)
    · exact given part (by simp [ClassSpec.types, inMembers])
  have suits : Suits .classDeclaration [.classKind] := ⟨rfl, by rintro ⟨⟩, by rintro ⟨⟩, by decide⟩
  refine keeps_bind (keeps_declare live suits _ _ _) ?_
  rintro ⟨symbol, site⟩ q live before declared
  refine keeps_bind (keeps_newType live fun id =>
    typeFits_nominal live declared (Or.inr ⟨rfl, rfl⟩) rfl _ id) ?_
  rintro type r live after ⟨-, new, made⟩
  have declared := declared.stay after
  have isNominal : (r.type type).isNominal = true := by rw [made]; rfl
  have declares : r.Declares type spec.header.name :=
    ⟨⟨symbol, by rw [made], declared.symbolThere, declared.name⟩, Or.inl isNominal⟩
  have begun := before.trans after
  have nominal {s : Program} (since : r.Before s) : (s.type type).isNominal = true := by
    rw [(since.type_of_isNominal isNominal).isNominal]
    exact isNominal
  refine keeps_bind (keeps_attachTypeParameters live site _) ?_
  intro _ s live since _
  refine keeps_bind (keeps_populate live new site (Or.inr rfl) populated
    ((genuine.stay (begun.trans since)).mono (by simp)) (Or.inr (nominal since))) ?_
  intro _ t live next _
  have since := since.trans next
  refine keeps_bind (keeps_addHeritage live site .bases (given.mono base)) ?_
  intro _ u live next _
  have since := since.trans next
  refine keeps_bind (keeps_addHeritage live site .implemented
    (given.mono (by intro base member; simp [ClassSpec.types, member]))) ?_
  intro _ v live next _
  have since := since.trans next
  refine keeps_bind (keeps_newSymbol live fun id => symbolFits_undeclared rfl rfl rfl rfl) ?_
  intro prototype w live next _
  have since := since.trans next
  refine keeps_bind (keeps_statics live site
    (given.mono (by intro type member; simp [ClassSpec.types, member]))
    ((genuine.stay (begun.trans since)).mono (by simp))) ?_
  intro statics x live next _
  have since := since.trans next
  refine keeps_bind (keeps_arrangeSymbol live rfl) ?_
  intro _ y live next _
  have since := since.trans next
  refine keeps_bind (keeps_constructors live site (nominal since)
    (given.mono (by
      intro type member
      simp only [ClassSpec.types, List.mem_cons, List.mem_append]
      exact Or.inr (Or.inr member)))) ?_
  intro constructors z live next made
  have since := since.trans next
  have conclude {a : Program} (live : a.Live manner ages now) (since : r.Before a) :
      Keeps manner ages now a (do
        bindDeclared symbol type
        bindSite site type
        exportIf spec.header.exported symbol
        pure type) fun _ _ => True :=
    keeps_conclude live (declared.stay since) rfl (by decide) (by rintro ⟨⟩) (fun _ => nominal since) rfl
      (fun _ => since.declares declares) _
  dsimp only
  split
  · refine keeps_bind (keeps_held live made) ?_
    intro held a live next _
    refine keeps_bind (keeps_arrangeSymbol live rfl) ?_
    intro _ b live last _
    exact conclude live (since.trans (next.trans last))
  · exact conclude live since

theorem keeps_addMembers {target : Option TypeId} {specs : Table String MemberSpec}
    (given : Given now (target :: memberTypes specs))
    (genuine : Genuine manner now p (memberParameters specs))
    (nominal : manner.disciplined → ∀ type, target = some type → (p.type type).isNominal = true) :
    Keeps manner ages now p (addMembers target specs) fun _ _ => True := by
  refine keeps_lift_bind live fun type found => ?_
  obtain rfl : target = some type := of_present found
  refine keeps_ask_bind live fun declared _ => ?_
  refine keeps_lift_bind live fun site _ => ?_
  apply keeps_get_bind
  dsimp only
  have kinds : (if (p.site site).kind = .classDeclaration then SiteKind.propertyDeclaration
      else .propertySignature) = .propertySignature ∨
      (if (p.site site).kind = .classDeclaration then SiteKind.propertyDeclaration
      else .propertySignature) = .propertyDeclaration := by
    split
    · exact Or.inr rfl
    · exact Or.inl rfl
  refine keeps_bind (keeps_members live site kinds (given.mono (by simp)) genuine) ?_
  intro added q live before made
  refine keeps_ask_bind live fun properties found => ?_
  refine keeps_bind (keeps_setType live ⟨rfl, rfl, rfl⟩
    { live.types type with
      members := by
        intro member held
        rcases of_propertiesWith found held with old | new
        · exact (live.types type).members member old
        · exact (made member new).2
      properties := by
        intro disciplined structural
        have declared := nominal disciplined type rfl
        change (q.type type).isNominal = false at structural
        rw [(before.type_of_isNominal declared).isNominal, declared] at structural
        cases structural }) ?_
  intro _ r live _ _
  exact keeps_pure live trivial

omit live in
/-- A type that remembers its alias is neither a type parameter nor named by its own symbol. -/
theorem of_remembersAlias {type : TypeInfo} (remembers : remembersAlias p type = true) :
    type.isTypeParameter = false ∧
      ∀ symbol, type.symbol = some symbol → isSynthesized (p.symbol symbol).name = true := by
  unfold remembersAlias at remembers
  split at remembers
  · cases remembers
  split at remembers
  · cases remembers
  rename_i plain
  split at remembers
  · cases remembers
  constructor
  · simp only [List.any_cons, List.any_nil, Bool.or_false, Bool.or_eq_true, not_or,
      Bool.not_eq_true] at plain
    exact plain.2.2.2.2.1
  · intro symbol held
    rw [held] at remembers
    exact remembers

theorem keeps_aliasType (header : Header) {aliased : Option TypeId}
    {typeParameters : List (Option TypeId)} (given : Given now [aliased])
    (genuine : Genuine manner now p typeParameters) :
    Keeps manner ages now p (aliasType header aliased typeParameters) fun _ _ => True := by
  have suits : Suits .typeAlias [.typeAlias] := ⟨rfl, nofun, nofun, by decide⟩
  refine keeps_bind (keeps_declare live suits _ _ _) ?_
  rintro ⟨symbol, site⟩ q live before declared
  refine keeps_bind (keeps_attachTypeParameters live site _) ?_
  intro _ r live after _
  have declared := declared.stay after
  have begun := before.trans after
  refine keeps_bind (keeps_writtenType live given _) ?_
  intro written s live next by_
  have declared := declared.stay next
  have begun := begun.trans next
  refine keeps_bind (keeps_giveType live (by rw [declared.kind]; decide)
    (by rwa [declared.siteAge])) ?_
  intro _ t live next _
  have declared := declared.stay next
  have begun := begun.trans next
  apply keeps_get_bind
  refine keeps_lift_bind live fun type found => ?_
  obtain rfl : aliased = some type := of_present found
  have conclude {u : Program} (live : u.Live manner ages now) (next : t.Before u) :
      Keeps manner ages now u (do
        bindDeclared symbol type
        bindSite site type
        exportIf header.exported symbol
        pure type) fun _ _ => True :=
    keeps_conclude live (declared.stay next) rfl (by decide) (fun _ => given.of_some) nofun rfl
      nofun _
  dsimp only
  split
  · rename_i remembers
    obtain ⟨plain, synthesized⟩ := of_remembersAlias remembers
    refine keeps_bind (keeps_setType live ⟨rfl, rfl, rfl⟩
      { live.types type with
        aliasArguments := by
          intro disciplined argument held
          have member : some argument ∈ typeParameters := by
            cases typeParameters with
            | nil => cases held
            | cons param rest => exact held
          exact Or.inr (genuine.stay begun disciplined argument member).2
        parameter := by
          intro flagged
          change (t.type type).isTypeParameter = true at flagged
          rw [plain] at flagged
          cases flagged
        aliased := by
          intro named held
          cases held
          refine ⟨by rw [Symbol.hasFlag, declared.flags]; rfl, ?_⟩
          intro own held
          exact synthesized own held }) ?_
    intro _ u live next _
    exact conclude live next
  · exact conclude live (Before.refl t)

theorem keeps_enumMember (site : SiteId) (docs : Table String String) (name : String)
    (value : Option Literal) :
    Keeps manner ages now p (enumMember site docs name value) fun q type =>
      type.index < q.types.size ∧ (q.type type).hasFlag .enumLiteral = true := by
  have suits : Suits .enumMember [.enumMember] := ⟨rfl, by rintro ⟨⟩, by rintro ⟨⟩, by decide⟩
  refine keeps_bind (keeps_declare live suits _ _ _) ?_
  rintro ⟨symbol, memberSite⟩ q live - declared
  refine keeps_bind (keeps_arrange live rfl) ?_
  intro _ r live next _
  have declared := declared.stay next
  have made (kind : TypeFlag) (literal : kind = .stringLiteral ∨ kind = .numberLiteral) :
      Keeps manner ages now r
        (newType { flags := [kind, .enumLiteral], symbol := some symbol, value })
        fun q type => type.index < q.types.size ∧ (q.type type).hasFlag .enumLiteral = true := by
    refine (keeps_newType live fun id => typeFits_simple ?_ (by simp [TypeInfo.parts, Slots.slots])
      ?_ ?_ (fun _ _ held => by cases held) (fun _ held => by cases held)).weaken
      fun _ _ _ made => ⟨made.1, by rw [made.2.2, TypeInfo.hasFlag]; simp⟩
    · rcases literal with rfl | rfl <;> constructor <;> rfl
    · intro other held
      cases held
      exact Declared.structural live declared ⟨rfl, by decide, rfl, rfl⟩
    · rcases literal with rfl | rfl <;> rintro ⟨⟩
  dsimp only
  split
  · exact made _ (Or.inl rfl)
  · exact made _ (Or.inr rfl)

def enumerated (spec : EnumSpec) (flag : SymbolFlag) (kind : TypeFlag) : Build TypeId := do
  let (symbol, site) ← declare .enumDeclaration spec.header.name [flag] spec.header.doc
  let types ← spec.members.mapM fun (name, value) => enumMember site spec.memberDocs name value
  let type ← newType { flags := [kind, .union], symbol := some symbol, types := Slots.of types }
  bindDeclared symbol type
  bindSite site type
  exportIf spec.header.exported symbol
  pure type

theorem keeps_enumeration (spec : EnumSpec) :
    Keeps manner ages now p (enumeration spec) fun _ _ => True := by
  have finish (flag : SymbolFlag) (constant : flag = .constEnum ∨ flag = .regularEnum)
      (kind : TypeFlag) (literal : kind = .enumLiteral ∨ kind = .enum) :
      Keeps manner ages now p (enumerated spec flag kind) fun _ _ => True := by
    have suits : Suits .enumDeclaration [flag] := by
      rcases constant with rfl | rfl <;> exact ⟨rfl, by rintro ⟨⟩, by rintro ⟨⟩, by decide⟩
    have callable : Callable .enumDeclaration [flag] := by
      rcases constant with rfl | rfl <;> exact ⟨rfl, by decide, rfl, rfl⟩
    refine keeps_bind (keeps_declare live suits _ _ _) ?_
    rintro ⟨symbol, site⟩ q live - declared
    have stable (q r : Program) (type : TypeId) (before : q.Before r)
        (known : type.index < q.types.size ∧ (q.type type).hasFlag .enumLiteral = true) :
        type.index < r.types.size ∧ (r.type type).hasFlag .enumLiteral = true := by
      refine ⟨Nat.lt_of_lt_of_le known.1 before.types, ?_⟩
      rw [(before.type type known.1).hasFlag]
      exact known.2
    refine keeps_bind (keeps_mapM stable live fun item _ _ live _ =>
      keeps_enumMember live site spec.memberDocs item.1 item.2) ?_
    intro types r live next made
    have declared := declared.stay next
    refine keeps_bind (keeps_newType live fun id => typeFits_simple ?_ ?_ ?_ ?_ ?_
      fun _ held => by cases held) ?_
    · rcases literal with rfl | rfl <;> constructor <;> rfl
    · intro part member
      have inTypes : part ∈ types := by
        simpa [TypeInfo.parts, Slots.slots, Slots.of] using member
      exact (made part inTypes).1
    · intro other held
      cases held
      exact Declared.structural live declared callable
    · rcases literal with rfl | rfl <;> rintro ⟨⟩
    · intro _ member held
      exact (made member (by simpa [Slots.slots, Slots.of] using held)).2
    rintro type s live next ⟨-, -, built⟩
    have declared := declared.stay next
    have declares : s.Declares type spec.header.name := by
      refine ⟨⟨symbol, by rw [built], declared.symbolThere, declared.name⟩, Or.inr ?_⟩
      rw [built]
      rcases literal with rfl | rfl
      · exact Or.inl rfl
      · exact Or.inr rfl
    refine keeps_conclude live declared rfl (by decide) ?_ ?_ ?_ (fun _ => declares) _
    · rcases constant with rfl | rfl <;> rintro ⟨⟩
    · rcases constant with rfl | rfl <;> rintro ⟨⟩
    · rcases constant with rfl | rfl <;> rfl
  apply finish
  · split
    · exact Or.inl rfl
    · exact Or.inr rfl
  · split
    · exact Or.inl rfl
    · exact Or.inr rfl

end Steps

end Build

end TypeAtlas
