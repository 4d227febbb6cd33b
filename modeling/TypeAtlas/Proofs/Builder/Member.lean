import TypeAtlas.Proofs.Builder.Written
import TypeAtlas.Proofs.Gather
import TypeAtlas.Proofs.Program.Calls

/-!
Members and parameters keep a program fitting: they are made by the call in progress, and their types
were there before.
-/

namespace TypeAtlas

variable {manner : Manner} {ages : Ages} {now age : Nat} {p q : Program}

namespace Build

open Program

def Genuine (manner : Manner) (now : Nat) (p : Program) (params : List (Option TypeId)) : Prop :=
  manner.disciplined → ∀ param, some param ∈ params →
    param.index < now ∧ (p.type param).isTypeParameter = true

theorem Genuine.stay {params : List (Option TypeId)} (genuine : Genuine manner now p params)
    (before : p.Before q) : Genuine manner now q params := by
  intro disciplined param member
  obtain ⟨older, parameter⟩ := genuine disciplined param member
  exact ⟨older, before.isTypeParameter parameter⟩

theorem Genuine.mono {params more : List (Option TypeId)} (genuine : Genuine manner now p more)
    (fewer : params ⊆ more) : Genuine manner now p params :=
  fun disciplined param member => genuine disciplined param (fewer member)

def MadeMember (ages : Ages) (now : Nat) (q : Program) (symbol : SymbolId) : Prop :=
  ages.SymbolBy q now symbol ∧ (q.symbol symbol).isMember = true

theorem MadeMember.stay {symbol : SymbolId} (made : MadeMember ages now p symbol)
    (before : p.Before q) : MadeMember ages now q symbol := by
  refine ⟨before.symbolBy made.1, ?_⟩
  rw [(before.symbol symbol made.1.1).isMember]
  exact made.2

section Steps

variable (live : p.Live manner ages now)
include live

theorem keeps_attachTypeParameters (site : SiteId) (params : List (Option TypeId)) :
    Keeps manner ages now p (attachTypeParameters site params) fun _ _ => True := by
  refine keeps_forM live fun param _ q live _ => ?_
  refine keeps_ask_bind live fun declared _ => ?_
  refine keeps_lift_bind live fun place _ => ?_
  refine keeps_bind (keeps_arrange live rfl) ?_
  intro _ r live _ _
  exact keeps_arrange live rfl

theorem keeps_parameter (parent : SiteId) {spec : ParamSpec} (given : Given now [spec.type]) :
    Keeps manner ages now p (parameter parent spec) fun q made => ages.SymbolBy q now made.1 := by
  refine keeps_bind (keeps_newSite live (siteFits_fresh _ _ _ _ _ _ _)) ?_
  rintro site q live - ⟨inside, age, held, -⟩
  have kind : (q.site site).kind = .parameter := by rw [held]
  have suits : Suits .parameter [.variableKind] := ⟨rfl, nofun, nofun, by decide⟩
  refine keeps_bind (keeps_newSymbol live fun id =>
    symbolFits_declared ⟨inside, Nat.le_of_eq age⟩ (by rw [kind]; exact suits) rfl (by rw [held]) ?_
      rfl) ?_
  · rintro place same
    cases same
    exact ⟨rfl, by rw [kind]; rfl⟩
  rintro symbol r live before ⟨there, symbolAge, made⟩
  have kind : (r.site site).kind = .parameter := by rw [(before.site site inside).kind, kind]
  have title : (r.site site).name = some (r.symbol symbol).name := by
    rw [(before.site site inside).name, held, made]
  have inside := Nat.lt_of_lt_of_le inside before.sites
  refine keeps_bind (keeps_giveSymbol live there age (by rw [kind]; rfl) title
    (by rw [kind]; decide)) ?_
  intro _ s live after _
  have kind : (s.site site).kind = .parameter := by rw [(after.site site inside).kind, kind]
  have inside := Nat.lt_of_lt_of_le inside after.sites
  have finish {t : Program} (live : t.Live manner ages now) (last : s.Before t) :
      Keeps manner ages now t (pure (symbol, site)) fun q made => ages.SymbolBy q now made.1 :=
    keeps_pure live (last.symbolBy (after.symbolBy ⟨there, Nat.le_of_eq symbolAge⟩))
  dsimp only
  split
  · rename_i type typed
    rw [typed] at given
    refine keeps_bind (keeps_writtenType live given _) ?_
    intro written t live later by_
    have kept : (t.site site).kind = .parameter := by rw [(later.site site inside).kind, kind]
    refine keeps_bind (keeps_giveType live (by rw [kept]; decide) (by rwa [age])) ?_
    intro _ u live last _
    refine keeps_bind (keeps_bindSymbol live ?_) ?_
    · intro flagged
      have stays := after.trans (later.trans last)
      rw [(stays.symbol symbol there).hasFlag, made] at flagged
      cases flagged
    · intro _ v live end_ _
      exact finish live (later.trans (last.trans end_))
  · exact finish live (Before.refl s)

theorem keeps_addParameters (parent : SiteId) {specs : List ParamSpec}
    (given : Given now (specs.map ParamSpec.type)) :
    Keeps manner ages now p (addParameters parent specs) fun q symbols =>
      ∀ symbol ∈ symbols, ages.SymbolBy q now symbol := by
  have each : Keeps manner ages now p (specs.mapM (parameter parent)) fun q made =>
      ∀ pair ∈ made, ages.SymbolBy q now pair.1 := by
    refine keeps_mapM (fun _ _ _ before known => before.symbolBy known) live ?_
    intro spec member q live _
    apply keeps_parameter live
    exact given.mono (by simpa using ⟨spec, member, rfl⟩)
  refine keeps_bind each ?_
  intro made q live before all
  refine keeps_bind (keeps_arrange live rfl) ?_
  intro _ r live after _
  apply keeps_pure live
  intro symbol member
  obtain ⟨pair, inList, rfl⟩ := List.mem_map.mp member
  exact after.symbolBy (all pair inList)

structure Callable (kind : SiteKind) (flags : SymbolFlags) : Prop where
  unwritten : kind.isWritten = false
  ground : kind ≠ .expressionWithTypeArguments ∧ kind ≠ .mappedType
  plain : flags.contains .typeAlias = false
  structural : (flags.contains .interface || flags.contains .classKind) = false

theorem Declared.structural {kind : SiteKind} {name : String} {flags : SymbolFlags}
    {symbol : SymbolId} {site : SiteId} (declared : Declared ages now kind name flags p symbol site)
    (callable : Callable kind flags) : ages.SymbolBy p p.types.size symbol ∧
      (p.symbol symbol).hasFlag .typeAlias = false ∧ (p.symbol symbol).isNominal = false := by
  refine ⟨⟨declared.symbolThere, ?_⟩, ?_, ?_⟩
  · rw [declared.symbolAge]
    exact live.bound
  · rw [Symbol.hasFlag, declared.flags]
    exact callable.plain
  · rw [Symbol.isNominal, Symbol.hasFlag, Symbol.hasFlag, declared.flags]
    exact callable.structural

omit live in
theorem signatureFits_of {site : SiteId} {params : List SymbolId} {returns : Option TypeId}
    {typeParameters : List (Option TypeId)}
    (made : ∀ symbol ∈ params, ages.SymbolBy p now symbol) (given : Given now [returns])
    (genuine : Genuine manner now p typeParameters) :
    SignatureFits manner ages p now
      { declaration := some site, typeParameters := some typeParameters,
        parameters := Slots.of params, returns } where
  typeParameters := genuine
  parameters param held := by
    obtain ⟨symbol, inList, same⟩ := List.mem_map.mp held
    rw [Option.some_inj] at same
    subst same
    exact made symbol inList
  returns type held := by
    change returns = some type at held
    exact Or.inl (given type (by simp [held]))

theorem keeps_callable {kind : SiteKind} {name : String} {flags : SymbolFlags} {symbol : SymbolId}
    {site : SiteId} (declared : Declared ages now kind name flags p symbol site)
    (suits : Callable kind flags) {parameters : List ParamSpec} {returns : Option TypeId}
    {typeParameters : List (Option TypeId)}
    (given : Given now (returns :: parameters.map ParamSpec.type))
    (genuine : Genuine manner now p typeParameters) :
    Keeps manner ages now p (callable symbol site parameters returns typeParameters)
      fun _ _ => True := by
  refine keeps_bind (keeps_attachTypeParameters live site typeParameters) ?_
  intro _ q live before _
  have declared := declared.stay before
  have genuine := genuine.stay before
  refine keeps_bind (keeps_addParameters live site (given.mono (by simp))) ?_
  intro params r live before made
  have declared := declared.stay before
  have genuine := genuine.stay before
  refine keeps_bind (keeps_writtenType live given.head _) ?_
  intro written s live after writtenBy
  have declared := declared.stay after
  have genuine := genuine.stay after
  refine keeps_bind (keeps_giveType live (by rw [declared.kind]; exact suits.ground.2)
    (by rwa [declared.siteAge])) ?_
  intro _ t live last _
  have declared := declared.stay last
  have genuine := genuine.stay last
  have made (symbol : SymbolId) (member : symbol ∈ params) : ages.SymbolBy t now symbol :=
    last.symbolBy (after.symbolBy (made symbol member))
  refine keeps_bind (keeps_newSignature live (signatureFits_of made given.head genuine)) ?_
  intro signature u live before by_
  have declared := declared.stay before
  refine keeps_bind (keeps_bindSignature live (by rwa [declared.siteAge])) ?_
  intro _ v live before _
  have declared := declared.stay before
  refine keeps_bind (keeps_newType live fun id => typeFits_simple (by constructor <;> rfl)
    (by simp [TypeInfo.parts, Slots.slots]) ?_ nofun nofun ?_) ?_
  · intro other held
    cases held
    exact Declared.structural live declared suits
  · intro other held
    simp only [Slots.of, Slots.slots, List.map_cons, List.map_nil, Option.getD_some,
      List.mem_singleton, Option.some_inj] at held
    subst held
    obtain ⟨there, age⟩ := before.signatureBy by_
    exact ⟨there, Nat.le_trans age live.bound⟩
  · intro type w live before _
    have declared := declared.stay before
    refine keeps_bind (keeps_answer live (by rw [declared.kind]; exact suits.unwritten)
      (by rw [declared.kind]; exact suits.ground.1)) ?_
    intro _ x live _ _
    exact keeps_pure live trivial

theorem keeps_propMember (name : String) {spec : PropSpec} (parent : SiteId) {kind : SiteKind}
    (property : kind = .propertySignature ∨ kind = .propertyDeclaration)
    (given : Given now spec.types) :
    Keeps manner ages now p (propMember name spec parent kind) fun q symbol =>
      MadeMember ages now q symbol := by
  have value : kind.isValue = true := by rcases property with rfl | rfl <;> rfl
  have suits : Suits kind (.property :: optionalFlag spec.optional) := by
    rcases property with rfl | rfl <;> cases spec.optional <;> exact ⟨rfl, nofun, fun _ => rfl, by decide⟩
  refine keeps_bind (keeps_newSite live (siteFits_fresh _ _ _ _ _ _ _)) ?_
  rintro site q live - ⟨inside, age, held, -⟩
  have same : (q.site site).kind = kind := by rw [held]
  have title : (q.site site).name = some name := by rw [held]
  refine keeps_bind (keeps_writtenType live given _) ?_
  intro written r live before by_
  have same : (r.site site).kind = kind := by rw [(before.site site inside).kind, same]
  have title : (r.site site).name = some name := by rw [(before.site site inside).name, title]
  have inside := Nat.lt_of_lt_of_le inside before.sites
  refine keeps_bind (keeps_giveType live ?_ (by rwa [age])) ?_
  · rw [same]
    rintro rfl
    cases value
  intro _ s live before _
  have same : (s.site site).kind = kind := by rw [(before.site site inside).kind, same]
  have title : (s.site site).name = some name := by rw [(before.site site inside).name, title]
  have inside := Nat.lt_of_lt_of_le inside before.sites
  refine keeps_bind (keeps_newSymbol live fun id =>
    symbolFits_declared ⟨inside, Nat.le_of_eq age⟩ (by rw [same]; exact suits) rfl title ?_ rfl) ?_
  · rintro place found
    cases found
    exact ⟨rfl, by rw [same]; exact value⟩
  rintro symbol t live before ⟨there, symbolAge, made⟩
  have same : (t.site site).kind = kind := by rw [(before.site site inside).kind, same]
  have title : (t.site site).name = some name := by rw [(before.site site inside).name, title]
  have member : MadeMember ages now t symbol := ⟨⟨there, Nat.le_of_eq symbolAge⟩, by rw [made]; rfl⟩
  refine keeps_bind (keeps_giveSymbol live there age ?_ (by rw [title, made])
    (by rw [same]; exact suits.named)) ?_
  · rw [same, made]
    exact suits.stands
  intro _ u live before _
  refine keeps_bind (keeps_bindSymbol live ?_) ?_
  · intro _ type held
    rw [symbolAge]
    exact given type (by simp [PropSpec.types, held])
  · intro _ v live after _
    exact keeps_pure live (member.stay (before.trans after))

theorem keeps_methodMember (name : String) {spec : MethodSpec} (parent : SiteId)
    (given : Given now spec.types) (genuine : Genuine manner now p spec.typeParameters) :
    Keeps manner ages now p (methodMember name spec parent) fun q symbol =>
      MadeMember ages now q symbol := by
  have suits : Suits .methodSignature (.method :: optionalFlag spec.optional) := by
    cases spec.optional <;> exact ⟨rfl, nofun, fun _ => rfl, by decide⟩
  have callable : Callable .methodSignature (.method :: optionalFlag spec.optional) := by
    cases spec.optional <;> exact ⟨rfl, by decide, rfl, rfl⟩
  have property : (SymbolFlag.method :: optionalFlag spec.optional).contains .property = false := by
    cases spec.optional <;> rfl
  refine keeps_bind (keeps_newSite live (siteFits_fresh _ _ _ _ _ _ _)) ?_
  rintro site q live before ⟨inside, age, held, -⟩
  have genuine := genuine.stay before
  have same : (q.site site).kind = .methodSignature := by rw [held]
  refine keeps_bind (keeps_newSymbol live fun id =>
    symbolFits_declared ⟨inside, Nat.le_of_eq age⟩ (by rw [same]; exact suits) rfl (by rw [held]) ?_
      rfl) ?_
  · rintro place found
    cases found
    exact ⟨rfl, by rw [same]; rfl⟩
  rintro symbol r live before ⟨there, symbolAge, made⟩
  have genuine := genuine.stay before
  have declared : Declared ages now .methodSignature name (.method :: optionalFlag spec.optional) r
      symbol site :=
    ⟨Nat.lt_of_lt_of_le inside before.sites, age, by rw [(before.site site inside).kind, same],
      by rw [(before.site site inside).name, held], there, symbolAge, by rw [made], by rw [made]⟩
  have member : MadeMember ages now r symbol :=
    ⟨⟨there, Nat.le_of_eq symbolAge⟩, by simp [made, Symbol.isMember, Symbol.hasFlag]⟩
  refine keeps_bind (keeps_giveSymbol live there age ?_ (by rw [declared.title, declared.name]) ?_) ?_
  · rw [declared.kind, declared.flags]
    rfl
  · rw [declared.kind]
    decide
  intro _ s live before _
  have declared := declared.stay before
  refine keeps_bind (keeps_callable live declared callable given (genuine.stay before)) ?_
  intro type t live after _
  have declared := declared.stay after
  refine keeps_bind (keeps_bindSymbol live ?_) ?_
  · intro flagged
    rw [Symbol.hasFlag, declared.flags, property] at flagged
    cases flagged
  · intro _ u live last _
    exact keeps_pure live (member.stay (before.trans (after.trans last)))

theorem keeps_member (parent : SiteId) {kind : SiteKind}
    (property : kind = .propertySignature ∨ kind = .propertyDeclaration) (name : String)
    {spec : MemberSpec} (given : Given now spec.types)
    (genuine : Genuine manner now p spec.typeParameters) :
    Keeps manner ages now p (member parent kind name spec) fun q symbol =>
      MadeMember ages now q symbol := by
  cases spec with
  | plain type =>
      cases type with
      | none => exact keeps_throw live _
      | some type => exact keeps_propMember live name parent property given
  | prop spec => exact keeps_propMember live name parent property given
  | method spec => exact keeps_methodMember live name parent given genuine

theorem keeps_members (parent : SiteId) {kind : SiteKind}
    (property : kind = .propertySignature ∨ kind = .propertyDeclaration)
    {specs : Table String MemberSpec} (given : Given now (memberTypes specs))
    (genuine : Genuine manner now p (memberParameters specs)) :
    Keeps manner ages now p (members parent kind specs) fun q symbols =>
      ∀ symbol ∈ symbols, MadeMember ages now q symbol := by
  refine keeps_mapM (fun _ _ _ before made => made.stay before) live ?_
  rintro ⟨name, spec⟩ member q live before
  refine keeps_member live parent property name (given.mono ?_) ((genuine.stay before).mono ?_)
  · intro type inside
    exact List.mem_flatMap.mpr ⟨(name, spec), member, inside⟩
  · intro type inside
    exact List.mem_flatMap.mpr ⟨(name, spec), member, inside⟩

theorem keeps_indexSignature (keyType : TypeId) {spec : Option IndexSpec} (parent : SiteId)
    (given : Given now [IndexSpec.typeOf spec]) :
    Keeps manner ages now p (indexSignature keyType spec parent) fun q made =>
      ∀ id, made = some id → ages.IndexBy q now id := by
  cases spec with
  | none => exact keeps_pure live nofun
  | some spec =>
      have finish {q : Program} (live : q.Live manner ages now) (site : SiteId) :
          Keeps manner ages now q (some <$> newIndexInfo
            { keyType := some keyType, type := spec.type, declaration := some site }) fun q made =>
            ∀ id, made = some id → ages.IndexBy q now id := by
        refine keeps_map _ (keeps_newIndexInfo live ?_) ?_
        · intro type held
          change spec.type = some type at held
          exact given type (by simp [IndexSpec.typeOf, held])
        · rintro r made by_ other same
          cases same
          exact by_
      refine keeps_bind (keeps_newSite live (siteFits_fresh _ _ _ _ _ _ _)) ?_
      intro site q live _ _
      dsimp only
      split
      · refine keeps_bind (keeps_newSite live (siteFits_fresh _ _ _ _ _ _ _)) ?_
        intro key r live _ _
        refine keeps_bind (keeps_arrange live rfl) ?_
        intro _ s live _ _
        exact finish live site
      · exact finish live site

omit live in
theorem of_inheritedProperties {own : List SymbolId} {bases : List (Option TypeId)}
    {inherited : List SymbolId} (found : inheritedProperties p own bases = .ok inherited)
    {symbol : SymbolId} (member : symbol ∈ inherited) :
    ∃ base, some base ∈ bases ∧ some symbol ∈ (p.type base).properties.slots := by
  obtain ⟨offers, offered, rest⟩ := of_except_bind_ok found
  cases rest
  have adds (kept : List SymbolId) (prop other : SymbolId)
      (held : other ∈ if (own.any fun id => (p.symbol id).name == (p.symbol prop).name) ||
        (kept.any fun id => (p.symbol id).name == (p.symbol prop).name) then kept
        else kept ++ [prop]) : other ∈ kept ∨ other = prop := by
    split at held
    · exact Or.inl held
    · simpa using held
  have kept := (mem_of_foldl adds member).resolve_left List.not_mem_nil
  obtain ⟨offer, inOffers, inOffer⟩ := List.mem_flatten.mp kept
  obtain ⟨base, inBases, asked⟩ := mem_of_mapM offered inOffers
  obtain ⟨id, same, asked⟩ := of_except_bind_ok asked
  obtain ⟨properties, listed, asked⟩ := of_except_bind_ok asked
  obtain ⟨held, inside, isPresent⟩ := mem_of_mapM asked inOffer
  refine ⟨id, by rwa [← of_present same], ?_⟩
  rw [slots_of_each listed, ← of_present isPresent]
  exact inside

theorem keeps_populate {type : TypeId} (new : now ≤ type.index) (site : SiteId)
    {specs : Table String MemberSpec} {bases : List (Option TypeId)} {kind : SiteKind}
    (property : kind = .propertySignature ∨ kind = .propertyDeclaration)
    {stringIndex numberIndex : Option IndexSpec}
    (given : Given now (IndexSpec.typeOf stringIndex :: IndexSpec.typeOf numberIndex ::
      (bases ++ memberTypes specs)))
    (genuine : Genuine manner now p (memberParameters specs))
    (nominal : bases = [] ∨ (p.type type).isNominal = true) :
    Keeps manner ages now p (populate type site specs bases kind stringIndex numberIndex)
      fun _ _ => True := by
  have givenBases : Given now bases := given.mono (by intro base member; simp [member])
  refine keeps_bind (keeps_members live site property
    (given.mono (by intro base member; simp [member])) genuine) ?_
  intro own q live before made
  refine keeps_ask_bind live fun inherited found => ?_
  refine keeps_bind (keeps_indexSignature live stringType site given.head) ?_
  intro ownString r live beforeString string
  refine keeps_bind (keeps_indexSignature live numberType site
    (given.mono (by intro base member; simp_all))) ?_
  intro ownNumber s live beforeNumber number
  have after := beforeString.trans beforeNumber
  have inherits (symbol : SymbolId) (member : symbol ∈ inherited) :
      (s.symbol symbol).isMember = true := by
    obtain ⟨base, -, held⟩ := of_inheritedProperties found member
    have known := (‹q.Live manner ages now›.types base).members symbol held
    rw [(after.symbol_of_isMember known).isMember]
    exact known
  have indexed (kind : IndexKind) (id : IndexId)
      (held : bases.findSome? (·.bind (s.indexOf kind)) = some id) : ages.IndexBy s type.index id := by
    obtain ⟨base, inBases, has⟩ := List.exists_of_findSome?_eq_some held
    cases base with
    | none => cases has
    | some base =>
        have older := givenBases base inBases
        have by_ : ages.IndexBy s base.index id := by
          apply (live.types base).indexes
          cases kind
          · exact Or.inl has
          · exact Or.inr has
        exact ⟨by_.1, Nat.le_trans by_.2 (Nat.le_of_lt (Nat.lt_of_lt_of_le older new))⟩
  have fits := live.types type
  apply keeps_get_bind
  refine keeps_setType live ⟨rfl, rfl, rfl⟩
    { fits with
      members := by
        intro member held
        obtain ⟨symbol, inList, same⟩ := List.mem_map.mp held
        rw [Option.some_inj] at same
        subst same
        rcases List.mem_append.mp inList with inOwn | inInherited
        · exact ((made symbol inOwn).stay after).2
        · exact inherits symbol inInherited
      properties := by
        intro _ structural member held
        obtain ⟨symbol, inList, same⟩ := List.mem_map.mp held
        rw [Option.some_inj] at same
        subst same
        rcases List.mem_append.mp inList with inOwn | inInherited
        · obtain ⟨there, age⟩ := ((made symbol inOwn).stay after).1
          exact ⟨there, Nat.le_trans age new⟩
        · exfalso
          rcases nominal with none | nominal
          · obtain ⟨base, inBases, -⟩ := of_inheritedProperties found inInherited
            rw [none] at inBases
            cases inBases
          · have stays := (before.trans after).type_of_isNominal nominal
            change (s.type type).isNominal = false at structural
            rw [stays.isNominal, nominal] at structural
            cases structural
      indexes := by
        rintro id (held | held)
        · cases ownIs : ownString with
          | some own =>
              rw [ownIs] at held
              cases held
              obtain ⟨there, age⟩ := beforeNumber.indexBy (string id ownIs)
              exact ⟨there, Nat.le_trans age new⟩
          | none =>
              rw [ownIs] at held
              exact indexed .string id held
        · cases ownIs : ownNumber with
          | some own =>
              rw [ownIs] at held
              cases held
              obtain ⟨there, age⟩ := number id ownIs
              exact ⟨there, Nat.le_trans age new⟩
          | none =>
              rw [ownIs] at held
              exact indexed .number id held }

theorem keeps_heritageSite (parent : SiteId) {base : Option TypeId} (given : Given now [base]) :
    Keeps manner ages now p (heritageSite parent base) fun q site =>
      (q.site site).kind = .expressionWithTypeArguments := by
  apply keeps_get_bind
  refine keeps_lift_bind live fun id found => ?_
  obtain rfl : base = some id := of_present found
  have older : id.index < now := given.of_some
  have there : id.index < p.types.size := Nat.lt_of_lt_of_le older live.bound
  have fits := live.types id
  refine keeps_bind (keeps_newSite live (siteFits_fresh _ _ _ _ _ _ _)) ?_
  rintro site q live before ⟨inside, age, held, -⟩
  refine keeps_bind (keeps_newSite live (siteFits_fresh _ _ _ _ _ _ _)) ?_
  rintro place r live after ⟨insidePlace, -, heldPlace, others⟩
  have same : r.site site = { kind := .expressionWithTypeArguments, parent := some parent } := by
    rw [others site inside, held]
  have insideSite := Nat.lt_of_lt_of_le inside after.sites
  refine keeps_bind (keeps_setSite live ⟨rfl, rfl, fun _ _ held => held⟩
    { live.sites site with
      expression := by
        intro other held
        cases held
        exact ⟨insidePlace, Or.inl (by rw [heldPlace])⟩
      base := by
        intro _ other held
        change (r.site site).answers.type = some (some other) at held
        rw [same] at held
        cases held }) ?_
  intro _ s live last written
  have written := written insideSite
  have kind : (s.site site).kind = .expressionWithTypeArguments := by rw [written, same]
  have kindPlace : (s.site place).kind = .identifier := by
    rw [(last.site place insidePlace).kind, heldPlace]
  have whole := (before.trans after).trans last
  have stays := whole.type id there
  refine keeps_bind (keeps_bindSite live
    { live.sites site with
      denotes := by
        intro isWritten
        change (s.site site).kind.isWritten = true at isWritten
        rw [kind] at isWritten
        cases isWritten
      referred := by
        intro reference
        change (s.site site).kind = .typeReference at reference
        rw [kind] at reference
        cases reference
      plain := by
        intro node
        change (s.site site).kind = .typeNode at node
        rw [kind] at node
        cases node
      inferred := by
        intro infer
        change (s.site site).kind = .inferType at infer
        rw [kind] at infer
        cases infer
      base := by
        intro _ other held
        cases held
        refine ⟨by rw [age]; exact older, place, by rw [written], kindPlace, ?_, ?_⟩
        · rw [(last.site place insidePlace).name, heldPlace, stays.symbol]
          cases has : (p.type id).symbol with
          | none => rfl
          | some symbol =>
              rw [Option.map_some, Option.map_some,
                (whole.symbol symbol (fits.symbol symbol has).1.1).name]
        · intro symbol has
          rw [stays.symbol] at has
          exact Nat.lt_of_lt_of_le (fits.symbol symbol has).1.1 whole.symbols }) ?_
  intro _ t live end_ _
  apply keeps_pure live
  rw [(end_.site_of_kind (by rw [kind]; decide)).kind]
  exact kind

theorem keeps_addHeritage (site : SiteId) (token : HeritageToken) {bases : List (Option TypeId)}
    (given : Given now bases) :
    Keeps manner ages now p (addHeritage site token bases) fun _ _ => True := by
  unfold addHeritage
  split
  · exact keeps_pure live trivial
  · have each : Keeps manner ages now p (bases.mapM (heritageSite site)) fun q places =>
        ∀ place ∈ places, (q.site place).kind = .expressionWithTypeArguments := by
      refine keeps_mapM ?_ live fun base member q live _ =>
        keeps_heritageSite live site (given.mono (by simpa using member))
      intro q r place before kind
      rw [(before.site_of_kind (by rw [kind]; decide)).kind]
      exact kind
    refine keeps_bind each ?_
    intro places q live _ made
    refine (keeps_setSite live ⟨rfl, rfl, fun _ _ held => held⟩
      { live.sites site with
        heritage := ?_ }).weaken fun _ _ _ _ => trivial
    intro clause member place listed
    rcases List.mem_append.mp member with old | new
    · exact (live.sites site).heritage clause old place listed
    · rw [List.mem_singleton] at new
      subst new
      obtain ⟨other, inList, same⟩ := List.mem_map.mp listed
      rw [Option.some_inj] at same
      subst same
      exact made other inList

end Steps

end Build

end TypeAtlas
