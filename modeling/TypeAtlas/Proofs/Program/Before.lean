import TypeAtlas.Proofs.Program.Fits

/-!
What building never changes about a record: its kind and name, its flags, the symbol of a type, and
the first declaration of a symbol. A record that fits into a program still fits when more is built.
-/

namespace TypeAtlas

structure Site.Stays (s t : Site) : Prop where
  kind : t.kind = s.kind
  name : t.name = s.name
  mapped : s.kind = .mappedType → ∀ written, s.type = some written → t.type = some written

structure Symbol.Stays (s t : Symbol) : Prop where
  flags : t.flags = s.flags
  name : t.name = s.name
  first : s.hasFlag .typeLiteral = true →
    ∀ place, s.declarations.first? = some place → t.declarations.first? = some place

structure TypeInfo.Stays (s t : TypeInfo) : Prop where
  flags : t.flags = s.flags
  objectFlags : t.objectFlags = s.objectFlags
  symbol : t.symbol = s.symbol

theorem Site.Stays.refl (s : Site) : s.Stays s := ⟨rfl, rfl, fun _ _ held => held⟩

theorem Symbol.Stays.refl (s : Symbol) : s.Stays s := ⟨rfl, rfl, fun _ _ held => held⟩

theorem TypeInfo.Stays.refl (s : TypeInfo) : s.Stays s := ⟨rfl, rfl, rfl⟩

theorem Site.Stays.trans {s t u : Site} (first : s.Stays t) (second : t.Stays u) : s.Stays u := by
  refine ⟨second.kind.trans first.kind, second.name.trans first.name, ?_⟩
  intro mapped written held
  exact second.mapped (first.kind.trans mapped) written (first.mapped mapped written held)

theorem Symbol.Stays.hasFlag {s t : Symbol} (stays : s.Stays t) (flag : SymbolFlag) :
    t.hasFlag flag = s.hasFlag flag := by
  rw [Symbol.hasFlag, stays.flags, Symbol.hasFlag]

theorem Symbol.Stays.trans {s t u : Symbol} (first : s.Stays t) (second : t.Stays u) : s.Stays u := by
  refine ⟨second.flags.trans first.flags, second.name.trans first.name, ?_⟩
  intro literal place held
  exact second.first (by rw [first.hasFlag, literal]) place (first.first literal place held)

theorem TypeInfo.Stays.trans {s t u : TypeInfo} (first : s.Stays t) (second : t.Stays u) :
    s.Stays u :=
  ⟨second.flags.trans first.flags, second.objectFlags.trans first.objectFlags,
    second.symbol.trans first.symbol⟩

structure Ages.Agree (ages later : Ages) (p : Program) : Prop where
  site : ∀ id : SiteId, id.index < p.sites.size → later.site id = ages.site id
  symbol : ∀ id : SymbolId, id.index < p.symbols.size → later.symbol id = ages.symbol id
  signature : ∀ id : SignatureId, id.index < p.signatures.size →
    later.signature id = ages.signature id
  index : ∀ id : IndexId, id.index < p.indexes.size → later.index id = ages.index id

theorem Ages.Agree.refl (ages : Ages) (p : Program) : ages.Agree ages p :=
  ⟨fun _ _ => rfl, fun _ _ => rfl, fun _ _ => rfl, fun _ _ => rfl⟩

namespace Program

structure Before (p q : Program) : Prop where
  sites : p.sites.size ≤ q.sites.size
  symbols : p.symbols.size ≤ q.symbols.size
  types : p.types.size ≤ q.types.size
  signatures : p.signatures.size ≤ q.signatures.size
  indexes : p.indexes.size ≤ q.indexes.size
  site : ∀ id : SiteId, id.index < p.sites.size → (p.site id).Stays (q.site id)
  symbol : ∀ id : SymbolId, id.index < p.symbols.size → (p.symbol id).Stays (q.symbol id)
  type : ∀ id : TypeId, id.index < p.types.size → (p.type id).Stays (q.type id)

namespace Before

theorem refl (p : Program) : p.Before p :=
  ⟨Nat.le_refl _, Nat.le_refl _, Nat.le_refl _, Nat.le_refl _, Nat.le_refl _,
    fun _ _ => Site.Stays.refl _, fun _ _ => Symbol.Stays.refl _, fun _ _ => TypeInfo.Stays.refl _⟩

theorem trans {p q r : Program} (first : p.Before q) (second : q.Before r) : p.Before r where
  sites := Nat.le_trans first.sites second.sites
  symbols := Nat.le_trans first.symbols second.symbols
  types := Nat.le_trans first.types second.types
  signatures := Nat.le_trans first.signatures second.signatures
  indexes := Nat.le_trans first.indexes second.indexes
  site id inside := (first.site id inside).trans
    (second.site id (Nat.lt_of_lt_of_le inside first.sites))
  symbol id inside := (first.symbol id inside).trans
    (second.symbol id (Nat.lt_of_lt_of_le inside first.symbols))
  type id inside := (first.type id inside).trans
    (second.type id (Nat.lt_of_lt_of_le inside first.types))

section Known

variable {p q : Program} (before : p.Before q)
include before

theorem site_of_kind {id : SiteId} (known : (p.site id).kind ≠ .sourceFile) :
    (p.site id).Stays (q.site id) := by
  refine before.site id (Nat.lt_of_not_le fun outside => ?_)
  rw [p.site_of_size_le outside] at known
  exact known rfl

theorem symbol_of_flag {id : SymbolId} {flag : SymbolFlag} (known : (p.symbol id).hasFlag flag = true) :
    (p.symbol id).Stays (q.symbol id) := by
  refine before.symbol id (Nat.lt_of_not_le fun outside => ?_)
  rw [p.symbol_of_size_le outside] at known
  cases known

theorem type_of_flag {id : TypeId} {flag : TypeFlag} (known : (p.type id).hasFlag flag = true) :
    (p.type id).Stays (q.type id) := by
  refine before.type id (Nat.lt_of_not_le fun outside => ?_)
  rw [p.type_of_size_le outside] at known
  cases known

theorem isTypeParameter {id : TypeId} (known : (p.type id).isTypeParameter = true) :
    (q.type id).isTypeParameter = true := by
  have stays := before.type_of_flag known
  rwa [TypeInfo.isTypeParameter, TypeInfo.hasFlag, stays.flags]

end Known

end Before

end Program

theorem Symbol.Stays.isNominal {s t : Symbol} (stays : s.Stays t) : t.isNominal = s.isNominal := by
  simp only [Symbol.isNominal, stays.hasFlag]

theorem Symbol.Stays.isMember {s t : Symbol} (stays : s.Stays t) : t.isMember = s.isMember := by
  simp only [Symbol.isMember, stays.hasFlag]

theorem TypeInfo.Stays.hasFlag {s t : TypeInfo} (stays : s.Stays t) (flag : TypeFlag) :
    t.hasFlag flag = s.hasFlag flag := by
  rw [TypeInfo.hasFlag, stays.flags, TypeInfo.hasFlag]

theorem TypeInfo.Stays.isNominal {s t : TypeInfo} (stays : s.Stays t) :
    t.isNominal = s.isNominal := by
  simp only [TypeInfo.isNominal, TypeInfo.hasObjectFlag, stays.objectFlags]

namespace Program.Before

variable {p q : Program} (before : p.Before q)
include before

theorem symbol_of_isNominal {id : SymbolId} (known : (p.symbol id).isNominal = true) :
    (p.symbol id).Stays (q.symbol id) := by
  rw [Symbol.isNominal, Bool.or_eq_true] at known
  rcases known with known | known
  · exact before.symbol_of_flag known
  · exact before.symbol_of_flag known

theorem type_of_isNominal {id : TypeId} (known : (p.type id).isNominal = true) :
    (p.type id).Stays (q.type id) := by
  refine before.type id (Nat.lt_of_not_le fun outside => ?_)
  rw [p.type_of_size_le outside] at known
  cases known

theorem symbol_of_isMember {id : SymbolId} (known : (p.symbol id).isMember = true) :
    (p.symbol id).Stays (q.symbol id) := by
  rw [Symbol.isMember, Bool.or_eq_true] at known
  rcases known with known | known
  · exact before.symbol_of_flag known
  · exact before.symbol_of_flag known

theorem carrySite {ages later : Ages} (agree : ages.Agree later p) {age : Nat} {id : SiteId}
    (known : ages.SiteBy p age id) : later.SiteBy q age id := by
  refine ⟨Nat.lt_of_lt_of_le known.1 before.sites, ?_⟩
  rw [agree.site id known.1]
  exact known.2

theorem carrySymbol {ages later : Ages} (agree : ages.Agree later p) {age : Nat} {id : SymbolId}
    (known : ages.SymbolBy p age id) : later.SymbolBy q age id := by
  refine ⟨Nat.lt_of_lt_of_le known.1 before.symbols, ?_⟩
  rw [agree.symbol id known.1]
  exact known.2

theorem carrySignature {ages later : Ages} (agree : ages.Agree later p) {age : Nat} {id : SignatureId}
    (known : ages.SignatureBy p age id) : later.SignatureBy q age id := by
  refine ⟨Nat.lt_of_lt_of_le known.1 before.signatures, ?_⟩
  rw [agree.signature id known.1]
  exact known.2

theorem carryIndex {ages later : Ages} (agree : ages.Agree later p) {age : Nat} {id : IndexId}
    (known : ages.IndexBy p age id) : later.IndexBy q age id := by
  refine ⟨Nat.lt_of_lt_of_le known.1 before.indexes, ?_⟩
  rw [agree.index id known.1]
  exact known.2

theorem carryWritten {ages later : Ages} (agree : ages.Agree later p) {age : Nat} {id : SiteId}
    (known : ages.WrittenBy p age id) : later.WrittenBy q age id := by
  refine ⟨before.carrySite agree known.1, ?_⟩
  rw [(before.site id known.1.1).kind]
  exact known.2

theorem siteBy {ages : Ages} {age : Nat} {id : SiteId} (known : ages.SiteBy p age id) :
    ages.SiteBy q age id :=
  before.carrySite (Ages.Agree.refl ages p) known

theorem symbolBy {ages : Ages} {age : Nat} {id : SymbolId} (known : ages.SymbolBy p age id) :
    ages.SymbolBy q age id :=
  before.carrySymbol (Ages.Agree.refl ages p) known

theorem signatureBy {ages : Ages} {age : Nat} {id : SignatureId}
    (known : ages.SignatureBy p age id) : ages.SignatureBy q age id :=
  before.carrySignature (Ages.Agree.refl ages p) known

theorem indexBy {ages : Ages} {age : Nat} {id : IndexId} (known : ages.IndexBy p age id) :
    ages.IndexBy q age id :=
  before.carryIndex (Ages.Agree.refl ages p) known

theorem writtenBy {ages : Ages} {age : Nat} {id : SiteId} (known : ages.WrittenBy p age id) :
    ages.WrittenBy q age id :=
  before.carryWritten (Ages.Agree.refl ages p) known

theorem titled {type : TypeId} {name : Option String} (inside : type.index < p.types.size)
    (known : p.Titled type name) : q.Titled type name := by
  obtain ⟨symbol, held, there, titled⟩ := known
  refine ⟨symbol, by rw [(before.type type inside).symbol, held],
    Nat.lt_of_lt_of_le there before.symbols, ?_⟩
  rw [(before.symbol symbol there).name]
  exact titled

theorem declares {type : TypeId} {name : String} (declared : p.Declares type name) :
    q.Declares type name := by
  obtain ⟨⟨symbol, held, there, called⟩, kind⟩ := declared
  have stays : (p.type type).Stays (q.type type) := by
    rcases kind with nominal | literal | plain
    · exact before.type_of_isNominal nominal
    · have flagged : (p.type type).hasFlag .union = true := by rw [TypeInfo.hasFlag, literal]; rfl
      exact before.type_of_flag flagged
    · have flagged : (p.type type).hasFlag .union = true := by rw [TypeInfo.hasFlag, plain]; rfl
      exact before.type_of_flag flagged
  refine ⟨⟨symbol, stays.symbol.trans held, Nat.lt_of_lt_of_le there before.symbols, ?_⟩, ?_⟩
  · rw [(before.symbol symbol there).name, called]
  · rwa [stays.isNominal, stays.flags]

end Program.Before

section Stay

variable {manner : Manner} {ages later : Ages} {p q : Program} {age : Nat} (before : p.Before q)
  (agree : ages.Agree later p)
include before agree

theorem SiteFits.carry {s : Site} (fits : SiteFits manner ages p age s) (now : age ≤ p.types.size) :
    SiteFits manner later q age s where
  type mapped child held := before.carryWritten agree (fits.type mapped child held)
  types child held := before.carryWritten agree (fits.types child held)
  constraint child held := before.carryWritten agree (fits.constraint child held)
  default child held := before.carryWritten agree (fits.default child held)
  denotes := fits.denotes
  referred kind type held nominal := by
    have inside := Nat.lt_of_lt_of_le (fits.denotes (by rw [kind]; rfl) type held) now
    rw [(before.type type inside).isNominal] at nominal
    exact before.titled inside (fits.referred kind type held nominal)
  plain kind type held nominal := by
    have inside := Nat.lt_of_lt_of_le (fits.denotes (by rw [kind]; rfl) type held) now
    rw [(before.type type inside).isNominal] at nominal
    exact before.titled inside (fits.plain kind type held nominal)
  inferred kind type held := before.isTypeParameter (fits.inferred kind type held)
  inferredAt kind declared held := by
    have known := fits.inferredAt kind declared held
    rw [(before.site_of_kind (by rw [known]; decide)).kind]
    exact known
  signature signature held := before.carrySignature agree (fits.signature signature held)
  symbol symbol held := by
    obtain ⟨by_, stands⟩ := fits.symbol symbol held
    refine ⟨before.carrySymbol agree by_, ?_⟩
    rw [(before.symbol symbol by_.1).flags]
    exact stands
  called symbol held name written := by
    rw [(before.symbol symbol (fits.symbol symbol held).1.1).name]
    exact fits.called symbol held name written
  nameless := fits.nameless
  expression place held := by
    obtain ⟨inside, kind⟩ := fits.expression place held
    refine ⟨Nat.lt_of_lt_of_le inside before.sites, ?_⟩
    rw [(before.site place inside).kind]
    exact kind
  heritage clause member place listed := by
    have known := fits.heritage clause member place listed
    rw [(before.site_of_kind (by rw [known]; decide)).kind]
    exact known
  base kind base held := by
    obtain ⟨older, place, written, identifier, name, there⟩ := fits.base kind base held
    have inside := Nat.lt_of_lt_of_le older now
    have known : (p.site place).kind ≠ .sourceFile := by rw [identifier]; decide
    have stays := before.site_of_kind known
    refine ⟨older, place, written, by rw [stays.kind, identifier], ?_, ?_⟩
    · rw [stays.name, name, (before.type base inside).symbol]
      cases held : (p.type base).symbol with
      | none => rfl
      | some symbol => rw [Option.map_some, Option.map_some, (before.symbol symbol (there symbol held)).name]
    · intro symbol has
      rw [(before.type base inside).symbol] at has
      exact Nat.lt_of_lt_of_le (there symbol has) before.symbols

theorem SymbolFits.carry {m : Symbol} (fits : SymbolFits ages p age m) : SymbolFits later q age m where
  first place held := by
    obtain ⟨by_, stands⟩ := fits.first place held
    refine ⟨before.carrySite agree by_, ?_⟩
    rw [(before.site place by_.1).kind]
    exact stands
  parameter flagged := by
    obtain ⟨place, held, kind⟩ := fits.parameter flagged
    refine ⟨place, held, ?_⟩
    rw [(before.site_of_kind (by rw [kind]; decide)).kind]
    exact kind
  member flagged place held := by
    rw [(before.site place (fits.first place held).1.1).kind]
    exact fits.member flagged place held
  place place held := by
    obtain ⟨by_, value⟩ := fits.place place held
    refine ⟨before.carrySite agree by_, ?_⟩
    rw [(before.site place by_.1).kind]
    exact value
  titled place declared := by
    have inside : place.index < p.sites.size := by
      rcases declared with ⟨_, first⟩ | value
      · exact (fits.first place first).1.1
      · exact (fits.place place value).1.1
    rw [(before.site place inside).name]
    exact fits.titled place declared
  value := fits.value
  aliased := fits.aliased
  nominal flagged type held := by
    have known := fits.nominal flagged type held
    rw [(before.type_of_isNominal known).isNominal]
    exact known
  parameterType flagged type held := before.isTypeParameter (fits.parameterType flagged type held)
  declares flagged type held := before.declares (fits.declares flagged type held)

theorem TypeFits.carry {i : Nat} {t : TypeInfo} (fits : TypeFits manner ages p i t) :
    TypeFits manner later q i t where
  parts := fits.parts
  aliasArguments disciplined argument held :=
    (fits.aliasArguments disciplined argument held).imp_right before.isTypeParameter
  symbol symbol held := by
    obtain ⟨by_, plain⟩ := fits.symbol symbol held
    refine ⟨before.carrySymbol agree by_, ?_⟩
    rw [(before.symbol symbol by_.1).hasFlag]
    exact plain
  nominal flagged := by
    obtain ⟨flags, reference, anonymous, mapped, arguments, symbol, held, nominal⟩ :=
      fits.nominal flagged
    refine ⟨flags, reference, anonymous, mapped, arguments, symbol, held, ?_⟩
    rw [(before.symbol_of_isNominal nominal).isNominal]
    exact nominal
  declared symbol held nominal := by
    rw [(before.symbol symbol (fits.symbol symbol held).1.1).isNominal] at nominal
    exact fits.declared symbol held nominal
  keyof := fits.keyof
  index := fits.index
  parameter flagged := by
    obtain ⟨unaliased, symbol, held, known⟩ := fits.parameter flagged
    refine ⟨unaliased, symbol, held, ?_⟩
    rw [(before.symbol_of_flag known).hasFlag]
    exact known
  aliased named held := by
    obtain ⟨known, synthesized⟩ := fits.aliased named held
    refine ⟨by rw [(before.symbol_of_flag known).hasFlag, known], ?_⟩
    intro symbol has
    rw [(before.symbol symbol (fits.symbol symbol has).1.1).name]
    exact synthesized symbol has
  enumerated flagged member held := by
    have known := fits.enumerated flagged member held
    rw [(before.type_of_flag known).hasFlag]
    exact known
  members member held := by
    have known := fits.members member held
    rw [(before.symbol_of_isMember known).isMember]
    exact known
  properties disciplined structural member held :=
    before.carrySymbol agree (fits.properties disciplined structural member held)
  calls signature held := before.carrySignature agree (fits.calls signature held)
  indexes index held := before.carryIndex agree (fits.indexes index held)
  typeParameters := fits.typeParameters
  mapped flagged := by
    obtain ⟨symbol, place, written, key, held, literal, first, kind, type, by_, named, parameter⟩ :=
      fits.mapped flagged
    have known : (p.site place).kind ≠ .sourceFile := by rw [kind]; decide
    have stays := before.site_of_kind known
    have same := before.symbol_of_flag literal
    exact ⟨symbol, place, written, key, held, by rw [same.hasFlag, literal],
      same.first literal place first, by rw [stays.kind, kind], stays.mapped kind written type,
      before.carryWritten agree by_, named, before.isTypeParameter parameter⟩

theorem SignatureFits.carry {g : Signature} (fits : SignatureFits manner ages p age g) :
    SignatureFits manner later q age g where
  typeParameters disciplined param held := by
    obtain ⟨older, known⟩ := fits.typeParameters disciplined param held
    exact ⟨older, before.isTypeParameter known⟩
  parameters param held := before.carrySymbol agree (fits.parameters param held)
  returns type held := by
    refine (fits.returns type held).imp_right ?_
    intro known
    rw [(before.type_of_isNominal known).isNominal]
    exact known

omit agree

theorem SiteFits.stay {s : Site} (fits : SiteFits manner ages p age s) (now : age ≤ p.types.size) :
    SiteFits manner ages q age s :=
  fits.carry before (Ages.Agree.refl ages p) now

theorem SymbolFits.stay {m : Symbol} (fits : SymbolFits ages p age m) : SymbolFits ages q age m :=
  fits.carry before (Ages.Agree.refl ages p)

theorem TypeFits.stay {i : Nat} {t : TypeInfo} (fits : TypeFits manner ages p i t) :
    TypeFits manner ages q i t :=
  fits.carry before (Ages.Agree.refl ages p)

theorem SignatureFits.stay {g : Signature} (fits : SignatureFits manner ages p age g) :
    SignatureFits manner ages q age g :=
  fits.carry before (Ages.Agree.refl ages p)

end Stay

end TypeAtlas
