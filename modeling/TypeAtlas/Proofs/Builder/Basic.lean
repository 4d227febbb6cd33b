import TypeAtlas.Program.Builder.Export
import TypeAtlas.Proofs.Program.Writes

/-!
Declarations keep a program fitting: a place and a symbol that point at each other, and the exports of
the module.
-/

namespace TypeAtlas

variable {manner : Manner} {ages : Ages} {now age : Nat} {p q : Program}

/-- A place without anything in it yet. -/
theorem siteFits_fresh (kind : SiteKind) (name : Option String) (parent : Option SiteId)
    (fileName : Option String) (spread optional : Option Bool) (modifiers : Slots String) :
    SiteFits manner ages p age { kind, name, parent, fileName, spread, optional, modifiers } where
  type _ _ held := by cases held
  types _ held := by cases held
  constraint _ held := by cases held
  default _ held := by cases held
  denotes _ _ held := by cases held
  referred _ _ held := by cases held
  plain _ _ held := by cases held
  inferred _ _ held := by cases held
  inferredAt _ _ held := by cases held
  signature _ held := by cases held
  symbol _ held := by cases held
  called _ held := by cases held
  nameless _ _ := rfl
  expression _ held := by cases held
  heritage _ member := by cases member
  base _ _ held := by cases held

namespace SiteFits

variable {s : Site} (fits : SiteFits manner ages p age s)
include fits

theorem of_same {t : Site}
    (same : t = { s with
      parent := t.parent, typeParameters := t.typeParameters, parameters := t.parameters,
      initializer := t.initializer, modifiers := t.modifiers, optional := t.optional }) :
    SiteFits manner ages p age t := by
  rw [same]
  exact ⟨fits.type, fits.types, fits.constraint, fits.default, fits.denotes, fits.referred,
    fits.plain, fits.inferred, fits.inferredAt, fits.signature, fits.symbol, fits.called,
    fits.nameless, fits.expression, fits.heritage, fits.base⟩

theorem withSymbol {symbol : SymbolId} (made : ages.SymbolBy p age symbol)
    (stands : s.kind.standsFor (p.symbol symbol).flags = true)
    (called : ∀ name, s.name = some name → (p.symbol symbol).name = name)
    (named : manner.nameless → ¬(s.kind = .identifier ∨ s.kind = .expression)) :
    SiteFits manner ages p age { s with symbol := some symbol } :=
  { fits with
    symbol := by
      intro other held
      cases held
      exact ⟨made, stands⟩
    called := by
      intro other held
      cases held
      exact called
    nameless := fun nameless kind => absurd kind (named nameless) }

theorem withType {child : SiteId} (written : s.kind ≠ .mappedType → ages.WrittenBy p age child) :
    SiteFits manner ages p age { s with type := some child } :=
  { fits with
    type := by
      intro kind other held
      cases held
      exact written kind }

theorem withAnswer {type : Option TypeId} (unwritten : s.kind.isWritten = false)
    (other : s.kind ≠ .expressionWithTypeArguments) :
    SiteFits manner ages p age { s with answers := { s.answers with type := some type } } :=
  { fits with
    denotes := by
      intro written
      rw [unwritten] at written
      cases written
    referred := by
      intro kind
      rw [kind] at unwritten
      cases unwritten
    plain := by
      intro kind
      rw [kind] at unwritten
      cases unwritten
    inferred := by
      intro kind
      rw [kind] at unwritten
      cases unwritten
    base := fun kind => absurd kind other }

theorem withExpression {place : SiteId} (inside : place.index < p.sites.size)
    (kind : (p.site place).kind = .identifier ∨ (p.site place).kind = .expression)
    (other : s.kind ≠ .expressionWithTypeArguments) :
    SiteFits manner ages p age { s with expression := some place } :=
  { fits with
    expression := by
      intro held same
      cases same
      exact ⟨inside, kind⟩
    base := fun kind => absurd kind other }

end SiteFits

/-- A type that is neither declared nor generic, and has no members yet. -/
structure TypeInfo.Simple (t : TypeInfo) : Prop where
  unaliased : t.alias? = none
  aliasArguments : t.aliasArguments = none
  typeParameters : t.typeParameters = none
  properties : t.properties = some []
  stringIndex : t.stringIndex = none
  numberIndex : t.numberIndex = none
  parameter : t.isTypeParameter = false
  nominal : t.isNominal = false
  mapped : t.hasObjectFlag .mapped = false

theorem typeFits_simple {t : TypeInfo} {i : Nat} (simple : t.Simple)
    (parts : ∀ part, some part ∈ t.parts → part.index < i)
    (symbol : ∀ symbol, t.symbol = some symbol → ages.SymbolBy p i symbol ∧
      (p.symbol symbol).hasFlag .typeAlias = false ∧ (p.symbol symbol).isNominal = false)
    (keyof : t.hasFlag .index = true → t.symbol = none ∧ t.flags = [.index])
    (enumerated : t.isEnumeration = true → ∀ member, some member ∈ t.types.slots →
      (p.type member).hasFlag .enumLiteral = true)
    (calls : ∀ signature, some signature ∈ t.callSignatures.slots → ages.SignatureBy p i signature) :
    TypeFits manner ages p i t where
  parts := parts
  aliasArguments _ _ held := by
    rw [simple.aliasArguments] at held
    cases held
  symbol _ held := ⟨(symbol _ held).1, (symbol _ held).2.1⟩
  nominal flagged := by
    rw [simple.nominal] at flagged
    cases flagged
  declared _ held flagged := by
    rw [(symbol _ held).2.2] at flagged
    cases flagged
  keyof flagged := (keyof flagged).1
  index flagged := (keyof flagged).2
  parameter flagged := by
    rw [simple.parameter] at flagged
    cases flagged
  aliased _ held := by
    rw [simple.unaliased] at held
    cases held
  enumerated := enumerated
  members _ held := by
    rw [simple.properties] at held
    cases held
  properties _ _ _ held := by
    rw [simple.properties] at held
    cases held
  calls := calls
  indexes _ held := by
    rw [simple.stringIndex, simple.numberIndex] at held
    rcases held with held | held <;> cases held
  typeParameters _ := simple.typeParameters
  mapped flagged := by
    rw [simple.mapped] at flagged
    cases flagged

/-- A type without a symbol is told by its flags and its parts alone. -/
theorem typeFits_unnamed {t : TypeInfo} {i : Nat} (simple : t.Simple) (unnamed : t.symbol = none)
    (keyof : t.hasFlag .index = true → t.flags = [.index]) (calls : t.callSignatures = some [])
    (plain : t.isEnumeration = false)
    (parts : ∀ part, some part ∈ t.parts → part.index < i) : TypeFits manner ages p i t := by
  refine typeFits_simple simple parts ?_ (fun flagged => ⟨unnamed, keyof flagged⟩) ?_ ?_
  · intro symbol held
    rw [unnamed] at held
    cases held
  · intro flagged
    rw [plain] at flagged
    cases flagged
  · intro signature held
    rw [calls] at held
    cases held

namespace Build

section Parts

variable {α : Type}

def writingDefault (default : Option TypeId) (site : SiteId) (rest : Build α) : Build α := do
  if let some fallback := default then
    let written ← writtenType fallback site
    setSite site ({ · with default := some written })
  rest

def placingInitializer (initializer : Option TypeId) (site : SiteId) (rest : Build α) : Build α := do
  if let some value := initializer then
    let expression ← newSite { kind := .expression, parent := some site }
    setSite site ({ · with initializer := some expression })
    bindSite expression value
  rest

def bindingValue (value : Option TypeId) (symbol : SymbolId) (site : SiteId) (rest : Build α) :
    Build α := do
  if let some type := value then
    bindSymbol symbol type
    bindSite site type
  rest

end Parts

open Program

section Steps

variable (live : p.Live manner ages now)
include live

/-- Changes that say nothing about types. -/
theorem keeps_arrange {id : SiteId} {f : Site → Site}
    (same : f (p.site id) = { p.site id with
      parent := (f (p.site id)).parent, typeParameters := (f (p.site id)).typeParameters,
      parameters := (f (p.site id)).parameters, initializer := (f (p.site id)).initializer,
      modifiers := (f (p.site id)).modifiers, optional := (f (p.site id)).optional }) :
    Keeps manner ages now p (setSite id f) fun _ _ => True := by
  have stays : (p.site id).Stays (f (p.site id)) := by
    rw [same]
    exact ⟨rfl, rfl, fun _ _ held => held⟩
  exact (keeps_setSite live stays ((live.sites id).of_same same)).weaken fun _ _ _ _ => trivial

theorem keeps_giveType {id child : SiteId} (kind : (p.site id).kind ≠ .mappedType)
    (written : ages.WrittenBy p (ages.site id) child) :
    Keeps manner ages now p (setSite id ({ · with type := some child })) fun _ _ => True :=
  (keeps_setSite live ⟨rfl, rfl, fun mapped => absurd mapped kind⟩
    ((live.sites id).withType fun _ => written)).weaken fun _ _ _ _ => trivial

theorem keeps_giveSymbol {id : SiteId} {symbol : SymbolId} (inside : symbol.index < p.symbols.size)
    (made : ages.site id = now)
    (stands : (p.site id).kind.standsFor (p.symbol symbol).flags = true)
    (called : (p.site id).name = some (p.symbol symbol).name)
    (named : ¬((p.site id).kind = .identifier ∨ (p.site id).kind = .expression)) :
    Keeps manner ages now p (setSite id ({ · with symbol := some symbol })) fun _ _ => True :=
  (keeps_setSite live ⟨rfl, rfl, fun _ _ held => held⟩ ((live.sites id).withSymbol
    ⟨inside, made ▸ live.symbol symbol⟩ stands
    (fun _ written => Option.some.inj (called.symm.trans written)) fun _ => named)).weaken
      fun _ _ _ _ => trivial

theorem keeps_answer {id : SiteId} {type : Option TypeId} (unwritten : (p.site id).kind.isWritten = false)
    (other : (p.site id).kind ≠ .expressionWithTypeArguments) :
    Keeps manner ages now p (bindSite (some id) type) fun _ _ => True :=
  keeps_bindSite live ((live.sites id).withAnswer unwritten other)

/-- Changes to a symbol that say nothing about its declarations or types. -/
theorem keeps_arrangeSymbol {id : SymbolId} {f : Symbol → Symbol}
    (same : f (p.symbol id) = { p.symbol id with
      members := (f (p.symbol id)).members, exports := (f (p.symbol id)).exports,
      parent := (f (p.symbol id)).parent }) :
    Keeps manner ages now p (setSymbol id f) fun _ _ => True := by
  have fits := live.symbols id
  refine keeps_setSymbol live ?_ ?_
  · rw [same]
    exact ⟨rfl, rfl, fun _ _ held => held⟩
  · rw [same]
    exact ⟨fits.first, fits.parameter, fits.member, fits.place, fits.titled, fits.value,
      fits.aliased, fits.nominal, fits.parameterType, fits.declares⟩

theorem keeps_setExports (exports : Slots SymbolId) :
    Keeps manner ages now p (setExports exports) fun _ _ => True :=
  keeps_get_bind (keeps_arrangeSymbol live rfl)

theorem keeps_addExport (symbol : Option SymbolId) :
    Keeps manner ages now p (addExport symbol) fun _ _ => True := by
  apply keeps_get_bind
  dsimp only
  refine keeps_lift_bind live fun held _ => ?_
  split
  · exact keeps_pure live trivial
  · exact keeps_lift_bind live fun exports _ => keeps_setExports live exports

theorem keeps_pushExport (symbol : SymbolId) :
    Keeps manner ages now p (pushExport symbol) fun _ _ => True := by
  apply keeps_get_bind
  exact keeps_lift_bind live fun exports _ => keeps_setExports live _

theorem keeps_exportIf (exported : Bool) (symbol : SymbolId) :
    Keeps manner ages now p (exportIf exported symbol) fun _ _ => True := by
  unfold exportIf
  split
  · exact keeps_addExport live symbol
  · exact keeps_pure live trivial

theorem keeps_source (fileName : String) :
    Keeps manner ages now p (source fileName) fun _ _ => True := by
  apply keeps_get_bind
  split
  · exact keeps_pure live trivial
  · refine keeps_bind (keeps_newSite live (siteFits_fresh _ _ _ _ _ _ _)) ?_
    intro id q live _ _
    refine keeps_bind (keeps_modify live rfl rfl rfl rfl rfl live.inferred rfl) ?_
    intro _ r live _ _
    exact keeps_pure live trivial

end Steps

structure Declared (ages : Ages) (now : Nat) (kind : SiteKind) (name : String) (flags : SymbolFlags)
    (q : Program) (symbol : SymbolId) (site : SiteId) : Prop where
  siteThere : site.index < q.sites.size
  siteAge : ages.site site = now
  kind : (q.site site).kind = kind
  title : (q.site site).name = some name
  symbolThere : symbol.index < q.symbols.size
  symbolAge : ages.symbol symbol = now
  name : (q.symbol symbol).name = name
  flags : (q.symbol symbol).flags = flags

theorem Declared.stay {kind : SiteKind} {name : String} {flags : SymbolFlags} {symbol : SymbolId}
    {site : SiteId} (declared : Declared ages now kind name flags p symbol site)
    (before : p.Before q) : Declared ages now kind name flags q symbol site :=
  ⟨Nat.lt_of_lt_of_le declared.siteThere before.sites, declared.siteAge,
    (before.site site declared.siteThere).kind.trans declared.kind,
    (before.site site declared.siteThere).name.trans declared.title,
    Nat.lt_of_lt_of_le declared.symbolThere before.symbols, declared.symbolAge,
    (before.symbol symbol declared.symbolThere).name.trans declared.name,
    (before.symbol symbol declared.symbolThere).flags.trans declared.flags⟩

structure Suits (kind : SiteKind) (flags : SymbolFlags) : Prop where
  stands : kind.standsFor flags = true
  parameter : flags.contains .typeParameter = true → kind = .typeParameter
  member : (flags.contains .property || flags.contains .method) = true → kind.isValue = true
  named : ¬(kind = .identifier ∨ kind = .expression)

/-- A symbol with its declaration, and nothing known of its types. -/
theorem symbolFits_declared {symbol : Symbol} {site : SiteId} (made : ages.SiteBy p age site)
    (suits : Suits (p.site site).kind symbol.flags) (declarations : symbol.declarations = Slots.of [site])
    (title : (p.site site).name = some symbol.name)
    (place : ∀ place, symbol.valueDeclaration = some place → place = site ∧
      (p.site site).kind.isValue = true)
    (unanswered : symbol.answers = {}) : SymbolFits ages p age symbol where
  first other held := by
    rw [declarations] at held
    cases held
    exact ⟨made, suits.stands⟩
  parameter flagged := ⟨site, by rw [declarations]; rfl, suits.parameter flagged⟩
  member flagged other held := by
    rw [declarations] at held
    cases held
    exact suits.member flagged
  place other held := by
    obtain ⟨rfl, value⟩ := place other held
    exact ⟨made, value⟩
  titled other held := by
    rcases held with ⟨_, first⟩ | value
    · rw [declarations] at first
      cases first
      exact title
    · rw [(place other value).1]
      exact title
  value _ _ held := by
    rw [unanswered] at held
    cases held
  aliased _ _ held := by
    rw [unanswered] at held
    cases held
  nominal _ _ held := by
    rw [unanswered] at held
    cases held
  parameterType _ _ held := by
    rw [unanswered] at held
    cases held
  declares _ _ held := by
    rw [unanswered] at held
    cases held

theorem keeps_declare {kind : SiteKind} {flags : SymbolFlags} (live : p.Live manner ages now)
    (suits : Suits kind flags) (name : String) (doc fileName : Option String) :
    Keeps manner ages now p (declare kind name flags doc fileName) fun q made =>
      Declared ages now kind name flags q made.1 made.2 := by
  apply keeps_get_bind
  refine keeps_bind (keeps_source live _) ?_
  intro parent q live _ _
  refine keeps_bind (keeps_newSite live (siteFits_fresh _ _ _ _ _ _ _)) ?_
  rintro site r live - ⟨inside, age, held, -⟩
  have same : (r.site site).kind = kind := by rw [held]
  refine keeps_bind (keeps_newSymbol live fun id =>
    symbolFits_declared ⟨inside, Nat.le_of_eq age⟩ (by rw [same]; exact suits) rfl (by rw [held])
      (fun _ none => by cases none) rfl) ?_
  rintro symbol t live before ⟨there, symbolAge, made⟩
  have kept : (t.site site).kind = kind := by rw [(before.site site inside).kind, same]
  have title : (t.site site).name = some name := by rw [(before.site site inside).name, held]
  have declared : Declared ages now kind name flags t symbol site :=
    ⟨Nat.lt_of_lt_of_le inside before.sites, age, kept, title, there, symbolAge, by rw [made],
      by rw [made]⟩
  refine keeps_bind (keeps_giveSymbol live there age ?_ (by rw [title, made]) ?_) ?_
  · rw [kept, made]
    exact suits.stands
  · rw [kept]
    exact suits.named
  · intro _ u live before _
    exact keeps_pure live (declared.stay before)

theorem keeps_valueDeclaration {kind : SiteKind} {name : String} {flags : SymbolFlags}
    {symbol : SymbolId} {site : SiteId} (live : p.Live manner ages now)
    (declared : Declared ages now kind name flags p symbol site) (value : kind.isValue = true) :
    Keeps manner ages now p (setSymbol symbol ({ · with valueDeclaration := some site }))
      fun _ _ => True := by
  refine keeps_setSymbol live ⟨rfl, rfl, fun _ _ held => held⟩
    { live.symbols symbol with place := ?_, titled := ?_ }
  · intro place held
    cases held
    refine ⟨⟨declared.siteThere, ?_⟩, by rw [declared.kind]; exact value⟩
    exact Nat.le_of_eq (declared.siteAge.trans declared.symbolAge.symm)
  · rintro place (first | held)
    · exact (live.symbols symbol).titled place (Or.inl first)
    · cases held
      rw [declared.title]
      exact congrArg some declared.name.symm

end Build

end TypeAtlas
