import TypeAtlas.Proofs.Program.Whole

/-!
What a program is told it is told for good. Whatever was complete stays complete while records are
added and told more.
-/

namespace TypeAtlas

open Build

structure Site.Retains (s t : Site) : Prop where
  kind : t.kind = s.kind
  symbol : s.symbol ≠ none → t.symbol ≠ none
  named : s.kind.isExpression = true → t.symbol = s.symbol
  type : s.type ≠ none → t.type ≠ none
  initializer : s.initializer ≠ none → t.initializer ≠ none
  expression : s.expression ≠ none → t.expression ≠ none
  answer : s.answers.type ≠ none → t.answers.type ≠ none
  signature : s.answers.signature ≠ none → t.answers.signature ≠ none

structure Symbol.Retains (s t : Symbol) : Prop where
  flags : t.flags = s.flags
  declarations : s.declarations ≠ some [] → t.declarations = s.declarations
  value : ∀ site, s.valueDeclaration = some site → t.valueDeclaration = some site
  declared : s.answers.declared ≠ none → t.answers.declared ≠ none

theorem Site.Retains.refl (s : Site) : s.Retains s := ⟨rfl, id, fun _ => rfl, id, id, id, id, id⟩

theorem Site.Retains.trans {s t u : Site} (first : s.Retains t) (second : t.Retains u) :
    s.Retains u where
  kind := second.kind.trans first.kind
  symbol held := second.symbol (first.symbol held)
  named kind := (second.named (first.kind.symm ▸ kind)).trans (first.named kind)
  type held := second.type (first.type held)
  initializer held := second.initializer (first.initializer held)
  expression held := second.expression (first.expression held)
  answer held := second.answer (first.answer held)
  signature held := second.signature (first.signature held)

theorem Site.Retains.isExpression {s t : Site} (retains : s.Retains t) :
    t.isExpression = s.isExpression := by
  unfold Site.isExpression
  rw [retains.kind]
  by_cases kind : s.kind = .identifier
  · rw [retains.named (by rw [kind]; rfl)]
  · rw [beq_eq_false_iff_ne.mpr kind, Bool.false_and, Bool.false_and]

theorem Symbol.Retains.refl (s : Symbol) : s.Retains s :=
  ⟨rfl, fun _ => rfl, fun _ held => held, fun held => held⟩

theorem Symbol.Retains.hasFlag {s t : Symbol} (retains : s.Retains t) (flag : SymbolFlag) :
    t.hasFlag flag = s.hasFlag flag := by
  rw [Symbol.hasFlag, retains.flags, Symbol.hasFlag]

theorem Symbol.Retains.trans {s t u : Symbol} (first : s.Retains t) (second : t.Retains u) :
    s.Retains u where
  flags := second.flags.trans first.flags
  declarations held := by
    have same := first.declarations held
    exact (second.declarations (same.symm ▸ held)).trans same
  value site held := second.value site (first.value site held)
  declared held := second.declared (first.declared held)

theorem Symbol.Retains.first {s t : Symbol} (retains : s.Retains t) {site : SiteId}
    (first : s.declarations.first? = some site) : t.declarations.first? = some site := by
  rw [retains.declarations, first]
  intro empty
  rw [empty] at first
  cases first

theorem Symbol.Retains.isMember {s t : Symbol} (retains : s.Retains t) : t.isMember = s.isMember := by
  rw [Symbol.isMember, retains.hasFlag, retains.hasFlag, Symbol.isMember]

theorem Symbol.Retains.isNominal {s t : Symbol} (retains : s.Retains t) : t.isNominal = s.isNominal := by
  rw [Symbol.isNominal, retains.hasFlag, retains.hasFlag, Symbol.isNominal]

theorem Symbol.Retains.isTypeSymbol {s t : Symbol} (retains : s.Retains t) :
    t.isTypeSymbol = s.isTypeSymbol := by
  rw [Symbol.isTypeSymbol, retains.isNominal, retains.hasFlag, retains.hasFlag, Symbol.isTypeSymbol]

theorem Symbol.Retains.isNameable {s t : Symbol} (retains : s.Retains t) :
    t.isNameable = s.isNameable := by
  rw [Symbol.isNameable, retains.isTypeSymbol, retains.hasFlag, retains.hasFlag, retains.hasFlag,
    Symbol.isNameable]

theorem Symbol.Retains.declaresType {s t : Symbol} (retains : s.Retains t) :
    t.declaresType = s.declaresType := by
  rw [Symbol.declaresType, retains.isTypeSymbol, retains.hasFlag, retains.hasFlag, Symbol.declaresType]

theorem Symbol.Retains.isShown {s t : Symbol} (retains : s.Retains t) : t.isShown = s.isShown := by
  rw [Symbol.isShown, retains.isMember, retains.hasFlag, retains.declaresType, Symbol.isShown]

namespace Program

structure Retains (p q : Program) : Prop where
  sites : p.sites.size ≤ q.sites.size
  symbols : p.symbols.size ≤ q.symbols.size
  types : p.types.size ≤ q.types.size
  site : ∀ id : SiteId, id.index < p.sites.size → (p.site id).Retains (q.site id)
  symbol : ∀ id : SymbolId, id.index < p.symbols.size → (p.symbol id).Retains (q.symbol id)
  type : ∀ id : TypeId, id.index < p.types.size → (q.type id).symbol = (p.type id).symbol
  callable : ∀ type, p.Callable type → q.Callable type

theorem Retains.refl (p : Program) : p.Retains p :=
  ⟨Nat.le_refl _, Nat.le_refl _, Nat.le_refl _, fun _ _ => Site.Retains.refl _,
    fun _ _ => Symbol.Retains.refl _, fun _ _ => rfl, fun _ => id⟩

variable {p q r : Program}

theorem Retains.trans (first : p.Retains q) (second : q.Retains r) : p.Retains r where
  sites := Nat.le_trans first.sites second.sites
  symbols := Nat.le_trans first.symbols second.symbols
  types := Nat.le_trans first.types second.types
  site id inside :=
    (first.site id inside).trans (second.site id (Nat.lt_of_lt_of_le inside first.sites))
  symbol id inside :=
    (first.symbol id inside).trans (second.symbol id (Nat.lt_of_lt_of_le inside first.symbols))
  type id inside :=
    (second.type id (Nat.lt_of_lt_of_le inside first.types)).trans (first.type id inside)
  callable type held := second.callable type (first.callable type held)

/-- What is not so of no record is so of one that is there. -/
theorem site_inside (holds : Site → Prop) {id : SiteId} (held : holds (p.site id))
    (none : ¬ holds default) : id.index < p.sites.size := by
  apply Nat.lt_of_not_le
  intro outside
  rw [p.site_of_size_le outside] at held
  exact none held

theorem symbol_inside (holds : Symbol → Prop) {id : SymbolId} (held : holds (p.symbol id))
    (none : ¬ holds default) : id.index < p.symbols.size := by
  apply Nat.lt_of_not_le
  intro outside
  rw [p.symbol_of_size_le outside] at held
  exact none held

theorem type_inside (holds : TypeInfo → Prop) {id : TypeId} (held : holds (p.type id))
    (none : ¬ holds default) : id.index < p.types.size := by
  apply Nat.lt_of_not_le
  intro outside
  rw [p.type_of_size_le outside] at held
  exact none held

theorem inside_of_flag {symbol : SymbolId} {flag : SymbolFlag}
    (flagged : (p.symbol symbol).hasFlag flag = true) : symbol.index < p.symbols.size :=
  symbol_inside (fun s => s.hasFlag flag = true) flagged nofun

theorem inside_of_first {symbol : SymbolId} {site : SiteId}
    (first : (p.symbol symbol).declarations.first? = some site) : symbol.index < p.symbols.size :=
  symbol_inside (fun s => s.declarations.first? = some site) first nofun

theorem inside_of_value {symbol : SymbolId} {site : SiteId}
    (held : (p.symbol symbol).valueDeclaration = some site) : symbol.index < p.symbols.size :=
  symbol_inside (fun s => s.valueDeclaration = some site) held nofun

namespace Retains

variable (retains : p.Retains q)
include retains

theorem answered {site : SiteId} (answered : p.Answered site) : q.Answered site :=
  (retains.site site (site_inside (fun s => s.answers.type ≠ none) answered
    fun held => held rfl)).answer answered

theorem signed {site : SiteId} (signed : p.Signed site) : q.Signed site :=
  (retains.site site (site_inside (fun s => s.answers.signature ≠ none) signed
    fun held => held rfl)).signature signed

theorem siteSymbol {site : SiteId} (held : (p.site site).symbol ≠ none) : (q.site site).symbol ≠ none :=
  (retains.site site (site_inside (fun s => s.symbol ≠ none) held
    fun held => held rfl)).symbol held

theorem siteType {site : SiteId} (held : (p.site site).type ≠ none) : (q.site site).type ≠ none :=
  (retains.site site (site_inside (fun s => s.type ≠ none) held
    fun held => held rfl)).type held

theorem isExpression {site : SiteId} (held : (p.site site).isExpression = true) :
    (q.site site).isExpression = true := by
  rw [(retains.site site (site_inside (fun s => s.isExpression = true) held
    nofun)).isExpression, held]

theorem kind {site : SiteId} {kind : SiteKind} (held : (p.site site).kind = kind)
    (other : (default : Site).kind ≠ kind) : (q.site site).kind = kind :=
  (retains.site site (site_inside (fun s => s.kind = kind) held other)).kind.trans held

theorem first {symbol : SymbolId} {site : SiteId}
    (first : (p.symbol symbol).declarations.first? = some site) :
    (q.symbol symbol).declarations.first? = some site :=
  (retains.symbol symbol (inside_of_first first)).first first

theorem value {symbol : SymbolId} {site : SiteId}
    (held : (p.symbol symbol).valueDeclaration = some site) :
    (q.symbol symbol).valueDeclaration = some site :=
  (retains.symbol symbol (inside_of_value held)).value site held

theorem hasFlag {symbol : SymbolId} {flag : SymbolFlag}
    (flagged : (p.symbol symbol).hasFlag flag = true) : (q.symbol symbol).hasFlag flag = true := by
  rw [(retains.symbol symbol (inside_of_flag flagged)).hasFlag, flagged]

theorem isShown {symbol : SymbolId} (shown : (p.symbol symbol).isShown = true) :
    (q.symbol symbol).isShown = true := by
  rw [(retains.symbol symbol (symbol_inside (fun s => s.isShown = true) shown
    nofun)).isShown, shown]

theorem isNameable {symbol : SymbolId} (nameable : (p.symbol symbol).isNameable = true) :
    (q.symbol symbol).isNameable = true := by
  rw [(retains.symbol symbol (symbol_inside (fun s => s.isNameable = true) nameable
    nofun)).isNameable, nameable]

theorem typeSymbol {type : TypeId} {symbol : SymbolId} (held : (p.type type).symbol = some symbol) :
    (q.type type).symbol = some symbol :=
  (retains.type type (type_inside (fun t => t.symbol = some symbol) held nofun)).trans held

theorem generic {type : TypeId} (generic : p.Generic type) : q.Generic type := by
  obtain ⟨symbol, site, held, first, owned, answered⟩ := generic
  exact ⟨symbol, site, retains.typeSymbol held, retains.first first, retains.siteSymbol owned,
    retains.answered answered⟩

theorem annotated {param : SymbolId} (annotated : p.Annotated param) : q.Annotated param := by
  obtain ⟨site, held, type⟩ := annotated
  exact ⟨site, retains.value held, retains.siteType type⟩

theorem static {member : SymbolId} (static : p.StaticMember member) : q.StaticMember member := by
  rcases static with prototype | ⟨shown, site, held, kind⟩
  · exact .inl (retains.hasFlag prototype)
  · refine .inr ⟨retains.isShown shown, site, retains.value held, ?_⟩
    rw [(retains.site site (site_inside (fun s => s.kind.isMember = true) kind nofun)).kind, kind]

theorem constructs {held : Option SymbolId} (constructs : p.Constructs held) : q.Constructs held := by
  obtain ⟨symbol, sites, rfl, some, declared, signed⟩ := constructs
  refine ⟨symbol, sites, rfl, some, ?_, fun site member => retains.signed (signed site member)⟩
  have given : (p.symbol symbol).declarations ≠ Option.some [] := by
    rw [declared, Slots.of]
    simpa using some
  rw [(retains.symbol symbol (symbol_inside (fun s => s.declarations ≠ Option.some []) given
    fun held => held rfl)).declarations given, declared]

end Retains

theorem SiteWhole.carry {s : Site} (whole : SiteWhole p s) (retains : p.Retains q) : SiteWhole q s where
  typeParameters := whole.typeParameters
  parameter param held := retains.answered (whole.parameter param held)
  parameters := whole.parameters
  modifiers := whole.modifiers
  spread := whole.spread
  optional := whole.optional
  type written held := retains.answered (whole.type written held)
  constraint written held := retains.answered (whole.constraint written held)
  default written held := retains.answered (whole.default written held)
  heritage clause held slot listed := by
    obtain ⟨base, same, answered⟩ := whole.heritage clause held slot listed
    exact ⟨base, same, retains.answered answered⟩
  answer := whole.answer
  signature := whole.signature
  inferred kind declared held := retains.siteSymbol (whole.inferred kind declared held)
  function kind type held := retains.callable type (whole.function kind type held)
  initializer place held := retains.isExpression (whole.initializer place held)
  expression kind place held := retains.isExpression (whole.expression kind place held)
  named kind symbol held := retains.isNameable (whole.named kind symbol held)
  member kind symbol held := retains.isShown (whole.member kind symbol held)

theorem SymbolWhole.carry {s : Symbol} (whole : SymbolWhole p s) (retains : p.Retains q) :
    SymbolWhole q s where
  documentation := whole.documentation
  exports := whole.exports
  statics nominal member held := retains.static (whole.statics nominal member held)
  constructors held known := retains.constructs (whole.constructors held known)
  value := whole.value
  declared := whole.declared
  titled := whole.titled

theorem TypeWhole.carry {t : TypeInfo} (whole : TypeWhole p t) (retains : p.Retains q) :
    TypeWhole q t :=
  { whole with shown := fun member held => retains.isShown (whole.shown member held) }

theorem SignatureWhole.carry {g : Signature} (whole : SignatureWhole p g) (retains : p.Retains q) :
    SignatureWhole q g :=
  { whole with annotated := fun param held => retains.annotated (whole.annotated param held) }

theorem Whole.extend (whole : p.Whole) (retains : p.Retains q)
    (sites : ∀ id, q.site id = p.site id ∨ SiteWhole q (q.site id))
    (symbols : ∀ id, q.symbol id = p.symbol id ∨ SymbolWhole q (q.symbol id))
    (types : ∀ id, q.type id = p.type id ∨ TypeWhole q (q.type id))
    (signatures : ∀ id : SignatureId, id.index < q.signatures.size →
      id.index < p.signatures.size ∧ q.signature id = p.signature id ∨ SignatureWhole q (q.signature id))
    (inferred : ∀ type ∈ q.inferred, type ∈ p.inferred ∨ q.Generic type)
    (module : q.moduleSymbol = p.moduleSymbol) : q.Whole where
  sites id := by
    rcases sites id with same | new
    · rw [same]
      exact (whole.sites id).carry retains
    · exact new
  symbols id := by
    rcases symbols id with same | new
    · rw [same]
      exact (whole.symbols id).carry retains
    · exact new
  types id := by
    rcases types id with same | new
    · rw [same]
      exact (whole.types id).carry retains
    · exact new
  signatures id inside := by
    rcases signatures id inside with ⟨inside, same⟩ | new
    · rw [same]
      exact (whole.signatures id inside).carry retains
    · exact new
  inferred type held := by
    rcases inferred type held with old | new
    · exact retains.generic (whole.inferred type old)
    · exact new
  module := by
    rw [module]
    exact Nat.lt_of_lt_of_le whole.module retains.symbols
  plain := by
    rw [module, (retains.symbol p.moduleSymbol whole.module).isNominal]
    exact whole.plain

theorem SymbolDone.carry {s t : Symbol} (done : SymbolDone p s) (retains : p.Retains q)
    (told : s.Retains t) : SymbolDone q t where
  declared declares := told.declared (done.declared (told.declaresType ▸ declares))
  aliased flagged := by
    obtain ⟨site, first, type, answered⟩ := done.aliased (told.hasFlag _ ▸ flagged)
    exact ⟨site, told.first first, retains.siteType type, retains.answered answered⟩
  parameter flagged := by
    obtain ⟨site, first, owned, answered⟩ := done.parameter (told.hasFlag _ ▸ flagged)
    exact ⟨site, told.first first, retains.siteSymbol owned, retains.answered answered⟩
  called flagged := by
    obtain ⟨site, first, held, kind, answered⟩ := done.called (told.hasFlag _ ▸ flagged)
    exact ⟨site, told.first first, told.value site held, retains.kind kind nofun,
      retains.answered answered⟩
  valued flagged := by
    obtain ⟨site, first, held, type | initializer⟩ := done.valued (told.hasFlag _ ▸ flagged)
    · exact ⟨site, told.first first, told.value site held, .inl (retains.siteType type)⟩
    · have inside := site_inside (fun s => s.initializer ≠ none) initializer fun held => held rfl
      exact ⟨site, told.first first, told.value site held,
        .inr ((retains.site site inside).initializer initializer)⟩
  exported flagged := by
    obtain ⟨site, first, kind, expression⟩ := done.exported (told.hasFlag _ ▸ flagged)
    have inside := site_inside (fun s => s.expression ≠ none) expression fun held => held rfl
    exact ⟨site, told.first first, retains.kind kind nofun,
      (retains.site site inside).expression expression⟩
  shown shown := by
    obtain ⟨site, first, rest⟩ := done.shown (told.isShown ▸ shown)
    refine ⟨site, told.first first, ?_⟩
    have inside : site.index < p.sites.size := by
      split at rest
      · exact site_inside (fun s => s.answers.signature ≠ none) rest fun held => held rfl
      · exact site_inside (fun s => s.type ≠ none) rest fun held => held rfl
    have same : q.isMethodSite (some site) = p.isMethodSite (some site) := by
      simp only [isMethodSite, hasKind, Option.any_some, (retains.site site inside).kind]
    rw [same, told.hasFlag]
    split at rest
    · rename_i method
      rw [if_pos method]
      exact retains.signed rest
    · rename_i property
      rw [if_neg property]
      exact retains.siteType rest

theorem SymbolDone.of_flags {s : Symbol} {flags : SymbolFlags} (flagged : s.flags = flags)
    (done : SymbolDone q { s with flags }) : SymbolDone q s := by
  subst flagged
  exact done

/-- A symbol of no special kind is told nothing, unless it is shown as a member. -/
theorem symbolDone_of_plain {s : Symbol} (declares : s.declaresType = false)
    (function : s.hasFlag .function = false) (value : s.hasFlag .variableKind = false)
    (aliased : s.hasFlag .aliasKind = false)
    (shown : s.isShown = true → ∃ site, s.declarations.first? = some site ∧
      (if p.isMethodSite (some site) || s.hasFlag .method then p.Signed site
        else (p.site site).type ≠ none)) : SymbolDone p s := by
  have parts := declares
  rw [Symbol.declaresType, Bool.or_eq_false_iff, Bool.or_eq_false_iff] at parts
  refine ⟨?_, ?_, ?_, ?_, ?_, ?_, shown⟩ <;> intro held
  · rw [declares] at held
    cases held
  · rw [parts.1.2] at held
    cases held
  · rw [parts.2] at held
    cases held
  · rw [function] at held
    cases held
  · rw [value] at held
    cases held
  · rw [aliased] at held
    cases held

theorem done_of_symbol_outside {id : SymbolId} (outside : p.symbols.size ≤ id.index) :
    p.Done (.symbol id) := by
  rw [Done, p.symbol_of_size_le outside]
  exact symbolDone_of_plain rfl rfl rfl rfl nofun

theorem done_of_site_outside {id : SiteId} (outside : p.sites.size ≤ id.index) :
    p.Done (.site id) := by
  rw [Done, p.site_of_size_le outside]
  nofun

/-- What was complete stays complete, as long as it was there. -/
theorem done_symbol {id : SymbolId} (done : p.Done (.symbol id)) (retains : p.Retains q)
    (inside : id.index < p.symbols.size) : q.Done (.symbol id) :=
  SymbolDone.carry done retains (retains.symbol id inside)

theorem done_site {id : SiteId} (done : p.Done (.site id)) (retains : p.Retains q)
    (inside : id.index < p.sites.size) : q.Done (.site id) := by
  intro expression
  rw [(retains.site id inside).isExpression] at expression
  exact retains.answered (done expression)

def Finishes (p q : Program) : Prop := ∀ item, p.Done item → q.Done item

def Begins (p q : Program) (item : Begun) : Prop := ∀ other, other ≠ item → p.Done other → q.Done other

theorem finishes_of_new (retains : p.Retains q)
    (symbols : ∀ id : SymbolId, p.symbols.size ≤ id.index → q.Done (.symbol id))
    (sites : ∀ id : SiteId, p.sites.size ≤ id.index → q.Done (.site id)) : p.Finishes q := by
  intro item done
  cases item with
  | symbol id =>
      rcases Nat.lt_or_ge id.index p.symbols.size with inside | outside
      · exact done_symbol done retains inside
      · exact symbols id outside
  | site id =>
      rcases Nat.lt_or_ge id.index p.sites.size with inside | outside
      · exact done_site done retains inside
      · exact sites id outside

end Program

end TypeAtlas
