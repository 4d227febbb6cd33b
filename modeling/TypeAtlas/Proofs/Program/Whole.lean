import TypeAtlas.Proofs.Program.Course
import TypeAtlas.Proofs.Program.Fits

/-!
Programs in which no question is left open. Lists are set and have no gaps, what a record refers to is
told, and what is told is told of a type. None of this is ever lost again, so that a record which is
complete stays complete; what a call begins is complete when the call is over.
-/

namespace TypeAtlas

open Build

namespace Slots

variable {α : Type}

/-- A list that is set and has no gaps. -/
structure Full (s : Slots α) : Prop where
  set : s ≠ none
  whole : none ∉ s.slots

theorem full_some {items : List (Option α)} (whole : none ∉ items) : Full (some items) := ⟨nofun, whole⟩

theorem full_of (items : List α) : Full (Slots.of items) := full_some (by simp)

theorem Full.each {s : Slots α} (full : s.Full) : s.each = .ok s.slots := by
  cases s with
  | none => exact absurd rfl full.set
  | some items => rfl

theorem mem_of {items : List α} {item : α} (held : some item ∈ (Slots.of items).slots) : item ∈ items := by
  simpa [Slots.of, Slots.slots] using held

end Slots

theorem exists_of_mem {α : Type} {items : List (Option α)} (whole : none ∉ items) {slot : Option α}
    (member : slot ∈ items) : ∃ item, slot = some item := by
  cases slot with
  | none => exact absurd member whole
  | some item => exact ⟨item, rfl⟩

def SiteKind.isMember : SiteKind → Bool
  | .propertySignature | .propertyDeclaration | .methodSignature => true
  | _ => false

def SiteKind.isExpression : SiteKind → Bool
  | .identifier | .expression => true
  | _ => false

def Site.isExpression (s : Site) : Bool :=
  s.kind == .expression || s.kind == .identifier && s.symbol.isSome

def Symbol.declaresType (s : Symbol) : Bool :=
  s.isTypeSymbol || s.hasFlag .typeAlias || s.hasFlag .typeParameter

def Symbol.isShown (s : Symbol) : Bool :=
  s.isMember && !s.hasFlag .prototype && !s.declaresType

def Symbol.isNameable (s : Symbol) : Bool :=
  s.isTypeSymbol || s.hasFlag .typeAlias || s.hasFlag .function || s.hasFlag .variableKind

namespace Program

def Answered (p : Program) (site : SiteId) : Prop := (p.site site).answers.type ≠ none

def Signed (p : Program) (site : SiteId) : Prop := (p.site site).answers.signature ≠ none

def Callable (p : Program) (type : TypeId) : Prop :=
  (p.type type).callSignatures.slots ≠ [] ∧
    ∃ symbol, (p.type type).symbol = some symbol ∧ (p.symbol symbol).hasFlag .function = true

def StaticMember (p : Program) (member : SymbolId) : Prop :=
  (p.symbol member).hasFlag .prototype = true ∨
    (p.symbol member).isShown = true ∧
      ∃ site, (p.symbol member).valueDeclaration = some site ∧ (p.site site).kind.isMember = true

def Generic (p : Program) (type : TypeId) : Prop :=
  ∃ symbol site, (p.type type).symbol = some symbol ∧
    (p.symbol symbol).declarations.first? = some site ∧ (p.site site).symbol ≠ none ∧ p.Answered site

def Annotated (p : Program) (param : SymbolId) : Prop :=
  ∃ site, (p.symbol param).valueDeclaration = some site ∧ (p.site site).type ≠ none

def Constructs (p : Program) (held : Option SymbolId) : Prop :=
  ∃ symbol sites, held = some symbol ∧ sites ≠ [] ∧
    (p.symbol symbol).declarations = Slots.of sites ∧ ∀ site ∈ sites, p.Signed site

structure SiteWhole (p : Program) (s : Site) : Prop where
  typeParameters : s.typeParameters.Full
  parameter : ∀ param, some param ∈ s.typeParameters.slots → p.Answered param
  parameters : s.parameters.Full
  modifiers : s.modifiers.Full
  spread : s.spread ≠ none
  optional : s.optional ≠ none
  type : ∀ written, s.type = some written → p.Answered written
  constraint : ∀ written, s.constraint = some written → p.Answered written
  default : ∀ written, s.default = some written → p.Answered written
  heritage : ∀ clause ∈ s.heritage, ∀ slot ∈ clause.types, ∃ base, slot = some base ∧ p.Answered base
  answer : s.answers.type ≠ some none
  signature : s.answers.signature ≠ some none
  inferred : s.kind = .inferType → ∀ declared, s.typeParameter = some declared →
    (p.site declared).symbol ≠ none
  function : s.kind = .functionDeclaration → ∀ type, s.answers.type = some (some type) → p.Callable type
  initializer : ∀ place, s.initializer = some place → (p.site place).isExpression = true
  expression : s.kind = .exportAssignment → ∀ place, s.expression = some place →
    (p.site place).isExpression = true
  named : s.kind.isExpression = true → ∀ symbol, s.symbol = some symbol →
    (p.symbol symbol).isNameable = true
  member : s.kind.isMember = true → ∀ symbol, s.symbol = some symbol → (p.symbol symbol).isShown = true

structure SymbolWhole (p : Program) (s : Symbol) : Prop where
  documentation : s.documentation.Full
  exports : s.exports.Full
  statics : s.isNominal = true → ∀ member, some member ∈ s.exports.slots → p.StaticMember member
  constructors : ∀ held, Table.get? s.members constructorKey = some held → p.Constructs held
  value : s.answers.value ≠ some none
  declared : s.answers.declared ≠ some none
  titled : s.isTitled = true → s.name ≠ ""

structure TypeWhole (p : Program) (t : TypeInfo) : Prop where
  properties : t.properties.Full
  shown : ∀ member, some member ∈ t.properties.slots → (p.symbol member).isShown = true
  callSignatures : t.callSignatures.Full
  types : t.types.Full
  arguments : none ∉ t.arguments.slots
  aliasArguments : none ∉ t.aliasArguments.slots
  typeParameters : none ∉ t.typeParameters.slots
  value : t.hasFlag .stringLiteral = true ∨ t.hasFlag .numberLiteral = true → t.value ≠ none
  conditional : t.hasFlag .conditional = true → t.checkType ≠ none ∧ t.extendsType ≠ none ∧
    t.trueType ≠ none ∧ t.falseType ≠ none
  substitution : t.hasFlag .substitution = true → t.baseType ≠ none

structure SignatureWhole (p : Program) (g : Signature) : Prop where
  typeParameters : none ∉ g.typeParameters.slots
  parameters : g.parameters.Full
  annotated : ∀ param, some param ∈ g.parameters.slots → p.Annotated param
  returns : g.returns ≠ none

/-- Whatever is told of the records of a program, is told without gaps. -/
structure Whole (p : Program) : Prop where
  sites : ∀ id, SiteWhole p (p.site id)
  symbols : ∀ id, SymbolWhole p (p.symbol id)
  types : ∀ id, TypeWhole p (p.type id)
  signatures : ∀ id : SignatureId, id.index < p.signatures.size → SignatureWhole p (p.signature id)
  inferred : ∀ type ∈ p.inferred, p.Generic type
  module : p.moduleSymbol.index < p.symbols.size
  plain : (p.symbol p.moduleSymbol).isNominal = false

/-- A symbol or a place that is not complete when it is made. -/
inductive Begun where
  | symbol (id : SymbolId)
  | site (id : SiteId)

structure SymbolDone (p : Program) (s : Symbol) : Prop where
  declared : s.declaresType = true → s.answers.declared ≠ none
  aliased : s.hasFlag .typeAlias = true → ∃ site, s.declarations.first? = some site ∧
    (p.site site).type ≠ none ∧ p.Answered site
  parameter : s.hasFlag .typeParameter = true → ∃ site, s.declarations.first? = some site ∧
    (p.site site).symbol ≠ none ∧ p.Answered site
  called : s.hasFlag .function = true → ∃ site, s.declarations.first? = some site ∧
    s.valueDeclaration = some site ∧ (p.site site).kind = .functionDeclaration ∧ p.Answered site
  valued : s.hasFlag .variableKind = true → ∃ site, s.declarations.first? = some site ∧
    s.valueDeclaration = some site ∧ ((p.site site).type ≠ none ∨ (p.site site).initializer ≠ none)
  exported : s.hasFlag .aliasKind = true → ∃ site, s.declarations.first? = some site ∧
    (p.site site).kind = .exportAssignment ∧ (p.site site).expression ≠ none
  shown : s.isShown = true → ∃ site, s.declarations.first? = some site ∧
    (if p.isMethodSite (some site) || s.hasFlag .method then p.Signed site
      else (p.site site).type ≠ none)

def Done (p : Program) : Begun → Prop
  | .symbol id => SymbolDone p (p.symbol id)
  | .site id => (p.site id).isExpression = true → p.Answered id

end Program

end TypeAtlas
