import TypeAtlas.Program.Builder.Written
import TypeAtlas.Proofs.Program.Records

/-!
How the records of a built program fit together. Every record has an age: the number of types that
were there when the call began that made it. What a type is made of is older than the type, and what
is written at a place was there when the place was made, so that going from a type to its parts ends,
although members that are added later may lead back to the type they are added to.
-/

namespace TypeAtlas

open Build

def SiteKind.isWritten : SiteKind → Bool
  | .typeReference | .keyofOperator | .unionType | .inferType | .typeNode => true
  | _ => false

def SiteKind.isValue : SiteKind → Bool
  | .parameter | .propertySignature | .propertyDeclaration | .methodSignature
  | .variableDeclaration | .functionDeclaration => true
  | _ => false

def TypeInfo.isNominal (t : TypeInfo) : Bool :=
  t.hasObjectFlag .interface || t.hasObjectFlag .classKind

def TypeInfo.isEnumeration (t : TypeInfo) : Bool := t.hasFlag .enumLiteral || t.hasFlag .enum

def Symbol.isNominal (s : Symbol) : Bool := s.hasFlag .interface || s.hasFlag .classKind

def Symbol.isTypeSymbol (s : Symbol) : Bool :=
  s.isNominal || s.hasFlag .regularEnum || s.hasFlag .constEnum

def Symbol.isTitled (s : Symbol) : Bool := s.hasFlag .typeAlias || s.hasFlag .variableKind

def Symbol.isMember (s : Symbol) : Bool := s.hasFlag .property || s.hasFlag .method

def SiteKind.standsFor (kind : SiteKind) (flags : SymbolFlags) : Bool :=
  match kind with
  | .typeAlias => flags.contains .typeAlias
  | .interfaceDeclaration | .classDeclaration => flags.contains .interface || flags.contains .classKind
  | .typeParameter => flags.contains .typeParameter
  | .mappedType => !flags.contains .typeAlias
  | _ => true

def TypeInfo.parts (t : TypeInfo) : List (Option TypeId) :=
  t.arguments.slots ++ t.types.slots ++
    [t.operand, t.objectType, t.indexType, t.checkType, t.extendsType, t.trueType, t.falseType,
     t.baseType, t.constraint, t.typeParameter]

structure Ages where
  site : SiteId → Nat
  symbol : SymbolId → Nat
  signature : SignatureId → Nat
  index : IndexId → Nat

namespace Ages

variable (ages : Ages) (p : Program) (age : Nat)

def SiteBy (id : SiteId) : Prop := id.index < p.sites.size ∧ ages.site id ≤ age

def SymbolBy (id : SymbolId) : Prop := id.index < p.symbols.size ∧ ages.symbol id ≤ age

def SignatureBy (id : SignatureId) : Prop := id.index < p.signatures.size ∧ ages.signature id ≤ age

def IndexBy (id : IndexId) : Prop := id.index < p.indexes.size ∧ ages.index id ≤ age

def WrittenBy (id : SiteId) : Prop := ages.SiteBy p age id ∧ (p.site id).kind.isWritten = true

variable {ages p age} in
theorem WrittenBy.later {later : Nat} {id : SiteId} (written : ages.WrittenBy p age id)
    (le : age ≤ later) : ages.WrittenBy p later id :=
  ⟨⟨written.1.1, Nat.le_trans written.1.2 le⟩, written.2⟩

end Ages

/-- What the calls of a program keep to: whether members are only added to declared types and only
type parameters are given as such, and whether no default export names a symbol. -/
structure Manner where
  disciplined : Prop
  nameless : Prop

/-- The name is that of the type's symbol, unless the compiler made that one up. -/
def Program.Titled (p : Program) (type : TypeId) (name : Option String) : Prop :=
  ∃ symbol, (p.type type).symbol = some symbol ∧ symbol.index < p.symbols.size ∧
    (isSynthesized (p.symbol symbol).name = false → name = some (p.symbol symbol).name)

/-- A declared type with a symbol of the name. -/
def Program.Declares (p : Program) (type : TypeId) (name : String) : Prop :=
  (∃ symbol, (p.type type).symbol = some symbol ∧ symbol.index < p.symbols.size ∧
    (p.symbol symbol).name = name) ∧
  ((p.type type).isNominal = true ∨ (p.type type).flags = [.enumLiteral, .union] ∨
    (p.type type).flags = [.enum, .union])

structure SiteFits (manner : Manner) (ages : Ages) (p : Program) (age : Nat) (s : Site) : Prop where
  type : s.kind ≠ .mappedType → ∀ child, s.type = some child → ages.WrittenBy p age child
  types : ∀ child, some child ∈ s.types.slots → ages.WrittenBy p age child
  constraint : ∀ child, s.constraint = some child → ages.WrittenBy p age child
  default : ∀ child, s.default = some child → ages.WrittenBy p age child
  denotes : s.kind.isWritten = true → ∀ type, s.answers.type = some (some type) → type.index < age
  referred : s.kind = .typeReference → ∀ type, s.answers.type = some (some type) →
    (p.type type).isNominal = true → p.Titled type s.name
  plain : s.kind = .typeNode → ∀ type, s.answers.type = some (some type) →
    (p.type type).isNominal = true → p.Titled type none
  inferred : s.kind = .inferType → ∀ type, s.answers.type = some (some type) →
    (p.type type).isTypeParameter = true
  inferredAt : s.kind = .inferType → ∀ declared, s.typeParameter = some declared →
    (p.site declared).kind = .typeParameter
  signature : ∀ signature, s.answers.signature = some (some signature) →
    ages.SignatureBy p age signature
  symbol : ∀ symbol, s.symbol = some symbol → ages.SymbolBy p age symbol ∧
    s.kind.standsFor (p.symbol symbol).flags = true
  called : ∀ symbol, s.symbol = some symbol → ∀ name, s.name = some name →
    (p.symbol symbol).name = name
  nameless : manner.nameless → s.kind = .identifier ∨ s.kind = .expression → s.symbol = none
  expression : ∀ place, s.expression = some place → place.index < p.sites.size ∧
    ((p.site place).kind = .identifier ∨ (p.site place).kind = .expression)
  heritage : ∀ clause ∈ s.heritage, ∀ place, some place ∈ clause.types →
    (p.site place).kind = .expressionWithTypeArguments
  base : s.kind = .expressionWithTypeArguments → ∀ base, s.answers.type = some (some base) →
    base.index < age ∧ ∃ place, s.expression = some place ∧ (p.site place).kind = .identifier ∧
      (p.site place).name = (p.type base).symbol.map (fun symbol => (p.symbol symbol).name) ∧
      ∀ symbol, (p.type base).symbol = some symbol → symbol.index < p.symbols.size

structure SymbolFits (ages : Ages) (p : Program) (age : Nat) (m : Symbol) : Prop where
  first : ∀ place, m.declarations.first? = some place → ages.SiteBy p age place ∧
    (p.site place).kind.standsFor m.flags = true
  parameter : m.hasFlag .typeParameter = true → ∃ place, m.declarations.first? = some place ∧
    (p.site place).kind = .typeParameter
  member : m.isMember = true → ∀ place, m.declarations.first? = some place →
    (p.site place).kind.isValue = true
  place : ∀ place, m.valueDeclaration = some place → ages.SiteBy p age place ∧
    (p.site place).kind.isValue = true
  titled : ∀ place, m.isTitled = true ∧ m.declarations.first? = some place ∨
    m.valueDeclaration = some place → (p.site place).name = some m.name
  value : m.hasFlag .property = true → ∀ type, m.answers.value = some (some type) →
    type.index < age
  aliased : m.hasFlag .typeAlias = true → ∀ type, m.answers.declared = some (some type) →
    type.index < age
  nominal : m.isNominal = true → ∀ type, m.answers.declared = some (some type) →
    (p.type type).isNominal = true
  parameterType : m.hasFlag .typeParameter = true → ∀ type, m.answers.declared = some (some type) →
    (p.type type).isTypeParameter = true
  declares : m.isTypeSymbol = true → ∀ type, m.answers.declared = some (some type) →
    p.Declares type m.name

structure TypeFits (manner : Manner) (ages : Ages) (p : Program) (i : Nat) (t : TypeInfo) : Prop where
  parts : ∀ part, some part ∈ t.parts → part.index < i
  aliasArguments : manner.disciplined → ∀ argument, some argument ∈ t.aliasArguments.slots →
    argument.index < i ∨ (p.type argument).isTypeParameter = true
  symbol : ∀ symbol, t.symbol = some symbol → ages.SymbolBy p i symbol ∧
    (p.symbol symbol).hasFlag .typeAlias = false
  nominal : t.isNominal = true → t.flags = [.object] ∧ t.hasObjectFlag .reference = false ∧
    t.hasObjectFlag .anonymous = false ∧ t.hasObjectFlag .mapped = false ∧ t.arguments = none ∧
    ∃ symbol, t.symbol = some symbol ∧ (p.symbol symbol).isNominal = true
  declared : ∀ symbol, t.symbol = some symbol → (p.symbol symbol).isNominal = true →
    t.flags = [.object] ∧ (t.isNominal = true ∨ t.objectFlags = [.reference])
  keyof : t.hasFlag .index = true → t.symbol = none
  index : t.hasFlag .index = true → t.flags = [.index]
  parameter : t.isTypeParameter = true → t.alias? = none ∧
    ∃ symbol, t.symbol = some symbol ∧ (p.symbol symbol).hasFlag .typeParameter = true
  aliased : ∀ named, t.alias? = some named → (p.symbol named).hasFlag .typeAlias = true ∧
    ∀ symbol, t.symbol = some symbol → isSynthesized (p.symbol symbol).name = true
  enumerated : t.isEnumeration = true → ∀ member, some member ∈ t.types.slots →
    (p.type member).hasFlag .enumLiteral = true
  members : ∀ member, some member ∈ t.properties.slots → (p.symbol member).isMember = true
  properties : manner.disciplined → t.isNominal = false → ∀ member,
    some member ∈ t.properties.slots → ages.SymbolBy p i member
  calls : ∀ signature, some signature ∈ t.callSignatures.slots → ages.SignatureBy p i signature
  indexes : ∀ index, t.stringIndex = some index ∨ t.numberIndex = some index →
    ages.IndexBy p i index
  typeParameters : t.isNominal = false → t.typeParameters = none
  mapped : t.hasObjectFlag .mapped = true → ∃ symbol place written key, t.symbol = some symbol ∧
    (p.symbol symbol).hasFlag .typeLiteral = true ∧
    (p.symbol symbol).declarations.first? = some place ∧ (p.site place).kind = .mappedType ∧
    (p.site place).type = some written ∧ ages.WrittenBy p i written ∧
    t.typeParameter = some key ∧ (p.type key).isTypeParameter = true

structure SignatureFits (manner : Manner) (ages : Ages) (p : Program) (age : Nat) (g : Signature) :
    Prop where
  typeParameters : manner.disciplined → ∀ param, some param ∈ g.typeParameters.slots →
    param.index < age ∧ (p.type param).isTypeParameter = true
  parameters : ∀ param, some param ∈ g.parameters.slots → ages.SymbolBy p age param
  returns : ∀ type, g.returns = some type →
    type.index < age ∨ (p.type type).isNominal = true

def IndexFits (age : Nat) (info : IndexInfo) : Prop := ∀ type, info.type = some type → type.index < age

theorem TypeFits.later {manner : Manner} {ages : Ages} {p : Program} {i j : Nat} {t : TypeInfo}
    (fits : TypeFits manner ages p i t) (later : i ≤ j) : TypeFits manner ages p j t where
  parts part held := Nat.lt_of_lt_of_le (fits.parts part held) later
  aliasArguments disciplined argument held :=
    (fits.aliasArguments disciplined argument held).imp_left fun older =>
      Nat.lt_of_lt_of_le older later
  symbol symbol held := by
    obtain ⟨⟨there, age⟩, plain⟩ := fits.symbol symbol held
    exact ⟨⟨there, Nat.le_trans age later⟩, plain⟩
  nominal := fits.nominal
  declared := fits.declared
  keyof := fits.keyof
  index := fits.index
  parameter := fits.parameter
  aliased := fits.aliased
  enumerated := fits.enumerated
  members := fits.members
  properties disciplined structural member held := by
    obtain ⟨there, age⟩ := fits.properties disciplined structural member held
    exact ⟨there, Nat.le_trans age later⟩
  calls signature held := by
    obtain ⟨there, age⟩ := fits.calls signature held
    exact ⟨there, Nat.le_trans age later⟩
  indexes index held := by
    obtain ⟨there, age⟩ := fits.indexes index held
    exact ⟨there, Nat.le_trans age later⟩
  typeParameters := fits.typeParameters
  mapped flagged := by
    obtain ⟨symbol, place, written, key, held, literal, first, kind, type, ⟨⟨there, age⟩, isWritten⟩,
      named⟩ := fits.mapped flagged
    exact ⟨symbol, place, written, key, held, literal, first, kind, type,
      ⟨⟨there, Nat.le_trans age later⟩, isWritten⟩, named⟩

/-- The number of a type does not matter. -/
theorem TypeFits.renumber {manner : Manner} {ages : Ages} {p : Program} {i : Nat} {t : TypeInfo}
    (fits : TypeFits manner ages p i t) (id : Int) : TypeFits manner ages p i { t with id } :=
  ⟨fits.parts, fits.aliasArguments, fits.symbol, fits.nominal, fits.declared, fits.keyof, fits.index,
    fits.parameter, fits.aliased, fits.enumerated, fits.members, fits.properties, fits.calls, fits.indexes,
    fits.typeParameters, fits.mapped⟩

structure Program.Fits (manner : Manner) (ages : Ages) (now : Nat) (p : Program) : Prop where
  sites : ∀ id, SiteFits manner ages p (ages.site id) (p.site id)
  symbols : ∀ id, SymbolFits ages p (ages.symbol id) (p.symbol id)
  types : ∀ id, TypeFits manner ages p id.index (p.type id)
  signatures : ∀ id, SignatureFits manner ages p (ages.signature id) (p.signature id)
  indexes : ∀ id, IndexFits (ages.index id) (p.indexInfo id)
  inferred : ∀ type ∈ p.inferred, (p.type type).isTypeParameter = true
  nowhere : p.answersNowhere.type = none
  founded : Program.booleanType.index < now
  bound : now ≤ p.types.size

structure Ages.During (ages : Ages) (now : Nat) (p : Program) : Prop where
  site : ∀ id, ages.site id ≤ now
  symbol : ∀ id, ages.symbol id ≤ now
  signature : ∀ id, ages.signature id ≤ now
  index : ∀ id, ages.index id ≤ now
  siteNow : ∀ id : SiteId, p.sites.size ≤ id.index → ages.site id = now
  symbolNow : ∀ id : SymbolId, p.symbols.size ≤ id.index → ages.symbol id = now
  signatureNow : ∀ id : SignatureId, p.signatures.size ≤ id.index → ages.signature id = now
  indexNow : ∀ id : IndexId, p.indexes.size ≤ id.index → ages.index id = now
  ordered : ∀ a b : SiteId, a.index ≤ b.index → ages.site a ≤ ages.site b

end TypeAtlas
