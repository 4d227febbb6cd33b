import TypeAtlas.Program.Builder.Composite
import TypeAtlas.Program.Builder.Member

/-!
Declared types, and the types that a compiler declares in place: interfaces, classes, aliases,
enumerations, functions, object literals and mapped types.
-/

namespace TypeAtlas.Build

open Program

structure InterfaceSpec where
  header : Header
  members : Table String MemberSpec := []
  bases : List (Option TypeId) := []
  typeParameters : List (Option TypeId) := []
  stringIndex : Option IndexSpec := none
  numberIndex : Option IndexSpec := none
  callSignatures : List (Option SignatureId) := []
  enclosing : Option SymbolId := none

def interface (spec : InterfaceSpec) : Build TypeId := do
  let header := spec.header
  let (symbol, site) ← declare .interfaceDeclaration header.name [.interface] header.doc
    header.fileName
  setSymbol symbol ({ · with parent := spec.enclosing })
  let type ← newType
    { flags := [.object], objectFlags := [.interface], symbol := some symbol,
      typeParameters := someUnlessEmpty spec.typeParameters }
  attachTypeParameters site spec.typeParameters
  populate type site spec.members spec.bases .propertySignature spec.stringIndex spec.numberIndex
  setType type ({ · with callSignatures := some spec.callSignatures })
  addHeritage site .bases spec.bases
  bindDeclared symbol type
  bindSite site type
  exportIf header.exported symbol
  pure type

structure ClassSpec where
  header : Header
  members : Table String MemberSpec := []
  base : Option TypeId := none
  implemented : List (Option TypeId) := []
  statics : Table String MemberSpec := []
  constructors : List (List ParamSpec) := []
  typeParameters : List (Option TypeId) := []

def staticMember (site : SiteId) (name : String) (spec : MemberSpec) : Build SymbolId := do
  let symbol ← member site .propertyDeclaration name spec
  if let some declaration := ((← get).symbol symbol).valueDeclaration then
    setSite declaration fun s => { s with modifiers := some (some "static" :: s.modifiers.slots) }
  pure symbol

def constructorSite (classSite : SiteId) (instanceType : TypeId) (parameters : List ParamSpec) :
    Build SiteId := do
  let site ← newSite { kind := .constructorDeclaration, parent := some classSite }
  let params ← addParameters site parameters
  let signature ← newSignature
    { declaration := some site, parameters := Slots.of params, returns := some instanceType }
  bindSignature site signature
  pure site

def classType (spec : ClassSpec) : Build TypeId := do
  let header := spec.header
  let (symbol, site) ← declare .classDeclaration header.name [.classKind] header.doc header.fileName
  let type ← newType
    { flags := [.object], objectFlags := [.classKind], symbol := some symbol,
      typeParameters := someUnlessEmpty spec.typeParameters }
  attachTypeParameters site spec.typeParameters
  let bases := spec.base.toList.map some
  populate type site spec.members bases .propertyDeclaration
  addHeritage site .bases bases
  addHeritage site .implemented spec.implemented
  let prototype ← newSymbol { name := "prototype", flags := [.property, .prototype] }
  let statics ← spec.statics.mapM fun (name, member) => staticMember site name member
  setSymbol symbol ({ · with exports := Slots.of (prototype :: statics) })
  let constructors ← spec.constructors.mapM (constructorSite site type)
  if !constructors.isEmpty then
    let held ← newSymbol { name := constructorKey, declarations := Slots.of constructors }
    setSymbol symbol fun s => { s with members := Table.put s.members constructorKey (some held) }
  bindDeclared symbol type
  bindSite site type
  exportIf header.exported symbol
  pure type

def isDeclaredIn (p : Program) (site : SiteId) (prop : Option SymbolId) : Except Fault Bool := do
  match (p.symbol (← present prop)).declarations.slots with
  | [] => pure false
  | first :: _ => return (p.site (← present first)).parent == some site

/-- The properties of a type with added ones behind its own. What it inherits comes last, and gives
way to what is added. -/
def propertiesWith (p : Program) (site : SiteId) (type : TypeId) (added : List SymbolId) :
    Except Fault (List (Option SymbolId)) := do
  let properties ← (p.type type).properties.each
  let own ← properties.filterM (isDeclaredIn p site)
  let name (id : SymbolId) := (p.symbol id).name
  let isNew (prop : SymbolId) := !own.contains (some prop) && !added.any (name · == name prop)
  let inherited := properties.reduceOption.filter isNew
  return own ++ (added ++ inherited).map some

/-- Adds own members to a declared interface or class, so that it can mention itself or a type
declared after it. -/
def addMembers (target : Option TypeId) (specs : Table String MemberSpec) : Build TypeId := do
  let type ← present target
  let site ← present (← declarationOf type)
  let kind : SiteKind :=
    if ((← get).site site).kind = .classDeclaration then .propertyDeclaration
    else .propertySignature
  let added ← members site kind specs
  let properties ← ask (propertiesWith · site type added)
  setType type ({ · with properties := some properties })
  pure type

def remembersAlias (p : Program) (type : TypeInfo) : Bool :=
  if type.alias?.isSome || type.intrinsicName.isSome then false
  else if [TypeFlag.stringLiteral, .numberLiteral, .booleanLiteral, .bigintLiteral, .typeParameter,
      .enumLiteral].any type.hasFlag then false
  else if type.hasObjectFlag .reference then false
  else
    match type.symbol with
    | none => true
    | some symbol => isSynthesized (p.symbol symbol).name

/-- Declares a name for a type. The right-hand side is written down before the type knows the
name. -/
def aliasType (header : Header) (aliased : Option TypeId)
    (typeParameters : List (Option TypeId) := []) : Build TypeId := do
  let (symbol, site) ← declare .typeAlias header.name [.typeAlias] header.doc header.fileName
  attachTypeParameters site typeParameters
  let written ← writtenType aliased site
  setSite site ({ · with type := some written })
  let p ← get
  let type ← present aliased
  if remembersAlias p (p.type type) then
    setType type
      ({ · with alias? := some symbol, aliasArguments := someUnlessEmpty typeParameters })
  bindDeclared symbol type
  bindSite site type
  exportIf header.exported symbol
  pure type

structure EnumSpec where
  header : Header
  members : Table String (Option Literal)
  isConst : Bool := false
  literal : Bool := true
  memberDocs : Table String String := []

def enumMember (site : SiteId) (docs : Table String String) (name : String)
    (value : Option Literal) : Build TypeId := do
  let (symbol, memberSite) ← declare .enumMember name [.enumMember] (Table.get? docs name)
  setSite memberSite ({ · with parent := some site })
  let kind : TypeFlag :=
    match value with
    | some (.text _) => .stringLiteral
    | _ => .numberLiteral
  newType { flags := [kind, .enumLiteral], symbol := some symbol, value }

def enumeration (spec : EnumSpec) : Build TypeId := do
  let header := spec.header
  let flag : SymbolFlag := if spec.isConst then .constEnum else .regularEnum
  let (symbol, site) ← declare .enumDeclaration header.name [flag] header.doc
  let types ← spec.members.mapM fun (name, value) => enumMember site spec.memberDocs name value
  let kind : TypeFlag := if spec.literal then .enumLiteral else .enum
  let type ← newType { flags := [kind, .union], symbol := some symbol, types := Slots.of types }
  bindDeclared symbol type
  bindSite site type
  exportIf header.exported symbol
  pure type

structure CallSpec where
  parameters : List ParamSpec := []
  returns : Option TypeId := none
  typeParameters : List (Option TypeId) := []

def function (header : Header) (spec : CallSpec) : Build SymbolId := do
  let (symbol, site) ← declare .functionDeclaration header.name [.function] header.doc
  setSymbol symbol ({ · with valueDeclaration := some site })
  let type ← callable symbol site spec.parameters (spec.returns.getD voidType) spec.typeParameters
  bindSymbol symbol type
  exportIf header.exported symbol
  pure symbol

def structuralName : String := "__type"

def functionType (spec : CallSpec) : Build TypeId := do
  let (symbol, site) ← declare .functionType structuralName [.typeLiteral]
  callable symbol site spec.parameters (spec.returns.getD voidType) spec.typeParameters

def constructorType (parameters : List ParamSpec) (returns : Option TypeId)
    (parent : Option SiteId := none) (fileName : Option String := none) : Build TypeId := do
  let (symbol, site) ← declare .constructorType structuralName [.typeLiteral] none fileName
  if parent.isSome then setSite site ({ · with parent })
  let params ← addParameters site parameters
  let signature ← newSignature { declaration := some site, parameters := Slots.of params, returns }
  bindSignature site signature
  let type ← newType
    { flags := [.object], objectFlags := [.anonymous], symbol := some symbol,
      constructSignatures := Slots.of [signature] }
  bindSite site type
  pure type

def callSignature (spec : CallSpec) : Build SignatureId := do
  let site ← newSite { kind := .functionType, name := some "__call" }
  let params ← addParameters site spec.parameters
  let signature ← newSignature
    { declaration := some site, typeParameters := some spec.typeParameters,
      parameters := Slots.of params, returns := some (spec.returns.getD voidType) }
  bindSignature site signature
  pure signature

def objectLiteral (specs : Table String MemberSpec)
    (callSignatures : List (Option SignatureId) := [])
    (stringIndex numberIndex : Option IndexSpec := none) : Build TypeId := do
  let (symbol, site) ← declare .typeLiteral structuralName [.typeLiteral]
  let type ← newType { flags := [.object], objectFlags := [.anonymous], symbol := some symbol }
  populate type site specs [] .propertySignature stringIndex numberIndex
  setType type ({ · with callSignatures := some callSignatures })
  bindSite site type
  pure type

/-- A mapped type whose key is declared and whose value is still to be given. -/
structure MappedDraft where
  symbol : SymbolId
  site : SiteId
  key : TypeId

def openMapped (key : String) (constraint : Option TypeId) (optional : Bool := false) :
    Build MappedDraft := do
  let (symbol, site) ← declare .mappedType structuralName [.typeLiteral]
  setSite site ({ · with optional := some optional })
  let keyType ← typeParameter key constraint
  let keySite ← present (← declarationOf keyType)
  setSite keySite ({ · with parent := some site })
  setSite site ({ · with typeParameter := some keySite })
  pure { symbol, site, key := keyType }

def closeMapped (draft : MappedDraft) (value : Option TypeId) : Build TypeId := do
  let written ← writtenType value draft.site
  setSite draft.site ({ · with type := some written })
  let type ← newType
    { flags := [.object], objectFlags := [.mapped], symbol := some draft.symbol,
      typeParameter := some draft.key }
  bindSite draft.site type
  pure type

def mapped (key : String) (constraint : Option TypeId) (value : TypeId → Build (Option TypeId))
    (optional : Bool := false) : Build TypeId := do
  let draft ← openMapped key constraint optional
  closeMapped draft (← value draft.key)

end TypeAtlas.Build
