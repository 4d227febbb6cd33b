import TypeAtlas.Program.Builder.Written

/-!
Types made of other types: literals, combinations, type parameters and instantiations. Each
literal value has one type, and the members of an instantiation point back at the declared members
they were made from.
-/

namespace TypeAtlas.Build

open Program

def cached (key : LiteralKey) (type : TypeInfo) : Build TypeId := do
  let p ← get
  match p.literals.find? fun entry => entry.1.same key with
  | some (_, id) => pure id
  | none =>
    let id ← newType type
    modify fun p => { p with literals := p.literals ++ [(key, id)] }
    pure id

/-- The type of a literal value. The two truth values are the intrinsic types; of other values each
has one type. -/
def literal : Option Literal → Build TypeId
  | none => cached .unset { flags := [.numberLiteral] }
  | some (.bool true) => pure trueType
  | some (.bool false) => pure falseType
  | some (.text value) =>
    cached (.text value) { flags := [.stringLiteral], value := some (.text value) }
  | some (.int value) =>
    cached (.int value) { flags := [.numberLiteral], value := some (.int value) }
  | some (.float value) =>
    cached (.float value) { flags := [.numberLiteral], value := some (.float value) }

def bigintLiteral (digits : Option String) : Build TypeId :=
  cached (.bigint digits) { flags := [.bigintLiteral], value := digits.map .text }

def union (types : List (Option TypeId)) : Build TypeId :=
  newType { flags := [.union], types := some types }

def intersection (types : List (Option TypeId)) : Build TypeId :=
  newType { flags := [.intersection], types := some types }

def tuple (elements : List (Option TypeId)) : Build TypeId := do
  let arity := elements.length
  let target ← match Table.get? (← get).tuples arity with
    | some id => pure id
    | none =>
      let id ← newType { flags := [.object], objectFlags := [.tuple] }
      modify fun p => { p with tuples := Table.put p.tuples arity id }
      pure id
  newType { flags := [.object], objectFlags := [.reference], target := some target,
            arguments := some elements }

def keyof (operand : Option TypeId) : Build TypeId := newType { flags := [.index], operand }

def indexedAccess (objectType indexType : Option TypeId) : Build TypeId :=
  newType { flags := [.indexedAccess], objectType, indexType }

def conditional (checkType extendsType trueType falseType : Option TypeId) : Build TypeId :=
  newType { flags := [.conditional], checkType, extendsType, trueType, falseType }

def substitution (baseType : Option TypeId) : Build TypeId :=
  newType { flags := [.substitution], baseType }

def typeParameter (name : String) (constraint default : Option TypeId := none) : Build TypeId := do
  let (symbol, site) ← declare .typeParameter name [.typeParameter]
  setSite site ({ · with parent := none })
  let type ← newType { flags := [.typeParameter], symbol := some symbol, constraint }
  if let some bound := constraint then
    let written ← writtenType bound site
    setSite site ({ · with constraint := some written })
  if let some fallback := default then
    let written ← writtenType fallback site
    setSite site ({ · with default := some written })
  bindDeclared symbol type
  bindSite site type
  pure type

def infer (name : String) : Build TypeId := do
  let type ← typeParameter name
  modify fun p => { p with inferred := p.inferred ++ [type] }
  pure type

/-- Completes type arguments with the defaults of the parameters that have none, up to the first
parameter without a default. -/
def fillDefaults : List (Option TypeId) → Build (List (Option TypeId))
  | [] => pure []
  | param :: rest => do
    let site ← present (← declarationOf param)
    match ((← get).site site).default with
    | none => pure []
    | some fallback =>
      let type ← ask (·.typeAt fallback)
      let others ← fillDefaults rest
      pure (type :: others)

def withDefaults (params arguments : List (Option TypeId)) : Build (List (Option TypeId)) := do
  let filled ← fillDefaults (params.drop arguments.length)
  pure (arguments ++ filled)

abbrev Mapping := Table (Option TypeId) (Option TypeId)

def instantiateMember (mapping : Mapping) (member : Option SymbolId) : Build SymbolId := do
  let declared := (← get).symbol (← present member)
  let symbol ← newSymbol
    { name := declared.name, flags := declared.flags, declarations := declared.declarations,
      valueDeclaration := declared.valueDeclaration, documentation := declared.documentation,
      target := member }
  if let some (some type) := declared.answers.value then
    bindSymbol symbol ((Table.get? mapping (some type)).getD type)
  pure symbol

def instantiateIndex (mapping : Mapping) (index : Option IndexId) : Build (Option IndexId) := do
  match index with
  | none => pure none
  | some id =>
    let info := (← get).indexInfo id
    match Table.get? mapping info.type with
    | none => pure (some id)
    | some type => some <$> newIndexInfo { info with type }

def instantiate (generic : Option TypeId) (arguments : List (Option TypeId)) : Build TypeId := do
  let target ← present generic
  let declared := (← get).type target
  let params := declared.typeParameters.slots
  let arguments ← withDefaults params arguments
  let mapping := Table.ofPairs (params.zip arguments)
  let properties ← (← declared.properties.each).mapM (instantiateMember mapping)
  let callSignatures ← declared.callSignatures.each
  let stringIndex ← instantiateIndex mapping declared.stringIndex
  let numberIndex ← instantiateIndex mapping declared.numberIndex
  newType
    { flags := [.object], objectFlags := [.reference], symbol := declared.symbol,
      target := some target, arguments := some arguments, properties := Slots.of properties,
      callSignatures := some callSignatures, stringIndex, numberIndex }

def instantiateAlias (aliased : Option TypeId) (arguments : List (Option TypeId)) :
    Build TypeId := do
  let p ← get
  let id ← present aliased
  let type := p.type id
  match type.alias? with
  | none => throw (.unsuitable (p.describeType id ++ " is not an alias"))
  | some symbol =>
    let site ← present (← (p.symbol symbol).declarations.first)
    let params ← (← (p.site site).typeParameters.each).mapM fun param => ask (·.typeAt param)
    let copy ← newType type
    let filled ← withDefaults params arguments
    setType copy ({ · with aliasArguments := some filled })
    pure copy

end TypeAtlas.Build
