/-!
Flags that a type checker puts on types and symbols. The sets overlap: `boolean` is also a union, a
member of an enumeration is a literal as well, so a reader of flags has to fix an order of tests.
-/

namespace TypeAtlas

inductive TypeFlag where
  | any
  | unknown
  | string
  | number
  | boolean
  | enum
  | bigint
  | stringLiteral
  | numberLiteral
  | booleanLiteral
  | enumLiteral
  | bigintLiteral
  | esSymbol
  | uniqueEsSymbol
  | void
  | undefined
  | null
  | never
  | typeParameter
  | object
  | union
  | intersection
  | index
  | indexedAccess
  | conditional
  | substitution
  | nonPrimitive
deriving DecidableEq, Repr, Inhabited

def TypeFlag.name : TypeFlag → String
  | .any => "ANY"
  | .unknown => "UNKNOWN"
  | .string => "STRING"
  | .number => "NUMBER"
  | .boolean => "BOOLEAN"
  | .enum => "ENUM"
  | .bigint => "BIGINT"
  | .stringLiteral => "STRING_LITERAL"
  | .numberLiteral => "NUMBER_LITERAL"
  | .booleanLiteral => "BOOLEAN_LITERAL"
  | .enumLiteral => "ENUM_LITERAL"
  | .bigintLiteral => "BIGINT_LITERAL"
  | .esSymbol => "ES_SYMBOL"
  | .uniqueEsSymbol => "UNIQUE_ES_SYMBOL"
  | .void => "VOID"
  | .undefined => "UNDEFINED"
  | .null => "NULL"
  | .never => "NEVER"
  | .typeParameter => "TYPE_PARAMETER"
  | .object => "OBJECT"
  | .union => "UNION"
  | .intersection => "INTERSECTION"
  | .index => "INDEX"
  | .indexedAccess => "INDEXED_ACCESS"
  | .conditional => "CONDITIONAL"
  | .substitution => "SUBSTITUTION"
  | .nonPrimitive => "NON_PRIMITIVE"

def TypeFlag.all : List TypeFlag :=
  [.any, .unknown, .string, .number, .boolean, .enum, .bigint, .stringLiteral, .numberLiteral,
   .booleanLiteral, .enumLiteral, .bigintLiteral, .esSymbol, .uniqueEsSymbol, .void,
   .undefined, .null, .never, .typeParameter, .object, .union, .intersection, .index,
   .indexedAccess, .conditional, .substitution, .nonPrimitive]

inductive ObjectFlag where
  | classKind
  | interface
  | reference
  | tuple
  | anonymous
  | mapped
deriving DecidableEq, Repr, Inhabited

def ObjectFlag.name : ObjectFlag → String
  | .classKind => "CLASS"
  | .interface => "INTERFACE"
  | .reference => "REFERENCE"
  | .tuple => "TUPLE"
  | .anonymous => "ANONYMOUS"
  | .mapped => "MAPPED"

def ObjectFlag.all : List ObjectFlag :=
  [.classKind, .interface, .reference, .tuple, .anonymous, .mapped]

inductive SymbolFlag where
  | variableKind
  | property
  | enumMember
  | function
  | classKind
  | interface
  | constEnum
  | regularEnum
  | method
  | typeLiteral
  | typeParameter
  | typeAlias
  | aliasKind
  | prototype
  | optional
  | moduleKind
  | namespaceKind
deriving DecidableEq, Repr, Inhabited

def SymbolFlag.name : SymbolFlag → String
  | .variableKind => "VARIABLE"
  | .property => "PROPERTY"
  | .enumMember => "ENUM_MEMBER"
  | .function => "FUNCTION"
  | .classKind => "CLASS"
  | .interface => "INTERFACE"
  | .constEnum => "CONST_ENUM"
  | .regularEnum => "REGULAR_ENUM"
  | .method => "METHOD"
  | .typeLiteral => "TYPE_LITERAL"
  | .typeParameter => "TYPE_PARAMETER"
  | .typeAlias => "TYPE_ALIAS"
  | .aliasKind => "ALIAS"
  | .prototype => "PROTOTYPE"
  | .optional => "OPTIONAL"
  | .moduleKind => "MODULE"
  | .namespaceKind => "NAMESPACE"

def SymbolFlag.all : List SymbolFlag :=
  [.variableKind, .property, .enumMember, .function, .classKind, .interface, .constEnum,
   .regularEnum, .method, .typeLiteral, .typeParameter, .typeAlias, .aliasKind, .prototype,
   .optional, .moduleKind, .namespaceKind]

abbrev TypeFlags := List TypeFlag

abbrev ObjectFlags := List ObjectFlag

abbrev SymbolFlags := List SymbolFlag

/-- The set as a number, one bit for each flag of `all`. Order and repetition do not count. -/
def flagValue {α : Type} [DecidableEq α] (all set : List α) : Nat :=
  all.zipIdx.foldr (fun (flag, bit) value => (if flag ∈ set then Nat.pow 2 bit else 0) + value) 0

def TypeFlags.value (flags : TypeFlags) : Nat := flagValue TypeFlag.all flags

def ObjectFlags.value (flags : ObjectFlags) : Nat := flagValue ObjectFlag.all flags

def SymbolFlags.value (flags : SymbolFlags) : Nat := flagValue SymbolFlag.all flags

def TypeFlags.names (flags : TypeFlags) : List String :=
  (TypeFlag.all.filter (· ∈ flags)).map TypeFlag.name

end TypeAtlas
