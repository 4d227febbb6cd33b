import TypeAtlas.Extract.Walk

/-!
Terminal types: primitives, literals and enumerations, and the conditional and substitution types
that are told by a flag of their own. Flags overlap, so the rules are tried from the first on.
-/

namespace TypeAtlas

inductive Terminal where
  | primitive (kind : Primitive)
  | literal
  | truth
  | enumLiteral
  | enumeration
  | bigintLiteral
  | conditional
  | substitution
  | nonPrimitive
deriving DecidableEq, Repr

namespace Terminal

/-- A rule holds when all its flags are there. Enumerations come before their member literals and
before plain unions, and `boolean` never gets as far as a union. -/
def rules : List (List TypeFlag × Terminal) :=
  [([.any], primitive .any),
   ([.unknown], primitive .unknown),
   ([.stringLiteral], literal),
   ([.numberLiteral], literal),
   ([.booleanLiteral], truth),
   ([.enumLiteral, .union], enumLiteral),
   ([.enum, .union], enumeration),
   ([.bigintLiteral], bigintLiteral),
   ([.string], primitive .string),
   ([.boolean], primitive .boolean),
   ([.number], primitive .number),
   ([.bigint], primitive .bigint),
   ([.esSymbol], primitive .esSymbol),
   ([.uniqueEsSymbol], primitive .uniqueEsSymbol),
   ([.void], primitive .void),
   ([.undefined], primitive .undefined),
   ([.null], primitive .null),
   ([.never], primitive .never),
   ([.conditional], conditional),
   ([.substitution], substitution),
   ([.nonPrimitive], nonPrimitive)]

def ofFlags? (flags : TypeFlags) : Option Terminal :=
  (rules.find? fun rule => rule.1.all flags.contains).map Prod.snd

end Terminal

/-- What is wrong with a literal that has no value: it is none of the four kinds of value. -/
def valueMissing : List Violation :=
  [{ rule := .bool, path := [.key "value", .key "bool"] },
   { rule := .int, path := [.key "value", .key "int"] },
   { rule := .float, path := [.key "value", .key "float"] },
   { rule := .string, path := [.key "value", .key "str"] }]

namespace Engine

variable (e : Engine)

def includeMember (type : Option TypeId) : Extract (Node.Member Node) := do
  let p := e.program
  let type ← present type
  let symbol := (p.type type).symbol
  let name := (symbol.map fun id => (p.symbol id).name).getD ""
  let value ← e.visitInline type
  let comment ← p.comment symbol
  pure { name, value, comment }

def includeTerminal (info : TypeInfo) : Terminal → Extract Node
  | .primitive kind => pure (.primitive kind)
  | .literal =>
    match info.value with
    | some value => pure (.literal value)
    | none => .fail (.malformed valueMissing)
  | .truth => pure (.literal (.bool (info.intrinsicName == some "true")))
  | .enumLiteral => do
    let isConst := info.symbol.any fun symbol => (e.program.symbol symbol).hasFlag .constEnum
    let comment ← e.program.comment info.symbol
    let values ← (← info.types.each).mapM e.includeMember
    pure (.enumLiteral values isConst comment)
  | .enumeration => do
    let comment ← e.program.comment info.symbol
    let values ← (← info.types.each).mapM e.includeMember
    pure (.enumeration values comment)
  | .bigintLiteral =>
    pure (.bigintLiteral ((info.value.map Literal.toData).getD .null).plain)
  | .conditional => do
    let extended ← e.visitPresent info.extendsType
    let check ← e.visitPresent info.checkType
    let primary ← e.visitPresent info.trueType
    let alternate ← e.visitPresent info.falseType
    pure (.conditional check extended primary alternate)
  | .substitution => do
    let base ← e.visitPresent info.baseType
    pure (.substitution base)
  | .nonPrimitive => pure (.nonPrimitive info.intrinsicName)

def includeBasic (type : TypeId) : Extract (Option Node) := do
  let info := e.program.type type
  match Terminal.ofFlags? info.flags with
  | some terminal => some <$> e.includeTerminal info terminal
  | none => pure none

end Engine

end TypeAtlas
