import TypeAtlas.Data.Basic
import TypeAtlas.Fault
import TypeAtlas.Program.Flag
import TypeAtlas.Program.Kind

/-!
What a type checker knows about a program: places in the source, symbols, types, signatures and
index signatures. Records refer to each other by handles, so that a type may lead back to itself. A list
in a record may be left unset and may have gaps, and both are told apart from a list without items.
-/

namespace TypeAtlas

def present {α : Type} : Option α → Except Fault α
  | some value => .ok value
  | none => .error .absent

abbrev Slots (α : Type) := Option (List (Option α))

namespace Slots

variable {α : Type}

def of (items : List α) : Slots α := some (items.map some)

def slots (s : Slots α) : List (Option α) := s.getD []

def each : Slots α → Except Fault (List (Option α))
  | some items => .ok items
  | none => .error .wrongKind

def first? (s : Slots α) : Option α := s.slots.head?.join

def first (s : Slots α) : Except Fault (Option α) := do
  match ← s.each with
  | [] => throw .emptyList
  | slot :: _ => pure slot

def isEmpty (s : Slots α) : Bool := s.slots.isEmpty

def push (s : Slots α) (item : Option α) : Except Fault (Slots α) := do
  return some ((← s.each) ++ [item])

def joined (separator : String) (s : Slots String) : Except Fault String := do
  let parts ← (← s.each).mapM fun part =>
    match part with
    | some text => Except.ok text
    | none => .error .wrongKind
  return separator.intercalate parts

end Slots

structure SiteId where
  index : Nat
deriving DecidableEq, Repr, Inhabited

structure SymbolId where
  index : Nat
deriving DecidableEq, Repr, Inhabited

structure TypeId where
  index : Nat
deriving DecidableEq, Repr, Inhabited

structure SignatureId where
  index : Nat
deriving DecidableEq, Repr, Inhabited

structure IndexId where
  index : Nat
deriving DecidableEq, Repr, Inhabited

inductive Literal where
  | bool (value : Bool)
  | int (value : Int)
  | float (value : Binary64)
  | text (value : String)
deriving DecidableEq, Repr, Inhabited

def Literal.toData : Literal → Data
  | bool value => .bool value
  | int value => .int value
  | float value => .float value
  | text value => .text value

/-- What the checker answers about a place: the type that stands there and the signature declared
there. It may know of a place that nothing stands there. -/
structure SiteAnswers where
  type : Option (Option TypeId) := none
  signature : Option (Option SignatureId) := none
deriving Repr, Inhabited

/-- What the checker answers about a symbol: the type of its value and the type it declares. -/
structure SymbolAnswers where
  value : Option (Option TypeId) := none
  declared : Option (Option TypeId) := none
deriving Repr, Inhabited

structure HeritageClause where
  token : HeritageToken
  types : List (Option SiteId) := []
deriving Repr, Inhabited

/-- A place in the source: a declaration, a written type or an expression. -/
structure Site where
  kind : SiteKind
  name : Option String := none
  symbol : Option SymbolId := none
  parent : Option SiteId := none
  fileName : Option String := none
  type : Option SiteId := none
  types : Slots SiteId := some []
  typeParameters : Slots SiteId := some []
  typeParameter : Option SiteId := none
  parameters : Slots SiteId := some []
  constraint : Option SiteId := none
  default : Option SiteId := none
  initializer : Option SiteId := none
  expression : Option SiteId := none
  heritage : List HeritageClause := []
  spread : Option Bool := some false
  optional : Option Bool := some false
  modifiers : Slots String := some []
  answers : SiteAnswers := {}
deriving Repr, Inhabited

/-- A named thing. `target` is the member it was instantiated from. -/
structure Symbol where
  name : String
  flags : SymbolFlags := []
  id : Int := 0
  declarations : Slots SiteId := some []
  valueDeclaration : Option SiteId := none
  documentation : Slots String := some []
  target : Option SymbolId := none
  members : Table String (Option SymbolId) := []
  exports : Slots SymbolId := some []
  parent : Option SymbolId := none
  answers : SymbolAnswers := {}
deriving Repr, Inhabited

structure Signature where
  declaration : Option SiteId := none
  typeParameters : Slots TypeId := some []
  parameters : Slots SymbolId := some []
  returns : Option TypeId
deriving Repr, Inhabited

structure IndexInfo where
  keyType : Option TypeId
  type : Option TypeId
  declaration : Option SiteId := none
deriving Repr, Inhabited

/-- A resolved type. Which fields count depends on the flags: literals have a `value`, unions and
intersections `types`, references a `target` and `arguments`, and so on. -/
structure TypeInfo where
  flags : TypeFlags
  id : Int := 0
  objectFlags : ObjectFlags := []
  symbol : Option SymbolId := none
  alias? : Option SymbolId := none
  aliasArguments : Slots TypeId := none
  target : Option TypeId := none
  arguments : Slots TypeId := none
  typeParameters : Slots TypeId := none
  types : Slots TypeId := some []
  value : Option Literal := none
  intrinsicName : Option String := none
  properties : Slots SymbolId := some []
  callSignatures : Slots SignatureId := some []
  constructSignatures : Slots SignatureId := some []
  stringIndex : Option IndexId := none
  numberIndex : Option IndexId := none
  constraint : Option TypeId := none
  checkType : Option TypeId := none
  extendsType : Option TypeId := none
  trueType : Option TypeId := none
  falseType : Option TypeId := none
  baseType : Option TypeId := none
  operand : Option TypeId := none
  objectType : Option TypeId := none
  indexType : Option TypeId := none
  typeParameter : Option TypeId := none
deriving Repr, Inhabited

namespace TypeInfo

def hasFlag (t : TypeInfo) (flag : TypeFlag) : Bool := t.flags.contains flag

def hasObjectFlag (t : TypeInfo) (flag : ObjectFlag) : Bool := t.objectFlags.contains flag

end TypeInfo

def Symbol.hasFlag (s : Symbol) (flag : SymbolFlag) : Bool := s.flags.contains flag

end TypeAtlas
