import TypeAtlas.Program.Record

/-!
Nodes: the serializable description of a type. Named types are referred to by name; all others are
written out where they are used.
-/

namespace TypeAtlas

inductive Primitive where
  | string
  | number
  | boolean
  | bigint
  | void
  | undefined
  | null
  | never
  | any
  | unknown
  | esSymbol
  | uniqueEsSymbol
deriving DecidableEq, Repr, Inhabited

namespace Primitive

def text : Primitive → String
  | string => "string"
  | number => "number"
  | boolean => "boolean"
  | bigint => "bigint"
  | void => "void"
  | undefined => "undefined"
  | null => "null"
  | never => "never"
  | any => "any"
  | unknown => "unknown"
  | esSymbol => "esSymbol"
  | uniqueEsSymbol => "uniqueEsSymbol"

def all : List Primitive :=
  [string, number, boolean, bigint, void, undefined, null, never, any, unknown, esSymbol,
   uniqueEsSymbol]

def ofText? (s : String) : Option Primitive := all.find? (·.text == s)

end Primitive

inductive ImportScope where
  | lib
  | global
  | module_
deriving DecidableEq, Repr, Inhabited

namespace ImportScope

def text : ImportScope → String
  | lib => "lib"
  | global => "global"
  | module_ => "module"

def ofText? (s : String) : Option ImportScope := [lib, global, module_].find? (·.text == s)

end ImportScope

namespace Node

/-- A reference to an entry or to a type parameter. `live` is the type it was made from, for looking
up inherited members; it is never written. -/
structure Ref (α : Type) where
  name : String
  types : List α := []
  live : Option TypeId := none
deriving Inhabited

structure Member (α : Type) where
  name : String
  value : α
  comment : Option String := none

structure TypeParameter (α : Type) where
  parameter : Ref α
  constraint : Option α := none
  default : Option α := none

structure Parameter (α : Type) where
  name : String
  modifiers : String := ""
  spread : Bool := false
  optional : Bool := false
  value : α

structure Property (α : Type) where
  name : String
  modifiers : String := ""
  id : Option Int := none
  optional : Bool := false
  comment : Option String := none
  value : α

structure Callable (α : Type) where
  types : List (TypeParameter α) := []
  parameters : List (Parameter α) := []
  returns : α
  comment : Option String := none

/-- The key of a mapped type with what it ranges over, and the type of the values. -/
structure Mapped (α : Type) where
  name : String
  constraint : Option α := none
  optional : Bool := false
  value : α

structure Shape (α : Type) where
  bases : List α := []
  props : List α := []
  types : List (TypeParameter α) := []
  mapped : Option (Mapped α) := none
  comment : Option String := none

end Node

inductive Node where
  | primitive (kind : Primitive)
  | nonPrimitive (name : Option String)
  | unidentified
  | literal (value : Literal)
  | bigintLiteral (digits : String)
  | member (member : Node.Member Node)
  | enumeration (values : List (Node.Member Node)) (comment : Option String)
  | enumLiteral (values : List (Node.Member Node)) (isConst : Bool) (comment : Option String)
  | tuple (types : List Node)
  | union (types : List Node)
  | intersection (types : List Node)
  | indexedAccess (index object : Option Node)
  | prefixed (operator : String) (value : Node)
  | conditional (check extended primary alternate : Node)
  | substitution (base : Node)
  | infer (parameter : Node)
  | typeParameter (parameter : Node.TypeParameter Node)
  | parameter (parameter : Node.Parameter Node)
  | prop (property : Node.Property Node)
  | index (parameters : List (Node.Parameter Node)) (optional : Bool) (value : Node)
  | function (callable : Node.Callable Node)
  | construct (callable : Node.Callable Node)
  | mapped (mapped : Node.Mapped Node)
  | interface (shape : Node.Shape Node)
  | classShape (shape : Node.Shape Node) (implemented : List Node)
  | aliasOf (types : List (Node.TypeParameter Node)) (child : Node) (comment : Option String)
  | const (value : Node) (comment : Option String)
  | defaultExport (value : Node) (comment : Option String)
  | ref (ref : Node.Ref Node)
  | imported (name : String) (home : Option String) (scope : ImportScope)
deriving Inhabited

namespace Node

def kind : Node → String
  | primitive kind => kind.text
  | nonPrimitive _ => "nonPrimitive"
  | unidentified => "unidentified"
  | literal _ => "literal"
  | bigintLiteral _ => "bigintLiteral"
  | member _ => "member"
  | enumeration _ _ => "enum"
  | enumLiteral _ _ _ => "enumLiteral"
  | tuple _ => "tuple"
  | union _ => "union"
  | intersection _ => "intersection"
  | indexedAccess _ _ => "indexedAccess"
  | prefixed _ _ => "prefix"
  | conditional _ _ _ _ => "conditional"
  | substitution _ => "substitution"
  | infer _ => "infer"
  | typeParameter _ => "typeParameter"
  | parameter _ => "parameter"
  | prop _ => "prop"
  | index _ _ _ => "index"
  | function _ => "function"
  | construct _ => "constructor"
  | mapped _ => "mapped"
  | interface _ => "interface"
  | classShape _ _ => "class"
  | aliasOf _ _ _ => "alias"
  | const _ _ => "const"
  | defaultExport _ _ => "default"
  | ref _ => "ref"
  | imported _ _ _ => "import"

inductive Slot where
  | text (value : String)
  | flag (value : Bool)
  | number (value : Int)
  | literal (value : Literal)
  | one (node : Node)
  | many (nodes : List Node)

def Slot.nodes : Slot → List Node
  | one node => [node]
  | many nodes => nodes
  | _ => []

def textField (name : String) : Option String → List (String × Slot)
  | some value => [(name, .text value)]
  | none => []

def nodeField (name : String) : Option Node → List (String × Slot)
  | some node => [(name, .one node)]
  | none => []

def numberField (name : String) : Option Int → List (String × Slot)
  | some value => [(name, .number value)]
  | none => []

def typesField (types : List (TypeParameter Node)) : String × Slot :=
  ("types", .many (types.map .typeParameter))

def parametersField (parameters : List (Parameter Node)) : String × Slot :=
  ("parameters", .many (parameters.map .parameter))

def mappedField (entry : Option (Mapped Node)) : List (String × Slot) :=
  nodeField "mapped" (entry.map .mapped)

/-- The fields of a node under the names and in the order in which they are written. Optional fields
that are absent are left out. -/
def fields : Node → List (String × Slot)
  | primitive _ => []
  | nonPrimitive name => textField "name" name
  | unidentified => []
  | literal value => [("value", .literal value)]
  | bigintLiteral digits => [("value", .text digits)]
  | member m => [("name", .text m.name), ("value", .one m.value)] ++ textField "comment" m.comment
  | enumeration values comment =>
    ("values", .many (values.map .member)) :: textField "comment" comment
  | enumLiteral values isConst comment =>
    ("values", .many (values.map .member)) :: ("const", .flag isConst) :: textField "comment" comment
  | tuple types => [("types", .many types)]
  | union types => [("types", .many types)]
  | intersection types => [("types", .many types)]
  | indexedAccess key holder => nodeField "index" key ++ nodeField "object" holder
  | prefixed operator value => [("prefix", .text operator), ("value", .one value)]
  | conditional check extended primary alternate =>
    [("check", .one check), ("extends", .one extended), ("primary", .one primary),
     ("alternate", .one alternate)]
  | substitution base => [("variable", .one base)]
  | infer declared => [("parameter", .one declared)]
  | typeParameter p =>
    ("parameter", .one (.ref p.parameter)) ::
      (nodeField "constraint" p.constraint ++ nodeField "default" p.default)
  | parameter p =>
    [("param", .text p.name), ("modifiers", .text p.modifiers), ("spread", .flag p.spread),
     ("optional", .flag p.optional), ("value", .one p.value)]
  | prop p =>
    [("name", .text p.name), ("modifiers", .text p.modifiers)] ++ numberField "id" p.id ++
      [("optional", .flag p.optional)] ++ textField "comment" p.comment ++
      [("valueType", .one p.value)]
  | index parameters optional value =>
    [parametersField parameters, ("optional", .flag optional), ("valueType", .one value)]
  | function c =>
    [typesField c.types, parametersField c.parameters, ("returnType", .one c.returns)] ++
      textField "comment" c.comment
  | construct c =>
    [typesField c.types, parametersField c.parameters, ("returnType", .one c.returns)] ++
      textField "comment" c.comment
  | mapped m =>
    ("name", .text m.name) ::
      (nodeField "constraint" m.constraint ++ [("optional", .flag m.optional), ("value", .one m.value)])
  | interface s =>
    [("extends", .many s.bases), ("props", .many s.props), typesField s.types] ++
      mappedField s.mapped ++ textField "comment" s.comment
  | classShape s implemented =>
    [("extends", .many s.bases), ("implements", .many implemented), ("props", .many s.props),
     typesField s.types] ++ mappedField s.mapped ++ textField "comment" s.comment
  | aliasOf types child comment =>
    [typesField types, ("child", .one child)] ++ textField "comment" comment
  | const value comment => ("value", .one value) :: textField "comment" comment
  | defaultExport value comment => ("value", .one value) :: textField "comment" comment
  | ref r => [("refName", .text r.name), ("types", .many r.types)]
  | imported name home scope =>
    ("name", .text name) :: (textField "module" home ++ [("scope", .text scope.text)])

def nodesOf (slots : List (String × Slot)) : List Node := slots.flatMap fun slot => slot.2.nodes

@[simp] theorem nodesOf_nil : nodesOf [] = [] := rfl

@[simp] theorem nodesOf_cons (slot : String × Slot) (rest : List (String × Slot)) :
    nodesOf (slot :: rest) = slot.2.nodes ++ nodesOf rest := by
  simp [nodesOf]

@[simp] theorem nodesOf_append (first second : List (String × Slot)) :
    nodesOf (first ++ second) = nodesOf first ++ nodesOf second := by
  simp [nodesOf]

@[simp] theorem nodesOf_textField (name : String) (value : Option String) :
    nodesOf (textField name value) = [] := by
  cases value <;> simp [textField, Slot.nodes]

@[simp] theorem nodesOf_numberField (name : String) (value : Option Int) :
    nodesOf (numberField name value) = [] := by
  cases value <;> simp [numberField, Slot.nodes]

@[simp] theorem nodesOf_nodeField (name : String) (value : Option Node) :
    nodesOf (nodeField name value) = value.toList := by
  cases value <;> simp [nodeField, Slot.nodes]

def children (node : Node) : List Node := nodesOf node.fields

theorem sizeOf_lt_of_mem_wrapped {α : Type} [SizeOf α] {wrap : α → Node} {items : List α}
    {child : Node} (size : ∀ item, sizeOf (wrap item) = 1 + sizeOf item)
    (below : ∃ item, item ∈ items ∧ wrap item = child) : sizeOf child < 1 + sizeOf items := by
  obtain ⟨item, member, rfl⟩ := below
  have := List.sizeOf_lt_of_mem member
  rw [size]
  omega

theorem sizeOf_lt_of_mem_children {node child : Node} (below : child ∈ node.children) :
    sizeOf child < sizeOf node := by
  have size := fun item => member.sizeOf_spec item
  have size' := fun item => typeParameter.sizeOf_spec item
  have size'' := fun item => parameter.sizeOf_spec item
  cases node <;>
    simp [children, fields, typesField, parametersField, mappedField, Slot.nodes] at below
  case member m => cases m; simp_all; omega
  case enumeration values comment =>
    have := sizeOf_lt_of_mem_wrapped size below
    simp; omega
  case enumLiteral values isConst comment =>
    have := sizeOf_lt_of_mem_wrapped size below
    simp; omega
  case tuple types => have := List.sizeOf_lt_of_mem below; simp; omega
  case union types => have := List.sizeOf_lt_of_mem below; simp; omega
  case intersection types => have := List.sizeOf_lt_of_mem below; simp; omega
  case indexedAccess key holder => rcases below with rfl | rfl <;> simp <;> omega
  case prefixed operator value => subst below; simp only [prefixed.sizeOf_spec]; omega
  case conditional check extended primary alternate =>
    rcases below with rfl | rfl | rfl | rfl <;> simp <;> omega
  case substitution base => subst below; simp
  case infer declared => subst below; simp
  case typeParameter p =>
    cases p
    rcases below with rfl | rfl | rfl <;> simp <;> omega
  case parameter p => cases p; simp_all; omega
  case prop p => cases p; simp_all; omega
  case index parameters optional value =>
    rcases below with below | rfl
    · have := sizeOf_lt_of_mem_wrapped size'' below
      simp; omega
    · simp
  case function c =>
    cases c
    dsimp only at below
    rcases below with below | below | rfl
    · have := sizeOf_lt_of_mem_wrapped size' below
      simp; omega
    · have := sizeOf_lt_of_mem_wrapped size'' below
      simp; omega
    · simp; omega
  case construct c =>
    cases c
    dsimp only at below
    rcases below with below | below | rfl
    · have := sizeOf_lt_of_mem_wrapped size' below
      simp; omega
    · have := sizeOf_lt_of_mem_wrapped size'' below
      simp; omega
    · simp; omega
  case mapped m =>
    cases m
    rcases below with rfl | rfl <;> simp <;> omega
  case interface s =>
    cases s
    dsimp only at below
    rcases below with below | below | below | ⟨entry, rfl, rfl⟩
    · have := List.sizeOf_lt_of_mem below
      simp; omega
    · have := List.sizeOf_lt_of_mem below
      simp; omega
    · have := sizeOf_lt_of_mem_wrapped size' below
      simp; omega
    · simp; omega
  case classShape s implemented =>
    cases s
    dsimp only at below
    rcases below with below | below | below | below | ⟨entry, rfl, rfl⟩
    · have := List.sizeOf_lt_of_mem below
      simp; omega
    · have := List.sizeOf_lt_of_mem below
      simp; omega
    · have := List.sizeOf_lt_of_mem below
      simp; omega
    · have := sizeOf_lt_of_mem_wrapped size' below
      simp; omega
    · simp; omega
  case aliasOf types child comment =>
    rcases below with below | rfl
    · have := sizeOf_lt_of_mem_wrapped size' below
      simp; omega
    · simp; omega
  case const value comment => subst below; simp; omega
  case defaultExport value comment => subst below; simp; omega
  case ref r =>
    cases r
    have := List.sizeOf_lt_of_mem below
    simp at this ⊢; omega

theorem sizeOf_lt_of_mem_fields {node child : Node} {field : String × Slot}
    (present : field ∈ node.fields) (below : child ∈ field.2.nodes) :
    sizeOf child < sizeOf node :=
  sizeOf_lt_of_mem_children (List.mem_flatMap.mpr ⟨field, present, below⟩)

end Node

end TypeAtlas
