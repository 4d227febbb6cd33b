import TypeAtlas.Node.Written

/-!
Nodes without the live types of their references, which are never written.
-/

namespace TypeAtlas.Node

mutual

def erased : Node → Node
  | primitive kind => primitive kind
  | nonPrimitive name => nonPrimitive name
  | unidentified => unidentified
  | literal value => literal value
  | bigintLiteral digits => bigintLiteral digits
  | member m => member (erasedMember m)
  | enumeration values comment => enumeration (erasedMembers values) comment
  | enumLiteral values isConst comment => enumLiteral (erasedMembers values) isConst comment
  | tuple types => tuple (erasedEach types)
  | union types => union (erasedEach types)
  | intersection types => intersection (erasedEach types)
  | indexedAccess key holder => indexedAccess (erasedPart key) (erasedPart holder)
  | prefixed operator value => prefixed operator (erased value)
  | conditional check extended primary alternate =>
    conditional (erased check) (erased extended) (erased primary) (erased alternate)
  | substitution base => substitution (erased base)
  | infer declared => infer (erased declared)
  | typeParameter p => typeParameter (erasedTypeParameter p)
  | parameter p => parameter (erasedParameter p)
  | prop p => prop (erasedProperty p)
  | index keys optional value => index (erasedParameters keys) optional (erased value)
  | function c => function (erasedCallable c)
  | construct c => construct (erasedCallable c)
  | mapped m => mapped (erasedMapped m)
  | interface s => interface (erasedShape s)
  | classShape s implemented => classShape (erasedShape s) (erasedEach implemented)
  | aliasOf types child comment => aliasOf (erasedTypeParameters types) (erased child) comment
  | const value comment => const (erased value) comment
  | defaultExport value comment => defaultExport (erased value) comment
  | ref r => ref (erasedRef r)
  | imported name home scope => imported name home scope

def erasedEach : List Node → List Node
  | [] => []
  | node :: rest => erased node :: erasedEach rest

def erasedPart : Option Node → Option Node
  | none => none
  | some node => some (erased node)

def erasedRef : Ref Node → Ref Node
  | ⟨name, types, _⟩ => ⟨name, erasedEach types, none⟩

def erasedMember : Member Node → Member Node
  | ⟨name, value, comment⟩ => ⟨name, erased value, comment⟩

def erasedMembers : List (Member Node) → List (Member Node)
  | [] => []
  | m :: rest => erasedMember m :: erasedMembers rest

def erasedTypeParameter : TypeParameter Node → TypeParameter Node
  | ⟨declared, constraint, default⟩ =>
    ⟨erasedRef declared, erasedPart constraint, erasedPart default⟩

def erasedTypeParameters : List (TypeParameter Node) → List (TypeParameter Node)
  | [] => []
  | p :: rest => erasedTypeParameter p :: erasedTypeParameters rest

def erasedParameter : Parameter Node → Parameter Node
  | ⟨name, modifiers, spread, optional, value⟩ =>
    ⟨name, modifiers, spread, optional, erased value⟩

def erasedParameters : List (Parameter Node) → List (Parameter Node)
  | [] => []
  | p :: rest => erasedParameter p :: erasedParameters rest

def erasedProperty : Property Node → Property Node
  | ⟨name, modifiers, id, optional, comment, value⟩ =>
    ⟨name, modifiers, id, optional, comment, erased value⟩

def erasedCallable : Callable Node → Callable Node
  | ⟨types, parameters, returns, comment⟩ =>
    ⟨erasedTypeParameters types, erasedParameters parameters, erased returns, comment⟩

def erasedMapped : Mapped Node → Mapped Node
  | ⟨name, constraint, optional, value⟩ => ⟨name, erasedPart constraint, optional, erased value⟩

def erasedMappedPart : Option (Mapped Node) → Option (Mapped Node)
  | none => none
  | some m => some (erasedMapped m)

def erasedShape : Shape Node → Shape Node
  | ⟨bases, props, types, range, comment⟩ =>
    ⟨erasedEach bases, erasedEach props, erasedTypeParameters types, erasedMappedPart range, comment⟩

end

theorem eq_map_of_cons {α : Type} {each : List α → List α} {one : α → α} (nil : each [] = [])
    (cons : ∀ item rest, each (item :: rest) = one item :: each rest) (items : List α) :
    each items = items.map one := by
  induction items with
  | nil => exact nil
  | cons item rest ih => rw [cons, ih, List.map_cons]

theorem erasedEach_eq : erasedEach = List.map erased :=
  funext (eq_map_of_cons rfl fun _ _ => rfl)

theorem erasedMembers_eq : erasedMembers = List.map erasedMember :=
  funext (eq_map_of_cons rfl fun _ _ => rfl)

theorem erasedTypeParameters_eq : erasedTypeParameters = List.map erasedTypeParameter :=
  funext (eq_map_of_cons rfl fun _ _ => rfl)

theorem erasedParameters_eq : erasedParameters = List.map erasedParameter :=
  funext (eq_map_of_cons rfl fun _ _ => rfl)

def Slot.erased : Slot → Slot
  | one node => one node.erased
  | many nodes => many (nodes.map Node.erased)
  | slot => slot

@[simp] theorem Slot.erased_text (value : String) : (text value).erased = text value := rfl

@[simp] theorem Slot.erased_flag (value : Bool) : (flag value).erased = flag value := rfl

@[simp] theorem Slot.erased_number (value : Int) : (number value).erased = number value := rfl

@[simp] theorem Slot.erased_literal (value : Literal) : (literal value).erased = literal value := rfl

@[simp] theorem Slot.erased_one (node : Node) : (one node).erased = one node.erased := rfl

@[simp] theorem Slot.erased_many (nodes : List Node) :
    (many nodes).erased = many (nodes.map Node.erased) := rfl

theorem kind_erased (node : Node) : node.erased.kind = node.kind := by
  cases node <;> rfl

@[simp] theorem textField_erased (name : String) (value : Option String) :
    (textField name value).map (fun field => (field.1, field.2.erased)) = textField name value := by
  cases value <;> rfl

@[simp] theorem numberField_erased (name : String) (value : Option Int) :
    (numberField name value).map (fun field => (field.1, field.2.erased)) =
      numberField name value := by
  cases value <;> rfl

@[simp] theorem nodeField_erased (name : String) (value : Option Node) :
    (nodeField name value).map (fun field => (field.1, field.2.erased)) =
      nodeField name (erasedPart value) := by
  cases value <;> rfl

@[simp] theorem mappedField_erased (entry : Option (Mapped Node)) :
    (mappedField entry).map (fun field => (field.1, field.2.erased)) =
      mappedField (erasedMappedPart entry) := by
  cases entry <;> rfl

attribute [local simp] fields typesField parametersField erased erasedRef erasedMember
  erasedTypeParameter erasedParameter erasedProperty erasedCallable erasedMapped erasedShape
  erasedEach_eq erasedMembers_eq erasedTypeParameters_eq erasedParameters_eq Function.comp_def in
theorem fields_erased (node : Node) :
    node.erased.fields = node.fields.map fun field => (field.1, field.2.erased) := by
  cases node
  case member part | typeParameter part | parameter part | prop part | function part |
      construct part | mapped part | interface part | classShape part implemented | ref part =>
    cases part
    simp
  all_goals simp

end TypeAtlas.Node
