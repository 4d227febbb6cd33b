import TypeAtlas.Graph
import TypeAtlas.Proofs.Node.Erased

/-!
Nodes without the ids of their properties. Leaving the ids out of the data that a node is written as
gives the data of the node that never had them.
-/

namespace TypeAtlas.Node

mutual

def unnumbered : Node → Node
  | primitive kind => primitive kind
  | nonPrimitive name => nonPrimitive name
  | unidentified => unidentified
  | literal value => literal value
  | bigintLiteral digits => bigintLiteral digits
  | member m => member (unnumberedMember m)
  | enumeration values comment => enumeration (unnumberedMembers values) comment
  | enumLiteral values isConst comment => enumLiteral (unnumberedMembers values) isConst comment
  | tuple types => tuple (unnumberedEach types)
  | union types => union (unnumberedEach types)
  | intersection types => intersection (unnumberedEach types)
  | indexedAccess key holder => indexedAccess (unnumberedPart key) (unnumberedPart holder)
  | prefixed operator value => prefixed operator (unnumbered value)
  | conditional check extended primary alternate =>
    conditional (unnumbered check) (unnumbered extended) (unnumbered primary) (unnumbered alternate)
  | substitution base => substitution (unnumbered base)
  | infer declared => infer (unnumbered declared)
  | typeParameter p => typeParameter (unnumberedTypeParameter p)
  | parameter p => parameter (unnumberedParameter p)
  | prop p => prop (unnumberedProperty p)
  | index keys optional value => index (unnumberedParameters keys) optional (unnumbered value)
  | function c => function (unnumberedCallable c)
  | construct c => construct (unnumberedCallable c)
  | mapped m => mapped (unnumberedMapped m)
  | interface s => interface (unnumberedShape s)
  | classShape s implemented => classShape (unnumberedShape s) (unnumberedEach implemented)
  | aliasOf types child comment => aliasOf (unnumberedTypeParameters types) (unnumbered child) comment
  | const value comment => const (unnumbered value) comment
  | defaultExport value comment => defaultExport (unnumbered value) comment
  | ref r => ref (unnumberedRef r)
  | imported name home scope => imported name home scope

def unnumberedEach : List Node → List Node
  | [] => []
  | node :: rest => unnumbered node :: unnumberedEach rest

def unnumberedPart : Option Node → Option Node
  | none => none
  | some node => some (unnumbered node)

def unnumberedRef : Ref Node → Ref Node
  | ⟨name, types, live⟩ => ⟨name, unnumberedEach types, live⟩

def unnumberedMember : Member Node → Member Node
  | ⟨name, value, comment⟩ => ⟨name, unnumbered value, comment⟩

def unnumberedMembers : List (Member Node) → List (Member Node)
  | [] => []
  | m :: rest => unnumberedMember m :: unnumberedMembers rest

def unnumberedTypeParameter : TypeParameter Node → TypeParameter Node
  | ⟨declared, constraint, default⟩ =>
    ⟨unnumberedRef declared, unnumberedPart constraint, unnumberedPart default⟩

def unnumberedTypeParameters : List (TypeParameter Node) → List (TypeParameter Node)
  | [] => []
  | p :: rest => unnumberedTypeParameter p :: unnumberedTypeParameters rest

def unnumberedParameter : Parameter Node → Parameter Node
  | ⟨name, modifiers, spread, optional, value⟩ =>
    ⟨name, modifiers, spread, optional, unnumbered value⟩

def unnumberedParameters : List (Parameter Node) → List (Parameter Node)
  | [] => []
  | p :: rest => unnumberedParameter p :: unnumberedParameters rest

def unnumberedProperty : Property Node → Property Node
  | ⟨name, modifiers, _, optional, comment, value⟩ =>
    ⟨name, modifiers, none, optional, comment, unnumbered value⟩

def unnumberedCallable : Callable Node → Callable Node
  | ⟨types, parameters, returns, comment⟩ =>
    ⟨unnumberedTypeParameters types, unnumberedParameters parameters, unnumbered returns, comment⟩

def unnumberedMapped : Mapped Node → Mapped Node
  | ⟨name, constraint, optional, value⟩ => ⟨name, unnumberedPart constraint, optional, unnumbered value⟩

def unnumberedMappedPart : Option (Mapped Node) → Option (Mapped Node)
  | none => none
  | some m => some (unnumberedMapped m)

def unnumberedShape : Shape Node → Shape Node
  | ⟨bases, props, types, range, comment⟩ =>
    ⟨unnumberedEach bases, unnumberedEach props, unnumberedTypeParameters types,
      unnumberedMappedPart range, comment⟩

end

theorem unnumberedEach_eq : unnumberedEach = List.map unnumbered :=
  funext (eq_map_of_cons rfl fun _ _ => rfl)

theorem unnumberedMembers_eq : unnumberedMembers = List.map unnumberedMember :=
  funext (eq_map_of_cons rfl fun _ _ => rfl)

theorem unnumberedTypeParameters_eq : unnumberedTypeParameters = List.map unnumberedTypeParameter :=
  funext (eq_map_of_cons rfl fun _ _ => rfl)

theorem unnumberedParameters_eq : unnumberedParameters = List.map unnumberedParameter :=
  funext (eq_map_of_cons rfl fun _ _ => rfl)

def Slot.unnumbered : Slot → Slot
  | one node => one node.unnumbered
  | many nodes => many (nodes.map Node.unnumbered)
  | slot => slot

@[simp] theorem Slot.unnumbered_text (value : String) : (text value).unnumbered = text value := rfl

@[simp] theorem Slot.unnumbered_flag (value : Bool) : (flag value).unnumbered = flag value := rfl

@[simp] theorem Slot.unnumbered_literal (value : Literal) :
    (literal value).unnumbered = literal value := rfl

@[simp] theorem Slot.unnumbered_one (node : Node) : (one node).unnumbered = one node.unnumbered := rfl

@[simp] theorem Slot.unnumbered_many (nodes : List Node) :
    (many nodes).unnumbered = many (nodes.map Node.unnumbered) := rfl

theorem kind_unnumbered (node : Node) : node.unnumbered.kind = node.kind := by
  cases node <;> rfl

@[simp] theorem textField_unnumbered (name : String) (value : Option String) :
    (textField name value).map (fun field => (field.1, field.2.unnumbered)) =
      textField name value := by
  cases value <;> rfl

@[simp] theorem nodeField_unnumbered (name : String) (value : Option Node) :
    (nodeField name value).map (fun field => (field.1, field.2.unnumbered)) =
      nodeField name (unnumberedPart value) := by
  cases value <;> rfl

@[simp] theorem mappedField_unnumbered (entry : Option (Mapped Node)) :
    (mappedField entry).map (fun field => (field.1, field.2.unnumbered)) =
      mappedField (unnumberedMappedPart entry) := by
  cases entry <;> rfl

attribute [local simp] fields typesField parametersField unnumbered unnumberedRef unnumberedMember
  unnumberedTypeParameter unnumberedParameter unnumberedProperty unnumberedCallable unnumberedMapped
  unnumberedShape unnumberedEach_eq unnumberedMembers_eq unnumberedTypeParameters_eq
  unnumberedParameters_eq Function.comp_def in
/-- Clearing the ids in a node that is no property clears them field by field. -/
theorem fields_unnumbered_of_other {node : Node} (other : node.kind ≠ "prop") :
    node.unnumbered.fields = node.fields.map fun field => (field.1, field.2.unnumbered) := by
  cases node
  case prop part => exact absurd rfl other
  case member part | typeParameter part | parameter part | function part | construct part |
      mapped part | interface part | classShape part implemented | ref part =>
    cases part
    simp
  all_goals simp

theorem eq_prop_of_kind {node : Node} (named : node.kind = "prop") : ∃ p, node = prop p := by
  cases node with
  | prop p => exact ⟨p, rfl⟩
  | primitive kind => exact absurd named (by cases kind <;> decide)
  | _ => simp [kind] at named

/-- Clearing the ids in a node takes the field for its own id from a property, and clears the ids in
all other fields. -/
theorem fields_unnumbered (node : Node) :
    node.unnumbered.fields =
      (node.fields.filter fun field => !(node.kind == "prop" && field.1 == "id")).map
        fun field => (field.1, field.2.unnumbered) := by
  by_cases other : node.kind = "prop"
  · obtain ⟨⟨name, modifiers, id, optional, comment, value⟩, rfl⟩ := eq_prop_of_kind other
    cases id <;> cases comment <;>
      simp [fields, unnumbered, unnumberedProperty, kind, numberField, textField]
  · rw [fields_unnumbered_of_other other, List.filter_eq_self.mpr fun field _ => by simp [other]]

end TypeAtlas.Node
