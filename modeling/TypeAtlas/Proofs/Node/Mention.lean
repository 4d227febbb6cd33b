import TypeAtlas.Node.Basic
import TypeAtlas.Node.Written

/-!
Shapes among the nodes, with the members that they list and the edges that leave them, and the names
that a node mentions: those of all references in it, field by field.
-/

namespace TypeAtlas.Node

def isShape : Node → Bool
  | interface _ | classShape _ _ => true
  | _ => false

def isPlain : Node → Bool
  | ref _ | interface _ | classShape _ _ => false
  | _ => true

theorem isShape_of_isPlain {node : Node} (plain : node.isPlain = true) : node.isShape = false := by
  cases node <;> first | rfl | cases plain

def outgoing : Node → List Node
  | interface shape => shape.bases
  | classShape shape implemented => shape.bases ++ implemented
  | _ => []

def members : Node → List Node
  | interface shape | classShape shape _ => shape.props
  | _ => []

def memberId? : Node → Option Int
  | prop property => property.id
  | _ => none

def isIndex : Node → Bool
  | index _ _ _ => true
  | _ => false

theorem isShape_of_mem_outgoing {node edge : Node} (member : edge ∈ node.outgoing) :
    node.isShape = true := by
  cases node <;> first | rfl | cases member

def ownRef : Node → List (Ref Node)
  | ref r => [r]
  | _ => []

theorem refs_eq (node : Node) : node.refs = node.ownRef ++ node.children.flatMap refs := by
  have below : node.children.attach.flatMap (fun child => refs child.1) =
      node.children.flatMap refs := by
    conv => rhs; rw [← List.attach_map_subtype_val node.children, List.flatMap_map]
  rw [refs.eq_def, below]
  cases node <;> rfl

def mentions (node : Node) : List String := node.refs.map (·.name)

def mentionsAll (nodes : List Node) : List String := nodes.flatMap mentions

@[simp] theorem mentionsAll_nil : mentionsAll [] = [] := rfl

@[simp] theorem mentionsAll_cons (node : Node) (rest : List Node) :
    mentionsAll (node :: rest) = node.mentions ++ mentionsAll rest := List.flatMap_cons

@[simp] theorem mentionsAll_append (first second : List Node) :
    mentionsAll (first ++ second) = mentionsAll first ++ mentionsAll second :=
  List.flatMap_append

theorem mentions_eq (node : Node) :
    node.mentions = node.ownRef.map (·.name) ++ mentionsAll node.children := by
  rw [mentions, refs_eq, List.map_append, List.map_flatMap, mentionsAll]
  rfl

@[simp] theorem mentions_ref (r : Ref Node) :
    (ref r).mentions = r.name :: mentionsAll r.types := by
  rw [mentions_eq]
  simp [ownRef, children, fields, Slot.nodes]

/-- A node that is no reference mentions what its fields mention. -/
theorem mentions_of_ownRef_eq_nil {node : Node} (nameless : node.ownRef = []) :
    node.mentions = mentionsAll node.children := by
  rw [mentions_eq, nameless, List.map_nil, List.nil_append]

section Kinds

@[simp] theorem mentions_primitive (kind : Primitive) : (primitive kind).mentions = [] :=
  mentions_of_ownRef_eq_nil rfl

@[simp] theorem mentions_nonPrimitive (name : Option String) : (nonPrimitive name).mentions = [] := by
  rw [mentions_of_ownRef_eq_nil rfl]
  simp [children, fields]

@[simp] theorem mentions_unidentified : unidentified.mentions = [] :=
  mentions_of_ownRef_eq_nil rfl

@[simp] theorem mentions_literal (value : Literal) : (literal value).mentions = [] :=
  mentions_of_ownRef_eq_nil rfl

@[simp] theorem mentions_bigintLiteral (digits : String) : (bigintLiteral digits).mentions = [] :=
  mentions_of_ownRef_eq_nil rfl

@[simp] theorem mentions_imported (name : String) (home : Option String) (scope : ImportScope) :
    (imported name home scope).mentions = [] := by
  rw [mentions_of_ownRef_eq_nil rfl]
  simp [children, fields, Slot.nodes]

@[simp] theorem mentions_member (m : Member Node) : (member m).mentions = m.value.mentions := by
  rw [mentions_of_ownRef_eq_nil rfl]
  simp [children, fields, Slot.nodes]

@[simp] theorem mentions_enumeration (values : List (Member Node)) (comment : Option String) :
    (enumeration values comment).mentions = mentionsAll (values.map member) := by
  rw [mentions_of_ownRef_eq_nil rfl]
  simp [children, fields, Slot.nodes]

@[simp] theorem mentions_enumLiteral (values : List (Member Node)) (isConst : Bool)
    (comment : Option String) :
    (enumLiteral values isConst comment).mentions = mentionsAll (values.map member) := by
  rw [mentions_of_ownRef_eq_nil rfl]
  simp [children, fields, Slot.nodes]

@[simp] theorem mentions_tuple (types : List Node) : (tuple types).mentions = mentionsAll types := by
  rw [mentions_of_ownRef_eq_nil rfl]
  simp [children, fields, Slot.nodes]

@[simp] theorem mentions_union (types : List Node) : (union types).mentions = mentionsAll types := by
  rw [mentions_of_ownRef_eq_nil rfl]
  simp [children, fields, Slot.nodes]

@[simp] theorem mentions_intersection (types : List Node) :
    (intersection types).mentions = mentionsAll types := by
  rw [mentions_of_ownRef_eq_nil rfl]
  simp [children, fields, Slot.nodes]

@[simp] theorem mentions_indexedAccess (key holder : Option Node) :
    (indexedAccess key holder).mentions = mentionsAll (key.toList ++ holder.toList) := by
  rw [mentions_of_ownRef_eq_nil rfl]
  simp [children, fields]

@[simp] theorem mentions_prefixed (operator : String) (value : Node) :
    (prefixed operator value).mentions = value.mentions := by
  rw [mentions_of_ownRef_eq_nil rfl]
  simp [children, fields, Slot.nodes]

@[simp] theorem mentions_conditional (check extended primary alternate : Node) :
    (conditional check extended primary alternate).mentions =
      mentionsAll [check, extended, primary, alternate] := by
  rw [mentions_of_ownRef_eq_nil rfl]
  simp [children, fields, Slot.nodes]

@[simp] theorem mentions_substitution (base : Node) :
    (substitution base).mentions = base.mentions := by
  rw [mentions_of_ownRef_eq_nil rfl]
  simp [children, fields, Slot.nodes]

@[simp] theorem mentions_infer (declared : Node) : (infer declared).mentions = declared.mentions := by
  rw [mentions_of_ownRef_eq_nil rfl]
  simp [children, fields, Slot.nodes]

@[simp] theorem mentions_typeParameter (p : TypeParameter Node) :
    (typeParameter p).mentions =
      (ref p.parameter).mentions ++ mentionsAll (p.constraint.toList ++ p.default.toList) := by
  rw [mentions_of_ownRef_eq_nil rfl]
  simp [children, fields, Slot.nodes]

@[simp] theorem mentions_parameter (p : Parameter Node) :
    (parameter p).mentions = p.value.mentions := by
  rw [mentions_of_ownRef_eq_nil rfl]
  simp [children, fields, Slot.nodes]

@[simp] theorem mentions_prop (p : Property Node) : (prop p).mentions = p.value.mentions := by
  rw [mentions_of_ownRef_eq_nil rfl]
  simp [children, fields, Slot.nodes]

@[simp] theorem mentions_index (parameters : List (Parameter Node)) (optional : Bool)
    (value : Node) :
    (index parameters optional value).mentions =
      mentionsAll (parameters.map parameter) ++ value.mentions := by
  rw [mentions_of_ownRef_eq_nil rfl]
  simp [children, fields, parametersField, Slot.nodes]

@[simp] theorem mentions_function (c : Callable Node) :
    (function c).mentions =
      mentionsAll (c.types.map typeParameter) ++ mentionsAll (c.parameters.map parameter) ++
        c.returns.mentions := by
  rw [mentions_of_ownRef_eq_nil rfl]
  simp [children, fields, typesField, parametersField, Slot.nodes]

@[simp] theorem mentions_construct (c : Callable Node) :
    (construct c).mentions = (function c).mentions := by
  rw [mentions_of_ownRef_eq_nil rfl]
  simp [children, fields, typesField, parametersField, Slot.nodes]

@[simp] theorem mentions_mapped (m : Mapped Node) :
    (mapped m).mentions = mentionsAll m.constraint.toList ++ m.value.mentions := by
  rw [mentions_of_ownRef_eq_nil rfl]
  simp [children, fields, Slot.nodes]

@[simp] theorem mentions_interface (s : Shape Node) :
    (interface s).mentions =
      mentionsAll s.bases ++ mentionsAll s.props ++ mentionsAll (s.types.map typeParameter) ++
        mentionsAll (s.mapped.map mapped).toList := by
  rw [mentions_of_ownRef_eq_nil rfl]
  simp [children, fields, typesField, mappedField, Slot.nodes]

@[simp] theorem mentions_classShape (s : Shape Node) (implemented : List Node) :
    (classShape s implemented).mentions =
      mentionsAll s.bases ++ mentionsAll implemented ++ mentionsAll s.props ++
        mentionsAll (s.types.map typeParameter) ++ mentionsAll (s.mapped.map mapped).toList := by
  rw [mentions_of_ownRef_eq_nil rfl]
  simp [children, fields, typesField, mappedField, Slot.nodes]

@[simp] theorem mentions_aliasOf (types : List (TypeParameter Node)) (child : Node)
    (comment : Option String) :
    (aliasOf types child comment).mentions =
      mentionsAll (types.map typeParameter) ++ child.mentions := by
  rw [mentions_of_ownRef_eq_nil rfl]
  simp [children, fields, typesField, Slot.nodes]

@[simp] theorem mentions_const (value : Node) (comment : Option String) :
    (const value comment).mentions = value.mentions := by
  rw [mentions_of_ownRef_eq_nil rfl]
  simp [children, fields, Slot.nodes]

@[simp] theorem mentions_defaultExport (value : Node) (comment : Option String) :
    (defaultExport value comment).mentions = value.mentions := by
  rw [mentions_of_ownRef_eq_nil rfl]
  simp [children, fields, Slot.nodes]

end Kinds

end TypeAtlas.Node
