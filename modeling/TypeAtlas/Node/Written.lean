import TypeAtlas.Node.Basic
import TypeAtlas.Text.Blank

/-!
Nodes as plain data, the references in a node, and one-line summaries.
-/

namespace TypeAtlas.Node

def Slot.write (slot : Slot) (node : (child : Node) → child ∈ slot.nodes → Data) : Data :=
  match slot with
  | .text value => .text value
  | .flag value => .bool value
  | .number value => .int value
  | .literal value => value.toData
  | .one child => node child (by simp [Slot.nodes])
  | .many children => .list (children.attach.map fun child => node child.1 child.2)

def toData (node : Node) : Data :=
  .map (("kind", .text node.kind) ::
    node.fields.attach.map fun field =>
      (field.1.1, field.1.2.write fun child below =>
        have := sizeOf_lt_of_mem_fields field.2 below
        toData child))
termination_by sizeOf node

def Slot.toData (slot : Slot) : Data := slot.write fun child _ => child.toData

theorem toData_eq (node : Node) :
    node.toData =
      .map (("kind", .text node.kind) :: node.fields.map fun field => (field.1, field.2.toData)) := by
  rw [Node.toData]
  simp only [Data.map.injEq, List.cons.injEq, true_and]
  conv => rhs; rw [← List.attach_map_subtype_val node.fields, List.map_map]
  rfl

def refs (node : Node) : List (Ref Node) :=
  let below := node.children.attach.flatMap fun child =>
    have := sizeOf_lt_of_mem_children child.2
    refs child.1
  match node with
  | .ref r => r :: below
  | _ => below
termination_by sizeOf node

def refNameOrKind : Node → String
  | ref r => r.name
  | node => node.kind

def shapeSummary (s : Shape Node) : String :=
  match s.mapped with
  | some m => "mapped over " ++ m.name
  | none =>
    let count := toString s.props.length ++ " members"
    match s.bases with
    | [] => count
    | bases => count ++ "; extends " ++ ", ".intercalate (bases.map refNameOrKind)

def summary : Node → String
  | interface s => shapeSummary s
  | classShape s _ => shapeSummary s
  | enumeration values _ => ", ".intercalate (values.map (·.name))
  | enumLiteral values _ _ => ", ".intercalate (values.map (·.name))
  | function c => "(" ++ ", ".intercalate (c.parameters.map (·.name)) ++ ")"
  | aliasOf _ child _ => "= " ++ child.kind
  | const value _ => value.refNameOrKind
  | defaultExport value _ => value.refNameOrKind
  | imported _ home scope => Text.trim Text.isSpace (scope.text ++ " " ++ home.getD "")
  | _ => ""

end TypeAtlas.Node
