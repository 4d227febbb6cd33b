import TypeAtlas.Data.Merge

/-!
Forms of diagnostics: the ways to make one by name, each with the arguments that it needs. Arguments
are given in order or by name.
-/

namespace TypeAtlas.Diagnostic

/-- A way to make a diagnostic of one concern. An open one takes further arguments by name as its
details. -/
structure Form where
  name : String
  concern : Concern
  needs : List String
  isOpen : Bool := false

def forms : List Form :=
  [⟨"parse_error", .settings, ["path", "reason"], false⟩,
   ⟨"invalid_value", .settings, ["field", "value", "reason"], false⟩,
   ⟨"missing_required", .settings, ["field"], false⟩,
   ⟨"file_not_found", .settings, ["path"], false⟩,
   ⟨"missing_declaration", .extraction, ["name", "what"], false⟩,
   ⟨"missing_signature", .extraction, ["name"], false⟩,
   ⟨"dangling_refs", .extraction, ["names"], false⟩,
   ⟨"query_failed", .query, ["query", "reason"], false⟩,
   ⟨"unknown_node", .query, ["query", "node"], false⟩,
   ⟨"unexpected", .internal, ["reason"], true⟩]

/-- The arguments in the order of the form, and what else was given by name. Each argument is given
once. -/
def Form.bind (form : Form) (inOrder : List Data) (byName : Table String Data) :
    Except Fault (List Data × Table String Data) := do
  let positional := form.needs.take inOrder.length
  let further := byName.filter fun (name, _) => !form.needs.contains name
  if form.needs.length < inOrder.length || byName.any (fun (name, _) => positional.contains name) ||
      Table.has byName "cls" || !(form.isOpen || further.isEmpty) then throw .wrongKind
  let others ← (form.needs.drop inOrder.length).mapM fun name =>
    match Table.get? byName name with
    | some value => pure value
    | none => throw .wrongKind
  return (inOrder ++ others, further)

def listedNames : Data → Except Fault (List String)
  | .list items =>
    match items.mapM Data.asText? with
    | some names => .ok names
    | none => .error .wrongKind
  | .text s => .ok (s.toList.map fun c => String.ofList [c])
  | .map fields => .ok (Table.keys fields)
  | _ => .error .wrongKind

def make (concern : Concern) (name : String) (inOrder : List Data) (byName : Table String Data) :
    Except Fault Diagnostic := do
  match forms.find? fun form => form.name == name && form.concern == concern with
  | none => throw .absent
  | some form =>
    let (arguments, further) ← form.bind inOrder byName
    match name, arguments with
    | "parse_error", [path, reason] => return parseFailed path reason
    | "invalid_value", [field, value, reason] => return invalidValue field value reason
    | "missing_required", [field] => return missingRequired field
    | "file_not_found", [path] => return fileNotFound path
    | "missing_declaration", [name, what] => return missingDeclaration name what
    | "missing_signature", [name] => return missingSignature name
    | "dangling_refs", [names] =>
      return { danglingRefs (← listedNames names) with details := .map [("names", names)] }
    | "query_failed", [query, reason] => return queryFailed query reason
    | "unknown_node", [query, node] => return unknownNode query node
    | "unexpected", [reason] => return unexpected reason further
    | _, _ => throw .wrongKind

def codeOf (number : Data) : Except Fault ErrorCode :=
  match number.keyNumber?.bind ErrorCode.ofNumber? with
  | some code => .ok code
  | none => .error (.unsuitable (number.shown ++ " is not a valid ErrorCode"))

end TypeAtlas.Diagnostic
