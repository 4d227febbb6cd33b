import TypeAtlas.Data.Reading
import TypeAtlas.Node.Basic

/-!
Reading nodes back from plain data, with every violation and its place.
-/

namespace TypeAtlas.Node

open Read

abbrev Fields := Table String Data

def ofFields {α : Type} (model : String) (read : Fields → Checked α) : Data → Checked α
  | .map fields => read fields
  | input => .fail (.model model) input

def fixedKind (kind : String) (fields : Fields) : Checked Unit :=
  optional fields "kind" ()
    (oneOf (fun s => if s = kind then some () else none) ("'" ++ kind ++ "'"))

def readComment (fields : Fields) : Checked (Option String) :=
  optional fields "comment" none (nullable text)

def readLiteral : Data → Checked Literal
  | .bool value => .ok (.bool value)
  | .int value => .ok (.int value)
  | .float value => .ok (.float value)
  | .text value => .ok (.text value)
  | input =>
    .bad [{ rule := .bool, path := [.key "bool"], input }, { rule := .int, path := [.key "int"], input },
      { rule := .float, path := [.key "float"], input },
      { rule := .string, path := [.key "str"], input }]

section Parts

variable {α : Type} (node : Data → Checked α)

def readRef (fields : Fields) : Checked (Ref α) :=
  (fun name types => { name, types }) <$> required fields ⟨"refName", "ref_name"⟩ text <*>
    optional fields "types" [] (list node)

def readMember (fields : Fields) : Checked (Member α) :=
  (fun name value comment => { name, value, comment }) <$> required fields "name" text <*>
    required fields "value" node <*> readComment fields

def readTypeParameter (fields : Fields) : Checked (TypeParameter α) :=
  (fun parameter constraint default => { parameter, constraint, default }) <$>
    required fields "parameter"
      (ofFields "RefModel" fun ref => fixedKind "ref" ref *> readRef node ref) <*>
    optional fields "constraint" none (nullable node) <*>
    optional fields ⟨"default", "default_type"⟩ none (nullable node)

def readParameter (fields : Fields) : Checked (Parameter α) :=
  (fun name modifiers spread optional value => { name, modifiers, spread, optional, value }) <$>
    required fields "param" text <*> optional fields "modifiers" "" text <*>
    optional fields "spread" false bool <*> optional fields "optional" false bool <*>
    required fields "value" node

def readProperty (fields : Fields) : Checked (Property α) :=
  (fun name modifiers id optional comment value =>
      { name, modifiers, id, optional, comment, value }) <$>
    required fields "name" text <*> optional fields "modifiers" "" text <*>
    optional fields ⟨"id", "member_id"⟩ none (nullable int) <*>
    optional fields "optional" false bool <*> readComment fields <*>
    required fields ⟨"valueType", "value_type"⟩ node

def readMapped (fields : Fields) : Checked (Mapped α) :=
  (fun name constraint optional value => { name, constraint, optional, value }) <$>
    required fields "name" text <*> optional fields "constraint" none (nullable node) <*>
    optional fields "optional" false bool <*> required fields "value" node

def readNodes (fields : Fields) (name : String) : Checked (List α) :=
  optional fields name [] (list node)

def readTypeParameters (fields : Fields) : Checked (List (TypeParameter α)) :=
  optional fields "types" [] (list
    (ofFields "TypeParameterModel" fun part =>
      fixedKind "typeParameter" part *> readTypeParameter node part))

def readParameters (fields : Fields) : Checked (List (Parameter α)) :=
  optional fields "parameters" [] (list
    (ofFields "ParameterModel" fun part => fixedKind "parameter" part *> readParameter node part))

def readMembers (fields : Fields) : Checked (List (Member α)) :=
  optional fields "values" [] (list
    (ofFields "MemberModel" fun part => fixedKind "member" part *> readMember node part))

def readCallable (fields : Fields) : Checked (Callable α) :=
  (fun types parameters returns comment => { types, parameters, returns, comment }) <$>
    readTypeParameters node fields <*> readParameters node fields <*>
    required fields ⟨"returnType", "return_type"⟩ node <*> readComment fields

def readMappedField (fields : Fields) : Checked (Option (Mapped α)) :=
  optional fields "mapped" none (nullable
    (ofFields "MappedModel" fun part => fixedKind "mapped" part *> readMapped node part))

end Parts

/-- The fields of a node of the given kind; nothing when there is no such kind. -/
def readKind? (node : Data → Checked Node) (fields : Fields) (kind : String) :
    Option (Checked Node) :=
  let child (name : String) := required fields name node
  let nodes := readNodes node fields
  match Primitive.ofText? kind with
  | some known => some (.ok (.primitive known))
  | none =>
    match kind with
    | "nonPrimitive" => some (.nonPrimitive <$> optional fields "name" none (nullable text))
    | "unidentified" => some (.ok .unidentified)
    | "literal" => some (.literal <$> required fields "value" readLiteral)
    | "bigintLiteral" => some (.bigintLiteral <$> required fields "value" text)
    | "member" => some (.member <$> readMember node fields)
    | "enum" => some (.enumeration <$> readMembers node fields <*> readComment fields)
    | "enumLiteral" =>
      some (.enumLiteral <$> readMembers node fields <*>
        optional fields ⟨"const", "is_const"⟩ false bool <*> readComment fields)
    | "tuple" => some (.tuple <$> nodes "types")
    | "union" => some (.union <$> nodes "types")
    | "intersection" => some (.intersection <$> nodes "types")
    | "indexedAccess" =>
      some (.indexedAccess <$> optional fields "index" none (nullable node) <*>
        optional fields ⟨"object", "object_type"⟩ none (nullable node))
    | "prefix" => some (.prefixed <$> optional fields "prefix" "keyof" text <*> child "value")
    | "conditional" =>
      some (.conditional <$> child "check" <*> child "extends" <*> child "primary" <*>
        child "alternate")
    | "substitution" => some (.substitution <$> child "variable")
    | "infer" => some (.infer <$> child "parameter")
    | "typeParameter" => some (.typeParameter <$> readTypeParameter node fields)
    | "parameter" => some (.parameter <$> readParameter node fields)
    | "prop" => some (.prop <$> readProperty node fields)
    | "index" =>
      some (.index <$> readParameters node fields <*> optional fields "optional" false bool <*>
        required fields ⟨"valueType", "value_type"⟩ node)
    | "function" => some (.function <$> readCallable node fields)
    | "constructor" => some (.construct <$> readCallable node fields)
    | "mapped" => some (.mapped <$> readMapped node fields)
    | "interface" =>
      some ((fun bases props types mapped comment =>
          .interface { bases, props, types, mapped, comment }) <$>
        nodes "extends" <*> nodes "props" <*> readTypeParameters node fields <*>
        readMappedField node fields <*> readComment fields)
    | "class" =>
      some ((fun bases implemented props types mapped comment =>
          .classShape { bases, props, types, mapped, comment } implemented) <$>
        nodes "extends" <*> nodes "implements" <*> nodes "props" <*>
        readTypeParameters node fields <*> readMappedField node fields <*> readComment fields)
    | "alias" =>
      some (.aliasOf <$> readTypeParameters node fields <*> child "child" <*> readComment fields)
    | "const" => some (.const <$> child "value" <*> readComment fields)
    | "default" => some (.defaultExport <$> child "value" <*> readComment fields)
    | "ref" => some (.ref <$> readRef node fields)
    | "import" =>
      some (.imported <$> required fields "name" text <*>
        optional fields "module" none (nullable text) <*>
        required fields "scope" (oneOf ImportScope.ofText? "'lib', 'global' or 'module'"))
    | _ => none

def ofDataFrom : Nat → Data → Checked Node
  | 0, input => .fail .objectOrTagged input
  | fuel + 1, input =>
    match input with
    | .map fields =>
      match Table.get? fields "kind" with
      | none => .fail .tagAbsent input
      | some (.text kind) =>
        match readKind? (ofDataFrom fuel) fields kind with
        | some read => read.under (.key kind)
        | none => .fail .tagUnknown input
      | some _ => .fail .tagUnknown input
    | _ => .fail .objectOrTagged input

/-- Reads a node from plain data. Fields that no node has are ignored. -/
def ofData (input : Data) : Checked Node := ofDataFrom (input.depth + 1) input

end TypeAtlas.Node
