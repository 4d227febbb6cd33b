import TypeAtlas.Script.Record

/-!
Programs described as plain data: a list of steps, each a call of the builder with references to
what earlier steps built.
-/

namespace TypeAtlas.Script

/-- A field of a step; a field that is not given is as good as none. -/
def given (step : Data) (name : String) : Data := (step.field? name).getD .null

def textOf (step : Data) (name : String) : String := ((step.field? name).bind Data.asText?).getD ""

def textOf? (step : Data) (name : String) : Option String := (step.field? name).bind Data.asText?

def truthOf (step : Data) (name : String) (fallback : Bool) : Bool :=
  ((step.field? name).map Data.holds).getD fallback

def header (step : Data) : Header :=
  { name := textOf step "name", doc := textOf? step "doc", fileName := textOf? step "file_name",
    exported := truthOf step "export" true }

section Specs

variable (refs : Refs)

def paramSpec (d : Data) : Run ParamSpec := do
  let type ← refs.type? (given d "type")
  pure { name := textOf d "name", type, optional := truthOf d "optional" false,
         spread := truthOf d "rest" false }

def paramSpecs (d : Data) : Run (List ParamSpec) := Refs.many (paramSpec refs) d

def memberSpec (d : Data) : Run MemberSpec := do
  match textOf? d "m" with
  | some "method" =>
    let typeParameters ← refs.types (given d "type_parameters")
    let parameters ← paramSpecs refs (given d "parameters")
    let returns ← refs.type? (given d "returns")
    return .method { parameters, returns, typeParameters, optional := truthOf d "optional" false,
                     doc := textOf? d "doc" }
  | some _ =>
    let type ← refs.type? (given d "type")
    return .prop { type, optional := truthOf d "optional" false,
                   modifiers := texts (given d "modifiers"), doc := textOf? d "doc" }
  | none => return .plain (← refs d).type?

def memberSpecs (d : Data) : Run (Table String MemberSpec) := do
  let specs ← (pairs d).mapM fun (name, spec) => do return (name, ← memberSpec refs spec)
  pure (Table.ofPairs specs)

def indexSpec (d : Data) : Run (Option IndexSpec) := do
  match d, d.field? "index" with
  | .null, _ => pure none
  | _, some ref =>
    let type ← refs.type? ref
    match d.field? "key_name" with
    | some name => return some { type, keyName := name.asText? }
    | none => return some { type }
  | _, none => return (← refs.type? d).map fun type => { type := some type }

def callSpec (step : Data) : Run Build.CallSpec := do
  let typeParameters ← refs.types (given step "type_parameters")
  let parameters ← paramSpecs refs (given step "parameters")
  let returns ← refs.type? (given step "returns")
  pure { parameters, returns, typeParameters }

def enumMembers (d : Data) : Table String (Option Literal) :=
  let named := (pairs d).map fun (name, value) => (name, literal? value)
  let counted := (texts d).zipIdx.map fun (name, i) => (name, some (Literal.int i))
  Table.ofPairs (named ++ counted)

def interfaceStep (step : Data) : Run TypeId := do
  let typeParameters ← refs.types (given step "type_parameters")
  let bases ← refs.types (given step "extends")
  let members ← memberSpecs refs (given step "members")
  let stringIndex ← indexSpec refs (given step "string_index")
  let numberIndex ← indexSpec refs (given step "number_index")
  let callSignatures ← refs.signatures (given step "call_signatures")
  let enclosing ← refs.symbol? (given step "namespace")
  .build (Build.interface
    { header := header step, members, bases, typeParameters, stringIndex, numberIndex,
      callSignatures, enclosing })

def classStep (step : Data) : Run TypeId := do
  let typeParameters ← refs.types (given step "type_parameters")
  let base ← refs.type? (given step "extends")
  let implemented ← refs.types (given step "implements")
  let members ← memberSpecs refs (given step "members")
  let statics ← memberSpecs refs (given step "statics")
  let constructors ← Refs.many (paramSpecs refs) (given step "constructors")
  .build (Build.classType
    { header := header step, members, base, implemented, statics, constructors, typeParameters })

def mappedStep (step : Data) : Run TypeId := do
  let constraint ← refs.type? (given step "constraint")
  let key := textOf step "key"
  let optional := truthOf step "optional" false
  match textOf? step "bind" with
  | some name =>
    let draft ← .build (Build.openMapped key constraint optional)
    Run.bindName name (.type draft.key)
    let value ← refs.type? (given step "value")
    .build (Build.closeMapped draft value)
  | none =>
    let value ← refs.type? (given step "value")
    .build (Build.mapped key constraint (fun _ => pure value) optional)

def defaultTarget (value : Value) : Run Build.DefaultTarget :=
  match value with
  | .symbol id => pure (.symbol id)
  | .type id => pure (.type (some id))
  | .nothing => pure (.type none)
  | _ => .fail .absent

/-- Tells the checker an answer. There are answers where there is no record, too. -/
def bindStep (step : Data) : Run Unit := do
  let key ← refs (given step "key")
  let value ← refs (given step "value")
  match textOf step "table" with
  | "node" =>
    let site ← key.asSite?
    .build (Build.bindSite site (← value.asType?))
  | "symbol" =>
    let symbol ← key.asSymbol?
    .build (Build.bindSymbol symbol (← value.asType?))
  | "declared" =>
    let symbol ← key.asSymbol?
    .build (Build.bindDeclared symbol (← value.asType?))
  | "signature" =>
    let site ← key.asSite?
    .build (Build.bindSignature site (← value.asSignature?))
  | _ => .fail .absent

/-- The value that a building step makes; nothing when there is no step of that name. -/
def buildStep (step : Data) (kind : String) : Run (Option Value) := do
  let type (made : Run TypeId) : Run (Option Value) := do return some (.type (← made))
  let symbol (made : Run SymbolId) : Run (Option Value) := do return some (.symbol (← made))
  let typeAt (name : String) := refs.type? (given step name)
  match kind with
  | "get" => some <$> refs (given step "ref")
  | "literal" =>
    match literal? (given step "value"), given step "value" with
    | none, .null => type (.build (Build.literal none))
    | none, _ => .fail .wrongKind
    | value, _ => type (.build (Build.literal value))
  | "bigint_literal" => type (.build (Build.bigintLiteral (textOf? step "value")))
  | "union" =>
    let types ← refs.types (given step "types")
    type (.build (Build.union types))
  | "intersection" =>
    let types ← refs.types (given step "types")
    type (.build (Build.intersection types))
  | "tuple" =>
    let types ← refs.types (given step "types")
    type (.build (Build.tuple types))
  | "keyof" =>
    let operand ← typeAt "type"
    type (.build (Build.keyof operand))
  | "substitution" =>
    let base ← typeAt "type"
    type (.build (Build.substitution base))
  | "indexed_access" =>
    let object ← typeAt "object"
    let index ← typeAt "index"
    type (.build (Build.indexedAccess object index))
  | "conditional" =>
    let check ← typeAt "check"
    let extended ← typeAt "extends"
    let primary ← typeAt "true"
    let alternate ← typeAt "false"
    type (.build (Build.conditional check extended primary alternate))
  | "type_parameter" =>
    let constraint ← typeAt "constraint"
    let default ← typeAt "default"
    type (.build (Build.typeParameter (textOf step "name") constraint default))
  | "infer" => type (.build (Build.infer (textOf step "name")))
  | "instantiate" =>
    let generic ← refs.type? (given step "generic")
    let arguments ← refs.types (given step "args")
    type (.build (Build.instantiate generic arguments))
  | "instantiate_alias" =>
    let aliased ← refs.type? (given step "alias")
    let arguments ← refs.types (given step "args")
    type (.build (Build.instantiateAlias aliased arguments))
  | "interface" => type (interfaceStep refs step)
  | "class" => type (classStep refs step)
  | "class_" => type (classStep refs step)
  | "add_members" =>
    let target ← refs.type? (given step "type")
    let members ← memberSpecs refs (given step "members")
    type (.build (Build.addMembers target members))
  | "alias" =>
    let typeParameters ← refs.types (given step "type_parameters")
    let target ← refs.type? (given step "type")
    type (.build (Build.aliasType (header step) target typeParameters))
  | "enum" =>
    let docs := (pairs (given step "member_docs")).filterMap fun (name, doc) =>
      doc.asText?.map fun text => (name, text)
    type (.build (Build.enumeration
      { header := header step, members := enumMembers (given step "members"),
        isConst := truthOf step "const" false, literal := truthOf step "literal" true,
        memberDocs := Table.ofPairs docs }))
  | "function" =>
    let spec ← callSpec refs step
    symbol (.build (Build.function (header step) spec))
  | "function_type" =>
    let spec ← callSpec refs step
    type (.build (Build.functionType spec))
  | "signature" =>
    let spec ← callSpec refs step
    return some (.signature (← .build (Build.callSignature spec)))
  | "constructor_type" =>
    let parameters ← paramSpecs refs (given step "parameters")
    let returns ← typeAt "returns"
    let parent ← refs.site? (given step "parent")
    type (.build (Build.constructorType parameters returns parent (textOf? step "file_name")))
  | "object_literal" =>
    let members ← memberSpecs refs (given step "members")
    let stringIndex ← indexSpec refs (given step "string_index")
    let numberIndex ← indexSpec refs (given step "number_index")
    let callSignatures ← refs.signatures (given step "call_signatures")
    type (.build (Build.objectLiteral members callSignatures stringIndex numberIndex))
  | "mapped" => type (mappedStep refs step)
  | "variable" =>
    let annotation ← typeAt "type"
    let initializer ← typeAt "initializer"
    symbol (.build (Build.variableOf (header step) annotation initializer))
  | "namespace" =>
    symbol (.build (Build.namespaceOf (textOf step "name") (textOf? step "file_name")))
  | "export" =>
    let exported ← refs.symbol? (given step "symbol")
    .build (Build.addExport exported)
    return some .nothing
  | "default_export" =>
    let target ← defaultTarget (← refs (given step "target"))
    symbol (.build (Build.defaultExport target (textOf? step "doc")))
  | "default_function" =>
    let spec ← callSpec refs step
    symbol (.build (Build.defaultFunction spec (textOf? step "doc")))
  | "type_node" =>
    let target ← refs.type? (given step "type")
    let parent ← refs.site? (given step "parent")
    return some (.site (← .build (Build.writtenType target parent)))
  | "set" =>
    let target ← refs (given step "target")
    assign refs target (textOf step "field") (given step "value")
    return some target
  | "bind" =>
    bindStep refs step
    return some .nothing
  | _ => newRecord refs kind (((step.field? "fields").bind Data.asMap?).getD [])

end Specs

/-- Runs one step, with steps nested in it to the given depth. A step that succeeds gives its value
the name it asks for. -/
def stepFrom : Nat → Data → Run Value
  | 0, _ => .fail .tooDeep
  | fuel + 1, step => do
    let refs : Refs := fun d =>
      match d with
      | .text path => Run.path path
      | .null => pure .nothing
      | nested => stepFrom fuel nested
    let kind := textOf step "do"
    match ← buildStep refs step kind with
    | some value =>
      if let some name := textOf? step "as" then Run.bindName name value
      pure value
    | none => throw (.unknownStep kind)

def step (description : Data) : Run Value := stepFrom (description.depth + 1) description

def ref (description : Data) : Run Value :=
  match description with
  | .text path => Run.path path
  | .null => pure .nothing
  | nested => step nested

def build (fileName : String) (steps : List Data) (lastId : Nat := 0) : Program :=
  (steps.foldl (fun session description => (step description session).2)
    (Session.start fileName lastId)).program

end TypeAtlas.Script
