import TypeAtlas.Script.Session

/-!
Single fields of records written by hand: how each is read and what it changes.
-/

namespace TypeAtlas.Script

abbrev Refs := Data → Run Value

namespace Refs

variable (refs : Refs)

def type? (d : Data) : Run (Option TypeId) := do (← refs d).asType?

def symbol? (d : Data) : Run (Option SymbolId) := do (← refs d).asSymbol?

def site? (d : Data) : Run (Option SiteId) := do (← refs d).asSite?

def signature? (d : Data) : Run (Option SignatureId) := do (← refs d).asSignature?

def index? (d : Data) : Run (Option IndexId) := do (← refs d).asIndex?

def many {α : Type} (read : Data → Run α) (d : Data) : Run (List α) := (d.asList?.getD []).mapM read

def handles {α : Type} (handle? : Value → Option α) (d : Data) : Run (List (Option α)) :=
  many (fun item => do return handle? (← refs item)) d

def slots {α : Type} (handle? : Value → Option α) : Data → Run (Slots α)
  | .null => pure none
  | d => some <$> refs.handles handle? d

def types (d : Data) : Run (List (Option TypeId)) := refs.handles Value.type? d

def signatures (d : Data) : Run (List (Option SignatureId)) := refs.handles Value.signature? d

end Refs

def texts (d : Data) : List String := (d.asList?.getD []).filterMap Data.asText?

def textSlots : Data → Slots String
  | .null => none
  | d => some ((d.asList?.getD []).map Data.asText?)

def literal? : Data → Option Literal
  | .bool value => some (.bool value)
  | .int value => some (.int value)
  | .float value => some (.float value)
  | .text value => some (.text value)
  | _ => none

/-- The flags with the given names; the name for no flags at all may be among them. -/
def flagsNamed {α : Type} (all : List α) (name : α → String) (d : Data) :
    Except Fault (List α) := do
  let some items := d.asList? | throw .wrongKind
  let known (item : Data) : Bool :=
    item.asText?.any fun s => s == "NONE" || all.any (name · == s)
  if items.all known then return all.filter ((texts d).contains <| name ·)
  else throw .noEntry

def typeFlags (d : Data) : Except Fault TypeFlags := flagsNamed TypeFlag.all TypeFlag.name d

def objectFlags (d : Data) : Except Fault ObjectFlags := flagsNamed ObjectFlag.all ObjectFlag.name d

def symbolFlags (d : Data) : Except Fault SymbolFlags := flagsNamed SymbolFlag.all SymbolFlag.name d

def member {α : Type} (ofText? : String → Option α) (kind : String) (d : Data) : Except Fault α :=
  match d.asText?.bind ofText? with
  | some value => .ok value
  | none => .error (.unsuitable (d.shown ++ " is not a valid " ++ kind))

def siteKind (d : Data) : Except Fault SiteKind := member SiteKind.ofText? "NodeKind" d

def heritageToken (d : Data) : Except Fault HeritageToken :=
  member HeritageToken.ofText? "HeritageToken" d

def pairs (d : Data) : List (String × Data) :=
  (d.asList?.getD []).filterMap fun item =>
    match item with
    | .list [.text name, value] => some (name, value)
    | _ => none

section Fields

variable (refs : Refs)

def heritageClause (d : Data) : Run HeritageClause := do
  let token ← Run.ofExcept (heritageToken ((d.field? "token").getD .null))
  let types ← refs.handles Value.site? ((d.field? "types").getD .null)
  pure { token, types }

/-- What giving a value to a field does to a place. A field that records do not have changes
nothing. -/
def siteField (name : String) (d : Data) : Run (Site → Site) := do
  match name with
  | "kind" => let v ← Run.ofExcept (siteKind d); return ({ · with kind := v })
  | "name" => return ({ · with name := d.asText? })
  | "symbol" => let v ← refs.symbol? d; return ({ · with symbol := v })
  | "parent" => let v ← refs.site? d; return ({ · with parent := v })
  | "file_name" => return ({ · with fileName := d.asText? })
  | "type" => let v ← refs.site? d; return ({ · with type := v })
  | "types" => let v ← refs.slots Value.site? d; return ({ · with types := v })
  | "type_parameters" => let v ← refs.slots Value.site? d; return ({ · with typeParameters := v })
  | "type_parameter" => let v ← refs.site? d; return ({ · with typeParameter := v })
  | "parameters" => let v ← refs.slots Value.site? d; return ({ · with parameters := v })
  | "constraint" => let v ← refs.site? d; return ({ · with constraint := v })
  | "default" => let v ← refs.site? d; return ({ · with default := v })
  | "initializer" => let v ← refs.site? d; return ({ · with initializer := v })
  | "expression" => let v ← refs.site? d; return ({ · with expression := v })
  | "heritage_clauses" =>
    let some items := d.asList? | Run.fail .wrongKind
    let v ← items.mapM (heritageClause refs)
    return ({ · with heritage := v })
  | "dot_dot_dot" => return ({ · with spread := d.asBool? })
  | "question" => return ({ · with optional := d.asBool? })
  | "modifiers" => return ({ · with modifiers := textSlots d })
  | _ => return id

def symbolField (name : String) (d : Data) : Run (Symbol → Symbol) := do
  match name with
  | "name" => return ({ · with name := d.asText?.getD "" })
  | "flags" => let v ← Run.ofExcept (symbolFlags d); return ({ · with flags := v })
  | "id" => return ({ · with id := d.asInt?.getD 0 })
  | "declarations" => let v ← refs.slots Value.site? d; return ({ · with declarations := v })
  | "value_declaration" => let v ← refs.site? d; return ({ · with valueDeclaration := v })
  | "documentation" => return ({ · with documentation := textSlots d })
  | "target" => let v ← refs.symbol? d; return ({ · with target := v })
  | "members" =>
    if d.asList?.isNone then Run.fail .wrongKind
    let v ← (pairs d).mapM fun (key, ref) => do return (key, (← refs ref).symbol?)
    return ({ · with members := Table.ofPairs v })
  | "exports" => let v ← refs.slots Value.symbol? d; return ({ · with exports := v })
  | "parent" => let v ← refs.symbol? d; return ({ · with parent := v })
  | _ => return id

def typeField (name : String) (d : Data) : Run (TypeInfo → TypeInfo) := do
  let types := refs.slots Value.type?
  match name with
  | "flags" => let v ← Run.ofExcept (typeFlags d); return ({ · with flags := v })
  | "id" => return ({ · with id := d.asInt?.getD 0 })
  | "object_flags" => let v ← Run.ofExcept (objectFlags d); return ({ · with objectFlags := v })
  | "symbol" => let v ← refs.symbol? d; return ({ · with symbol := v })
  | "alias_symbol" => let v ← refs.symbol? d; return ({ · with alias? := v })
  | "alias_type_arguments" => let v ← types d; return ({ · with aliasArguments := v })
  | "target" => let v ← refs.type? d; return ({ · with target := v })
  | "type_arguments" => let v ← types d; return ({ · with arguments := v })
  | "type_parameters" => let v ← types d; return ({ · with typeParameters := v })
  | "types" => let v ← types d; return ({ · with types := v })
  | "value" => return ({ · with value := literal? d })
  | "intrinsic_name" => return ({ · with intrinsicName := d.asText? })
  | "properties" => let v ← refs.slots Value.symbol? d; return ({ · with properties := v })
  | "call_signatures" =>
    let v ← refs.slots Value.signature? d
    return ({ · with callSignatures := v })
  | "construct_signatures" =>
    let v ← refs.slots Value.signature? d
    return ({ · with constructSignatures := v })
  | "string_index_info" => let v ← refs.index? d; return ({ · with stringIndex := v })
  | "number_index_info" => let v ← refs.index? d; return ({ · with numberIndex := v })
  | "constraint" => let v ← refs.type? d; return ({ · with constraint := v })
  | "check_type" => let v ← refs.type? d; return ({ · with checkType := v })
  | "extends_type" => let v ← refs.type? d; return ({ · with extendsType := v })
  | "true_type" => let v ← refs.type? d; return ({ · with trueType := v })
  | "false_type" => let v ← refs.type? d; return ({ · with falseType := v })
  | "base_type" => let v ← refs.type? d; return ({ · with baseType := v })
  | "operand" => let v ← refs.type? d; return ({ · with operand := v })
  | "object_type" => let v ← refs.type? d; return ({ · with objectType := v })
  | "index_type" => let v ← refs.type? d; return ({ · with indexType := v })
  | "type_parameter" => let v ← refs.type? d; return ({ · with typeParameter := v })
  | _ => return id

def signatureField (name : String) (d : Data) : Run (Signature → Signature) := do
  match name with
  | "declaration" => let v ← refs.site? d; return ({ · with declaration := v })
  | "type_parameters" => let v ← refs.slots Value.type? d; return ({ · with typeParameters := v })
  | "parameters" => let v ← refs.slots Value.symbol? d; return ({ · with parameters := v })
  | "return_type" => let v ← refs.type? d; return ({ · with returns := v })
  | _ => return id

def indexField (name : String) (d : Data) : Run (IndexInfo → IndexInfo) := do
  match name with
  | "key_type" => let v ← refs.type? d; return ({ · with keyType := v })
  | "type" => let v ← refs.type? d; return ({ · with type := v })
  | "declaration" => let v ← refs.site? d; return ({ · with declaration := v })
  | _ => return id

/-- A record from the given fields, read in the order in which records list them. Some fields have
to be given. -/
def record {α : Type} (empty : α) (order : List (String × Value)) (required : List String)
    (field : String → Data → Run (α → α)) (given : Table String Data) : Run α := do
  let made ← order.foldlM
    (fun made (name, _) => do
      match Table.get? given name with
      | some d => return (← field name d) made
      | none => pure made)
    empty
  if required.all (Table.has given) then pure made else .fail .wrongKind

/-- A new record. One that is given its number does not take the next one. -/
def newRecord (kind : String) (given : Table String Data) : Run (Option Value) := do
  let numbered := Table.has given "id"
  match kind with
  | "new_node" =>
    let made ← record { kind := .typeNode } (Value.ofSiteRecord default) ["kind"] (siteField refs)
      given
    return some (.site (← .build (Build.newSite made)))
  | "new_symbol" =>
    let made ← record { name := "" } (Value.ofSymbolRecord default) ["name"] (symbolField refs) given
    let add := if numbered then Program.addNumberedSymbol else Program.addSymbol
    return some (.symbol (← .build (modifyGet (add · made))))
  | "new_type" =>
    let made ← record { flags := [] } (Value.ofTypeRecord default) ["flags"] (typeField refs) given
    let add := if numbered then Program.addNumberedType else Program.addType
    return some (.type (← .build (modifyGet (add · made))))
  | "new_signature" =>
    let made ← record { returns := none } (Value.ofSignatureRecord default) ["return_type"]
      (signatureField refs) given
    return some (.signature (← .build (Build.newSignature made)))
  | "new_index_info" =>
    let made ← record { keyType := none, type := none } (Value.ofIndexRecord default)
      ["key_type", "type"] (indexField refs) given
    return some (.index (← .build (Build.newIndexInfo made)))
  | _ => pure none

def assign (target : Value) (name : String) (d : Data) : Run Unit := do
  match target with
  | .site id => let f ← siteField refs name d; .build (modify (·.modifySite id f))
  | .symbol id => let f ← symbolField refs name d; .build (modify (·.modifySymbol id f))
  | .type id => let f ← typeField refs name d; .build (modify (·.modifyType id f))
  | .signature id => let f ← signatureField refs name d; .build (modify (·.modifySignature id f))
  | .index id => let f ← indexField refs name d; .build (modify (·.modifyIndexInfo id f))
  | _ => .fail .absent

end Fields

end TypeAtlas.Script
