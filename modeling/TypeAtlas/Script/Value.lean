import TypeAtlas.Program.Builder.Export

/-!
Values that a described program is made of: handles of records, lists and tables of them, and plain
data. The fields of a record are reached by name.
-/

namespace TypeAtlas.Script

inductive Value where
  | nothing
  | site (id : SiteId)
  | symbol (id : SymbolId)
  | type (id : TypeId)
  | signature (id : SignatureId)
  | index (id : IndexId)
  | clause (clause : HeritageClause)
  | list (items : List Value)
  | table (fields : List (String × Value))
  | plain (data : Data)
deriving Inhabited

namespace Value

def site? : Value → Option SiteId
  | site id => some id
  | _ => none

def symbol? : Value → Option SymbolId
  | symbol id => some id
  | _ => none

def type? : Value → Option TypeId
  | type id => some id
  | _ => none

def signature? : Value → Option SignatureId
  | signature id => some id
  | _ => none

def ofOption {α : Type} (wrap : α → Value) : Option α → Value
  | some value => wrap value
  | none => nothing

def ofList {α : Type} (wrap : α → Value) (items : List α) : Value := list (items.map wrap)

def ofText (value : Option String) : Value := ofOption (fun s => plain (.text s)) value

def ofSite (id : Option SiteId) : Value := ofOption site id

def ofSymbol (id : Option SymbolId) : Value := ofOption symbol id

def ofType (id : Option TypeId) : Value := ofOption type id

/-- A list of a record. A list that is unset is nothing, and so is a missing item. -/
def ofSlots {α : Type} (wrap : α → Value) (s : Slots α) : Value :=
  ofOption (fun items => list (items.map (ofOption wrap))) s

def ofBool (b : Option Bool) : Value := ofOption (fun b => plain (.bool b)) b

def ofInt (n : Int) : Value := plain (.int n)

def ofTexts (items : Slots String) : Value := ofSlots (fun s => plain (.text s)) items

def ofSiteRecord (s : Site) : List (String × Value) :=
  [("kind", ofText (some s.kind.text)), ("name", ofText s.name), ("symbol", ofSymbol s.symbol),
   ("parent", ofSite s.parent), ("file_name", ofText s.fileName), ("type", ofSite s.type),
   ("types", ofSlots site s.types), ("type_parameters", ofSlots site s.typeParameters),
   ("type_parameter", ofSite s.typeParameter), ("parameters", ofSlots site s.parameters),
   ("constraint", ofSite s.constraint), ("default", ofSite s.default),
   ("initializer", ofSite s.initializer), ("expression", ofSite s.expression),
   ("heritage_clauses", ofList clause s.heritage), ("dot_dot_dot", ofBool s.spread),
   ("question", ofBool s.optional), ("modifiers", ofTexts s.modifiers)]

def ofSymbolRecord (s : Symbol) : List (String × Value) :=
  [("name", ofText (some s.name)), ("flags", ofInt s.flags.value), ("id", ofInt s.id),
   ("declarations", ofSlots site s.declarations),
   ("value_declaration", ofSite s.valueDeclaration),
   ("documentation", ofTexts s.documentation), ("target", ofSymbol s.target),
   ("members", table (s.members.map fun (name, id) => (name, ofSymbol id))),
   ("exports", ofSlots symbol s.exports), ("parent", ofSymbol s.parent)]

def ofSignatureRecord (s : Signature) : List (String × Value) :=
  [("declaration", ofSite s.declaration), ("type_parameters", ofSlots type s.typeParameters),
   ("parameters", ofSlots symbol s.parameters), ("return_type", ofType s.returns)]

def ofIndexRecord (i : IndexInfo) : List (String × Value) :=
  [("key_type", ofType i.keyType), ("type", ofType i.type), ("declaration", ofSite i.declaration)]

def ofClause (c : HeritageClause) : List (String × Value) :=
  [("token", ofText (some c.token.text)), ("types", ofSlots site (some c.types))]

def ofTypeRecord (t : TypeInfo) : List (String × Value) :=
  [("flags", ofInt t.flags.value), ("id", ofInt t.id), ("object_flags", ofInt t.objectFlags.value),
   ("symbol", ofSymbol t.symbol), ("alias_symbol", ofSymbol t.alias?),
   ("alias_type_arguments", ofSlots type t.aliasArguments), ("target", ofType t.target),
   ("type_arguments", ofSlots type t.arguments),
   ("type_parameters", ofSlots type t.typeParameters), ("types", ofSlots type t.types),
   ("value", ofOption (fun v => plain (Literal.toData v)) t.value),
   ("intrinsic_name", ofText t.intrinsicName), ("properties", ofSlots symbol t.properties),
   ("call_signatures", ofSlots signature t.callSignatures),
   ("construct_signatures", ofSlots signature t.constructSignatures),
   ("string_index_info", ofOption index t.stringIndex),
   ("number_index_info", ofOption index t.numberIndex), ("constraint", ofType t.constraint),
   ("check_type", ofType t.checkType), ("extends_type", ofType t.extendsType),
   ("true_type", ofType t.trueType), ("false_type", ofType t.falseType),
   ("base_type", ofType t.baseType), ("operand", ofType t.operand),
   ("object_type", ofType t.objectType), ("index_type", ofType t.indexType),
   ("type_parameter", ofType t.typeParameter)]

/-- The fields of a record, in order; nothing for what is no record. -/
def fields? (p : Program) : Value → Option (List (String × Value))
  | site id => some (ofSiteRecord (p.site id))
  | symbol id => some (ofSymbolRecord (p.symbol id))
  | type id => some (ofTypeRecord (p.type id))
  | signature id => some (ofSignatureRecord (p.signature id))
  | index id => some (ofIndexRecord (p.indexInfo id))
  | clause c => some (ofClause c)
  | _ => none

def step (p : Program) (value : Value) (segment : String) : Except Fault Value :=
  match value with
  | list items =>
    match segment.toNat? with
    | some place =>
      match items[place]? with
      | some item => .ok item
      | none => .error .emptyList
    | none => .error .absent
  | table fields =>
    match Table.get? fields segment with
    | some entry => .ok entry
    | none => .error .noEntry
  | record =>
    match (record.fields? p).bind fun fields => Table.get? fields segment with
    | some entry => .ok entry
    | none => .error .absent

/-- A value as plain data: records that have a number or a name by their one-line description, the
others by their fields. -/
def showFrom (p : Program) : Nat → Value → Data
  | 0, _ => .null
  | fuel + 1, value =>
    let fields (items : List (String × Value)) : Data :=
      .map (items.map fun (name, entry) => (name, showFrom p fuel entry))
    match value with
    | nothing => .null
    | site id => .text (p.describeSite id)
    | symbol id => .text (p.describeSymbol id)
    | type id => .text (p.describeType id)
    | signature id => fields (ofSignatureRecord (p.signature id))
    | index id => fields (ofIndexRecord (p.indexInfo id))
    | clause c => fields (ofClause c)
    | list items => .list (items.map (showFrom p fuel))
    | table entries => fields entries
    | plain data => data

def display (p : Program) (value : Value) : Data := showFrom p 6 value

def inspect (p : Program) (value : Value) : Except Fault Data :=
  match value.fields? p with
  | some fields => .ok (.map (fields.map fun (name, entry) => (name, entry.display p)))
  | none => .error .wrongKind

end Value

end TypeAtlas.Script
