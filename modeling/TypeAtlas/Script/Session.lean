import TypeAtlas.Script.Value

/-!
A session of building a program step by step, with names for what was built.
-/

namespace TypeAtlas.Script

/-- A step fails as the library does, or because the description itself makes no sense. -/
inductive Problem where
  | fault (fault : Fault)
  | unknownStep (name : String)
  | unknownName (name : String)
deriving Inhabited

structure Session where
  program : Program
  names : Table String Value
deriving Inhabited

abbrev Run := ExceptT Problem (StateM Session)

def intrinsicNames : Table String Value :=
  [("any", .type Program.anyType), ("unknown", .type Program.unknownType),
   ("string", .type Program.stringType), ("number", .type Program.numberType),
   ("bigint", .type Program.bigintType), ("es_symbol", .type Program.esSymbolType),
   ("unique_es_symbol", .type Program.uniqueEsSymbolType), ("void", .type Program.voidType),
   ("undefined", .type Program.undefinedType), ("null", .type Program.nullType),
   ("never", .type Program.neverType), ("non_primitive", .type Program.nonPrimitiveType),
   ("boolean", .type Program.booleanType), ("true", .type Program.trueType),
   ("false", .type Program.falseType)]

def Session.start (fileName : String) (lastId : Nat := 0) : Session :=
  let program := Program.start fileName lastId
  { program, names := intrinsicNames ++ [("module", .symbol program.moduleSymbol)] }

namespace Run

def fail {α : Type} (fault : Fault) : Run α := throw (.fault fault)

def ofExcept {α : Type} : Except Fault α → Run α
  | .ok value => pure value
  | .error fault => throw (.fault fault)

def build {α : Type} (step : Build α) : Run α :=
  fun session =>
    match step session.program with
    | (.ok value, program) => (.ok value, { session with program })
    | (.error fault, program) => (.error (.fault fault), { session with program })

def bindName (name : String) (value : Value) : Run Unit :=
  modify fun session => { session with names := Table.put session.names name value }

def lookup (name : String) : Run Value := do
  match Table.get? (← get).names name with
  | some value => pure value
  | none => throw (.unknownName name)

def path (text : String) : Run Value := do
  match text.splitOn "." with
  | [] => throw (.unknownName text)
  | name :: segments =>
    let value ← lookup name
    let p := (← get).program
    ofExcept (segments.foldlM (Value.step p) value)

end Run

namespace Value

def asType? : Value → Run (Option TypeId)
  | .type id => pure (some id)
  | .nothing => pure none
  | _ => .fail .absent

def asSymbol? : Value → Run (Option SymbolId)
  | .symbol id => pure (some id)
  | .nothing => pure none
  | _ => .fail .absent

def asSite? : Value → Run (Option SiteId)
  | .site id => pure (some id)
  | .nothing => pure none
  | _ => .fail .absent

def asSignature? : Value → Run (Option SignatureId)
  | .signature id => pure (some id)
  | .nothing => pure none
  | _ => .fail .absent

def asIndex? : Value → Run (Option IndexId)
  | .index id => pure (some id)
  | .nothing => pure none
  | _ => .fail .absent

end Value

def need {α : Type} (handle : Run (Option α)) : Run α := do
  match ← handle with
  | some value => pure value
  | none => .fail .absent

end TypeAtlas.Script
