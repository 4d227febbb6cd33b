import TypeAtlas.Fault
import TypeAtlas.Program.Basic

/-!
Questions that a program answers from what was recorded about its places and symbols.
-/

namespace TypeAtlas.Program

def recordedType (p : Program) (query : String) (id : Option SiteId) :
    Except Fault (Option TypeId) :=
  match (p.siteAnswers id).type with
  | some type => .ok type
  | none => .error (.diagnostic (.unknownNode query (p.describeSite id)))

def typeAt (p : Program) (id : Option SiteId) : Except Fault (Option TypeId) :=
  p.recordedType "get_type_at_location" id

def typeWritten (p : Program) (id : Option SiteId) : Except Fault (Option TypeId) :=
  p.recordedType "get_type_from_type_node" id

def signatureOf (p : Program) (id : Option SiteId) : Except Fault (Option SignatureId) :=
  match (p.siteAnswers id).signature with
  | some signature => .ok signature
  | none =>
    .error (.diagnostic (.unknownNode "get_signature_from_declaration" (p.describeSite id)))

def declaredType (p : Program) (id : Option SymbolId) : Except Fault (Option TypeId) :=
  match (p.symbolAnswers id).declared with
  | some type => .ok type
  | none =>
    .error (.diagnostic (.queryFailed "get_declared_type_of_symbol"
      (p.describeSymbol id ++ " declares no type")))

def valueTypeAt (p : Program) (symbol : Option SymbolId) (place : Option SiteId) :
    Except Fault (Option TypeId) := do
  match (p.symbolAnswers symbol).value with
  | some type => pure type
  | none =>
    let annotation := (p.site (← present place)).type
    match annotation.bind fun id => (p.site id).answers.type with
    | some type => pure type
    | none =>
      throw (.diagnostic (.queryFailed "get_type_of_symbol_at_location"
        (p.describeSymbol symbol ++ " has no type at " ++ p.describeSite place)))

def indexOf (p : Program) (kind : IndexKind) (type : TypeId) : Option IndexId :=
  match kind with
  | .string => (p.type type).stringIndex
  | .number => (p.type type).numberIndex

def indexTypeOf (p : Program) (kind : IndexKind) (type : TypeId) : Option TypeId :=
  (p.indexOf kind type).bind fun index => (p.indexInfo index).type

end TypeAtlas.Program
