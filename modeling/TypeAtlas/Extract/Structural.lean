import TypeAtlas.Extract.Reference

/-!
Structural types: tuples, instantiations, unions, intersections, indexed access, and type parameters
with their bounds and defaults.
-/

namespace TypeAtlas.Engine

variable (e : Engine)

def keyofNode (operand : Option TypeId) : Extract Node := do
  return .prefixed "keyof" (← e.visitPresent operand)

def unionNode (types : List (Option TypeId)) : Extract Node := do
  return .union (← e.visitAll types)

def includeIndex (type : Option TypeId) : Extract (Option Node) := do
  match type with
  | none => pure none
  | some id =>
    match (e.program.type id).keyofOperand? with
    | some operand => some <$> e.keyofNode operand
    | none => some <$> e.visit id

/-- An instantiation without a usable name, such as the body of an alias. The reference keeps the
live type, so that inherited members can be looked up on it. -/
def includeReference (type : TypeId) : Extract Node := do
  match ← e.includeExternal type with
  | some node => pure node
  | none =>
    let symbol ← present (e.program.type type).symbol
    let name := (e.program.symbol symbol).name
    e.ensureNamed type name
    e.includeRef type name (some type)

def includeCombinator (type : TypeId) : Extract (Option Node) := do
  let info := e.program.type type
  if e.program.isTuple info then
    return some (.tuple (← e.visitAll info.arguments.slots))
  else if info.isReference && info.symbol.isSome then
    some <$> e.includeReference type
  else if info.isUnion then
    some <$> e.unionNode (← info.types.each)
  else if info.isIntersection then
    return some (.intersection (← e.visitAll (← info.types.each)))
  else if info.isIndexedAccess then
    let index ← e.includeIndex info.indexType
    let object ← match info.objectType with
      | some object => some <$> e.visit object
      | none => pure none
    return some (.indexedAccess index object)
  else pure none

def includeWritten (site : Option SiteId) : Extract (Option Node) := do
  let p := e.program
  match site with
  | none => pure none
  | some id =>
    if p.isKeyofSite site then
      let operand ← p.typeWritten (p.site id).type
      some <$> e.keyofNode operand
    else if p.isUnionSite site then
      let parts ← (p.site id).types.each
      let types ← parts.mapM fun part => p.typeWritten part
      some <$> e.unionNode types
    else pure none

def includeWrittenOrInline (site : Option SiteId) : Extract Node := do
  match ← e.includeWritten site with
  | some node => pure node
  | none =>
    let type ← e.program.typeWritten site
    e.visitInline (← present type)

def includeConstraint (type : TypeId) : Extract (Option Node) := do
  let p := e.program
  let info := p.type type
  match (p.firstDeclaration info.symbol).bind fun site => (p.site site).constraint with
  | some written =>
    if p.isKeyofSite (some written) then
      let operand ← p.typeAt (p.site written).type
      some <$> e.keyofNode operand
    else
      let bound ← p.typeAt written
      some <$> e.visitPresent bound
  | none =>
    match info.constraint with
    | some bound => some <$> e.visit bound
    | none => pure none

def includeDefault (type : TypeId) : Extract (Option Node) := do
  let p := e.program
  match (p.firstDeclaration (p.type type).symbol).bind fun site => (p.site site).default with
  | some written =>
    let fallback ← p.typeAt written
    some <$> e.visitPresent fallback
  | none => pure none

def includeTypeParameter (type : TypeId) : Extract (Option (Node.TypeParameter Node)) := do
  match (e.program.type type).symbol with
  | none => pure none
  | some symbol =>
    let parameter ← typeParameterRef (e.program.symbol symbol).name
    let constraint ← e.includeConstraint type
    let default ← e.includeDefault type
    pure (some { parameter, constraint, default })

def includeTypeParameters (params : Slots TypeId) : Extract (List (Node.TypeParameter Node)) := do
  let described ← params.slots.mapM fun param => do e.includeTypeParameter (← present param)
  return described.filterMap id

def declaredTypeParameters (site : SiteId) : Extract (List (Node.TypeParameter Node)) := do
  let p := e.program
  let written ← (p.site site).typeParameters.each
  let params ← written.mapM fun param => p.typeAt param
  e.includeTypeParameters (some params)

end TypeAtlas.Engine
