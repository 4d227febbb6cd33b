import TypeAtlas.Extract.Structural

/-!
Shapes of objects: interfaces, classes and mapped types. A member that comes through a base is not
repeated: the ids of all inherited members are gathered along the bases, and own members are those
whose id is not among them.
-/

namespace TypeAtlas

structure Heritage where
  bases : List Node := []
  implemented : List Node := []

def Heritage.edges (h : Heritage) : List Node := h.bases ++ h.implemented

namespace Engine

variable (e : Engine)

def baseName (site : SiteId) : Option String := do
  let expression ← (e.program.site site).expression
  let written := e.program.site expression
  if written.kind = SiteKind.identifier then written.name else none

/-- A base as a reference with its live type. A structural base that is written by a name is
registered under that name. -/
def includeBase (site : Option SiteId) : Extract Node := do
  let base ← e.program.typeAt site
  let node ← e.visitPresent base
  match node with
  | .ref r => pure (.ref { r with live := r.live <|> base })
  | _ =>
    match e.baseName (← present site) with
    | none => pure node
    | some name =>
      if name.isEmpty then pure node
      else
        if !(← Extract.isRegistered name) then Extract.set name node
        pure (.ref { name, live := base })

def includeClauses : List HeritageClause → Extract Heritage
  | [] => pure {}
  | clause :: rest => do
    let items ← clause.types.mapM e.includeBase
    let others ← includeClauses rest
    match clause.token with
    | .bases => pure { others with bases := items ++ others.bases }
    | .implemented => pure { others with implemented := items ++ others.implemented }

def includeHeritage (type : TypeId) : Extract Heritage := do
  let p := e.program
  match p.firstDeclaration (p.type type).symbol with
  | some site =>
    if p.hasKind [.interfaceDeclaration, .classDeclaration] (some site) then
      e.includeClauses (p.site site).heritage
    else pure {}
  | none => pure {}

def propIds (members : List Node) : List Int :=
  members.filterMap fun member =>
    match member with
    | .prop property => property.id.bind fun id => if id = 0 then none else some id
    | _ => none

def livePropIds (live : Option TypeId) : Except Fault (List Int) := do
  match live with
  | some type =>
    let properties ← (e.program.type type).properties.each
    properties.mapM fun prop => do return e.program.memberId (← present prop)
  | none => pure []

def inheritedIdsFrom (registry : Registry) :
    Nat → List Node → List String → Except Fault (List Int)
  | 0, _, _ => .ok []
  | _ + 1, [], _ => .ok []
  | fuel + 1, .ref edge :: rest, seen => do
    if edge.name ∈ seen then inheritedIdsFrom registry fuel rest seen
    else
      let (ids, next) ← match registry.get? edge.name with
        | some (.interface shape) => pure (propIds shape.props, shape.bases)
        | some (.classShape shape implemented) =>
          pure (propIds shape.props, shape.bases ++ implemented)
        | _ => do pure (← e.livePropIds edge.live, [])
      let others ← inheritedIdsFrom registry fuel (next ++ rest) (edge.name :: seen)
      pure (ids ++ others)
  | fuel + 1, _ :: rest, seen => inheritedIdsFrom registry fuel rest seen

def edgeCount : Node → Nat
  | .interface shape => shape.bases.length
  | .classShape shape implemented => shape.bases.length + implemented.length
  | _ => 0

/-- The ids of all members reachable through the edges. The edges of an entry are followed once, so
the work is bounded by the number of edges in the registry. -/
def inheritedIds (registry : Registry) (edges : List Node) : Except Fault (List Int) :=
  let all := registry.entries.foldl (fun count entry => count + edgeCount entry.2) 0
  e.inheritedIdsFrom registry (edges.length + all + 1) edges []

def inheritsIndex (edges : List Node) (kind : IndexKind) (indexType : TypeId) : Bool :=
  edges.any fun edge =>
    match edge with
    | .ref { live := some live, .. } => e.program.indexTypeOf kind live == some indexType
    | _ => false

def includeAnnotation (site : Option SiteId) : Extract Node := do
  let p := e.program
  if p.isReferenceSite site then
    let type ← p.typeAt site
    e.visitNamed (← present type) (site.bind fun id => (p.site id).name)
  else
    match p.isInferSite site, site.bind fun id => (p.site id).typeParameter with
    | true, some declared =>
      match (p.site declared).symbol with
      | none => .diagnose (.missingDeclaration (p.describeSite site) "infer variable")
      | some symbol =>
        let type ← p.declaredType symbol
        return .infer (← e.visitPresent type)
    | _, _ => e.includeWrittenOrInline site

/-- A truth value as it is written at a place; one that is unset is not well formed. -/
def truth (name : String) : Option Bool → Checked Bool
  | some value => .ok value
  | none => .bad [{ rule := .bool, path := [.key name] }]

def includeParameter (param : Option SymbolId) : Extract (Node.Parameter Node) := do
  let p := e.program
  let param ← present param
  let name := (p.symbol param).name
  match (p.symbol param).valueDeclaration with
  | none => .diagnose (.missingDeclaration name "declaration")
  | some site =>
    match (p.site site).type with
    | none => .diagnose (.missingDeclaration name "parameter type")
    | some annotation =>
      let value ← e.includeAnnotation (some annotation)
      let site := p.site site
      let made (spread optional : Bool) : Node.Parameter Node := { name, spread, optional, value }
      (made <$> truth "spread" site.spread <*> truth "optional" site.optional).toExcept

def includeSignature (signature : Option SignatureId) : Extract (Node.Callable Node) := do
  let record := e.program.signature (← present signature)
  let types ← e.includeTypeParameters record.typeParameters
  let parameters ← (← record.parameters.each).mapM e.includeParameter
  let returns ← e.visitPresent record.returns
  pure { types, parameters, returns }

def includeConstructors (type : TypeId) : Extract (List Node) := do
  let p := e.program
  let sites ← p.constructorsOf (p.type type)
  sites.mapM fun site => do
    let callable ← e.includeSignature (← p.signatureOf site)
    pure (.construct callable)

def includePropValue (prop : SymbolId) : Extract Node := do
  let p := e.program
  match p.firstDeclaration (some prop) with
  | none => .diagnose (.missingDeclaration (p.symbol prop).name "declaration")
  | some site =>
    if p.isMethodSite (some site) || (p.symbol prop).hasFlag .method then
      let signature ← p.signatureOf site
      return .function (← e.includeSignature signature)
    else
      match ← e.includeWritten (p.site site).type with
      | some node => pure node
      | none =>
        let type ← p.valueTypeAt prop site
        e.visitPresent type

def includeProp (prop : SymbolId) : Extract Node := do
  let p := e.program
  let modifiers ← p.modifiersOf prop
  let comment ← p.comment prop
  let value ← e.includePropValue prop
  pure (.prop
    { name := (p.symbol prop).name, modifiers, id := some (p.memberId prop),
      optional := p.isOptional prop, comment, value })

def includeIndexMember (type value : TypeId) (kind : IndexKind) : Extract Node := do
  let key : Primitive := match kind with
    | .number => .number
    | .string => .string
  let name ← e.program.keyName (e.program.indexOf kind type)
  let value ← e.visit value
  pure (.index [{ name, value := .primitive key }] false value)

def includeOwnIndex (type : TypeId) (edges : List Node) (kind : IndexKind) :
    Extract (List Node) := do
  match e.program.indexTypeOf kind type with
  | none => pure []
  | some value =>
    if e.inheritsIndex edges kind value then pure []
    else return [← e.includeIndexMember type value kind]

def includeOwn (inherited : List Int) (prop : Option SymbolId) : Extract (List Node) := do
  let prop ← present prop
  if inherited.contains (e.program.memberId prop) then pure []
  else return [← e.includeProp prop]

def includeShape (type : TypeId) (heritage : Heritage) : Extract (Node.Shape Node) := do
  let p := e.program
  let info := p.type type
  let edges := heritage.edges
  let inherited ← e.inheritedIds (← get).registry edges
  let props ← (← info.properties.each).mapM (e.includeOwn inherited)
  let numberIndex ← e.includeOwnIndex type edges .number
  let stringIndex ← e.includeOwnIndex type edges .string
  let calls ← (← info.callSignatures.each).mapM fun signature => do
    return Node.function (← e.includeSignature signature)
  let comment ← p.comment info.symbol
  let types ← e.includeTypeParameters info.typeParameters
  pure
    { bases := heritage.bases, props := props.flatten ++ numberIndex ++ stringIndex ++ calls, types,
      comment }

def includeStatic (member : Option SymbolId) : Extract (List Node) := do
  let p := e.program
  let member ← present member
  match p.isPrototype member, (p.symbol member).valueDeclaration with
  | false, some site => return [← e.includeProp ((p.site site).symbol.getD member)]
  | _, _ => pure []

def includeClass (type : TypeId) : Extract Node := do
  let p := e.program
  let heritage ← e.includeHeritage type
  let shape ← e.includeShape type heritage
  let exported ← match (p.type type).symbol with
    | some symbol => (p.symbol symbol).exports.each
    | none => pure []
  let statics ← exported.mapM e.includeStatic
  let constructors ← e.includeConstructors type
  pure (.classShape { shape with props := shape.props ++ statics.flatten ++ constructors }
    heritage.implemented)

def includeMapped (type : TypeId) : Extract Node := do
  let p := e.program
  let info := p.type type
  let missing : Extract Node :=
    .diagnose (.missingDeclaration (p.describeType type) "mapped type declaration")
  match info.typeParameter, p.firstDeclaration info.symbol with
  | some key, some site =>
    match (p.type key).symbol, (p.site site).type with
    | some keySymbol, some written =>
      let name := (p.symbol keySymbol).name
      Extract.declareLocal name
      let value ← p.typeWritten written
      let comment ← p.comment info.symbol
      let constraint ← e.includeConstraint key
      let value ← e.visitPresent value
      let optional ← (truth "optional" (p.site site).optional).toExcept
      pure (.interface { comment, mapped := some { name, constraint, optional, value } })
    | _, _ => missing
  | _, _ => missing

def includeObject (type : TypeId) : Extract (Option Node) := do
  let info := e.program.type type
  if !info.isObject then pure none
  else if info.isMapped then some <$> e.includeMapped type
  else if info.isClass then some <$> e.includeClass type
  else
    let heritage ← e.includeHeritage type
    return some (.interface (← e.includeShape type heritage))

end Engine

end TypeAtlas
