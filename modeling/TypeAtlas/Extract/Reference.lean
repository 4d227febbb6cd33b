import TypeAtlas.Extract.Walk

/-!
References: type arguments brought into normal form, entries registered once, and types from outside
the program referred to as imports.
-/

namespace TypeAtlas.Engine

variable (e : Engine)

def typeArguments (type : TypeId) : Extract (List Node) :=
  e.visitAll (e.program.type type).arguments.slots

def defaultTypeId (param : Option SiteId) : Except Fault (Option Int) := do
  let p := e.program
  let param ← present param
  let site := (p.firstDeclaration (p.site param).symbol).getD param
  match (p.site site).default with
  | none => pure none
  | some fallback =>
    let type ← present (← p.typeAt fallback)
    pure (some (p.type type).id)

/-- Drops arguments equal to the default of their parameter, from the last one on. The parameters
come last first. -/
def trimDefaults (argumentIds : List Int) :
    List (Option SiteId) → List Node → Except Fault (List Node)
  | [], types => pure types
  | param :: earlier, types => do
    match ← e.defaultTypeId param, argumentIds[earlier.length]? with
    | some default, some argument =>
      if default = argument ∧ types.length = earlier.length + 1 then
        trimDefaults argumentIds earlier types.dropLast
      else pure types
    | _, _ => pure types

def argumentIds (type : TypeInfo) : Except Fault (List Int) :=
  let arguments := if type.aliasArguments.isEmpty then type.arguments else type.aliasArguments
  arguments.slots.mapM fun argument => do return (e.program.type (← present argument)).id

/-- At most as many arguments as the entry declares parameters, without trailing defaults. -/
def normalizeArguments (type : TypeId) (params : Slots SiteId) (types : List Node)
    (name : String) : Extract (List Node) := do
  let bounded :=
    match (← get).registry.parameterCount? name with
    | some count => types.take count
    | none => types
  let ids ← e.argumentIds (e.program.type type)
  e.trimDefaults ids (← params.each).reverse bounded

def typeParameterRef (name : String) : Extract (Node.Ref Node) := do
  Extract.declareLocal name
  pure { name }

def includeRef (type : TypeId) (name : String) (live : Option TypeId := none) :
    Extract Node := do
  let p := e.program
  let params :=
    match p.firstDeclaration (p.type type).symbol with
    | some site => (p.site site).typeParameters
    | none => some []
  let types ← e.typeArguments type
  let types ← e.normalizeArguments type params types name
  return .ref (← Extract.resolve name types live)

/-- Builds an entry that is not there yet: a placeholder first, then the body. -/
def register (name : String) (body : Extract Node) : Extract Unit := do
  if ← Extract.isRegistered name then pure ()
  else Extract.inScope name do
    Extract.reserve name
    Extract.set name (← body)

def makeRef (type : Option TypeId) (name : String) : Extract Node := do
  register name do
    let id ← present type
    let info := e.program.type id
    e.bodyOfType (if info.isReference then info.target.getD id else id)
  e.includeRef (← present type) name

/-- Registers the body of a named type without keeping the reference. -/
def ensureNamed (type : Option TypeId) (name : String) : Extract Unit := do
  if ← Extract.isRegistered name then pure ()
  else discard (e.makeRef type name)

def originOf (symbol : Option SymbolId) : Origin :=
  let p := e.program
  e.libraries.originOf ((p.firstDeclaration symbol).bind p.fileOf)

def importName (symbol : SymbolId) (origin : Origin) : ImportScope → Extract String
  | .global => pure (e.program.globalName symbol)
  | .lib => pure (e.program.symbol symbol).name
  | .module_ =>
    modifyGet fun w => w.bind (origin.module?.getD "") (e.program.symbol symbol).name

def registerImport (name : String) (node : Node) : Extract Unit := do
  let registry := (← get).registry
  if !registry.has name || registry.isPlaceholder name then
    Extract.set name node

def bindImport (symbol : SymbolId) (origin : Origin) (scope : ImportScope) : Extract String := do
  let own := (e.program.symbol symbol).name
  let name ← e.importName symbol origin scope
  registerImport name (.imported own origin.module? scope)
  pure name

/-- The registered name of a named symbol from outside; nothing for the program's own. -/
def externalName (symbol : Option SymbolId) : Extract (Option String) := do
  let origin := e.originOf symbol
  match origin.scope? with
  | none => pure none
  | some scope =>
    let symbol ← present symbol
    if e.isAnonymous (e.program.symbol symbol).name then pure none
    else some <$> e.bindImport symbol origin scope

def containerFrom : Nat → Option SiteId → Option SymbolId
  | 0, _ => none
  | _ + 1, none => none
  | hops + 1, some site =>
    if e.program.isNamedContainer (some site) then (e.program.site site).symbol
    else containerFrom hops (e.program.site site).parent

def hiddenResolved (container : String) : Event :=
  { level := .debug, name := "hidden_anonymous_resolved", details := [("container", .text container)] }

/-- A constructor or function type written inside a module's declaration stands for the type that
the declaration names. -/
def includeHidden (type : TypeId) : Extract (Option Node) := do
  let p := e.program
  match (p.type type).symbol with
  | none => pure none
  | some symbol =>
    let site := p.firstDeclaration (some symbol)
    if !e.isAnonymous (p.symbol symbol).name || !p.isHiddenDeclaration site ||
        (e.originOf symbol).scope? != some .module_ then pure none
    else
      let parent := site.bind fun id => (p.site id).parent
      match e.containerFrom e.settings.maxHops parent with
      | none => pure none
      | some container =>
        Extract.emit (hiddenResolved (p.symbol container).name)
        let declared ← p.declaredType container
        some <$> e.visitPresent declared

/-- A reference to a type from outside; nothing for the program's own types. -/
def includeExternal (type : TypeId) : Extract (Option Node) := do
  let info := e.program.type type
  match info.symbol with
  | none => pure none
  | some symbol =>
    let origin := e.originOf symbol
    match origin.scope? with
    | none => pure none
    | some scope =>
      if e.isAnonymous (e.program.symbol symbol).name then
        -- only importable modules hide named types behind anonymous ones
        if scope = .module_ then e.includeHidden type else pure none
      else if scope = .module_ && info.isAnonymousObject then pure none
      else
        let name ← e.bindImport symbol origin scope
        let live := if scope = .global then none else some type
        some <$> e.includeRef type name live

def makeAliasRef (type : TypeId) (name : String) : Extract Node := do
  let p := e.program
  let info := p.type type
  match info.alias?, p.firstDeclaration info.alias? with
  | some symbol, some site =>
    let name ← match ← e.externalName symbol with
      | some bound => pure bound
      | none =>
        register name (e.bodyOfAlias site)
        pure name
    let types ← e.visitAll info.aliasArguments.slots
    let types ← e.normalizeArguments type (p.site site).typeParameters types name
    return .ref { name, types }
  | _, _ => .diagnose (.missingDeclaration name "alias declaration")

end TypeAtlas.Engine
