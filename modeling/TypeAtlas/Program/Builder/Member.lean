import TypeAtlas.Program.Builder.Written

/-!
Members and parameters of what is declared. An interface sees the members of its bases behind its
own.
-/

namespace TypeAtlas

structure PropSpec where
  type : Option TypeId
  optional : Bool := false
  modifiers : List String := []
  doc : Option String := none

/-- A parameter; one without a type has no annotation. -/
structure ParamSpec where
  name : String
  type : Option TypeId
  optional : Bool := false
  spread : Bool := false

structure MethodSpec where
  parameters : List ParamSpec
  returns : Option TypeId
  typeParameters : List (Option TypeId) := []
  optional : Bool := false
  doc : Option String := none

/-- A member to declare; a plain type is a property of that type. -/
inductive MemberSpec where
  | plain (type : Option TypeId)
  | prop (spec : PropSpec)
  | method (spec : MethodSpec)

/-- An index signature, whose key may go without a name. -/
structure IndexSpec where
  type : Option TypeId
  keyName : Option String := some "key"

namespace Build

open Program

def attachTypeParameters (site : SiteId) (params : List (Option TypeId)) : Build Unit :=
  params.forM fun param => do
    let paramSite ← present (← declarationOf param)
    setSite paramSite ({ · with parent := some site })
    setSite site fun s =>
      { s with typeParameters := some (s.typeParameters.slots ++ [some paramSite]) }

def parameter (parent : SiteId) (spec : ParamSpec) : Build (SymbolId × SiteId) := do
  let site ← newSite
    { kind := .parameter, name := some spec.name, parent := some parent,
      optional := some spec.optional, spread := some spec.spread }
  let symbol ← newSymbol
    { name := spec.name, flags := [.variableKind], declarations := Slots.of [site],
      valueDeclaration := some site }
  setSite site ({ · with symbol := some symbol })
  if let some type := spec.type then
    let written ← writtenType type site
    setSite site ({ · with type := some written })
    bindSymbol symbol type
  pure (symbol, site)

def addParameters (parent : SiteId) (specs : List ParamSpec) : Build (List SymbolId) := do
  let params ← specs.mapM (parameter parent)
  setSite parent ({ · with parameters := Slots.of (params.map Prod.snd) })
  pure (params.map Prod.fst)

def callable (symbol : SymbolId) (site : SiteId) (parameters : List ParamSpec)
    (returns : Option TypeId) (typeParameters : List (Option TypeId)) : Build TypeId := do
  attachTypeParameters site typeParameters
  let params ← addParameters site parameters
  let written ← writtenType returns site
  setSite site ({ · with type := some written })
  let signature ← newSignature
    { declaration := some site, typeParameters := some typeParameters,
      parameters := Slots.of params, returns }
  bindSignature site signature
  let type ← newType
    { flags := [.object], objectFlags := [.anonymous], symbol := some symbol,
      callSignatures := Slots.of [signature] }
  bindSite site type
  pure type

def optionalFlag (optional : Bool) : SymbolFlags := if optional then [.optional] else []

def propMember (name : String) (spec : PropSpec) (parent : SiteId) (kind : SiteKind) :
    Build SymbolId := do
  let site ← newSite
    { kind, name := some name, parent := some parent, modifiers := Slots.of spec.modifiers }
  let written ← writtenType spec.type site
  setSite site ({ · with type := some written })
  let symbol ← newSymbol
    { name, flags := .property :: optionalFlag spec.optional, declarations := Slots.of [site],
      valueDeclaration := some site, documentation := docList spec.doc }
  setSite site ({ · with symbol := some symbol })
  bindSymbol symbol spec.type
  pure symbol

def methodMember (name : String) (spec : MethodSpec) (parent : SiteId) : Build SymbolId := do
  let site ← newSite { kind := .methodSignature, name := some name, parent := some parent }
  let symbol ← newSymbol
    { name, flags := .method :: optionalFlag spec.optional, declarations := Slots.of [site],
      valueDeclaration := some site, documentation := docList spec.doc }
  setSite site ({ · with symbol := some symbol })
  let type ← callable symbol site spec.parameters spec.returns spec.typeParameters
  bindSymbol symbol type
  pure symbol

def member (parent : SiteId) (kind : SiteKind) (name : String) : MemberSpec → Build SymbolId
  | .plain none => throw .absent
  | .plain type => propMember name { type } parent kind
  | .prop spec => propMember name spec parent kind
  | .method spec => methodMember name spec parent

def members (parent : SiteId) (kind : SiteKind) (specs : Table String MemberSpec) :
    Build (List SymbolId) :=
  specs.mapM fun (name, spec) => member parent kind name spec

def indexSignature (keyType : TypeId) (spec : Option IndexSpec) (parent : SiteId) :
    Build (Option IndexId) := do
  match spec with
  | none => pure none
  | some spec =>
    let site ← newSite { kind := .indexSignature, parent := some parent }
    if let some keyName := spec.keyName then
      let key ← newSite { kind := .parameter, name := some keyName, parent := some site }
      setSite site ({ · with parameters := Slots.of [key] })
    some <$> newIndexInfo
      { keyType := some keyType, type := spec.type, declaration := some site }

/-- The properties of the bases that are neither own nor seen on an earlier base. -/
def inheritedProperties (p : Program) (own : List SymbolId) (bases : List (Option TypeId)) :
    Except Fault (List SymbolId) := do
  let name (id : SymbolId) := (p.symbol id).name
  let offered ← bases.mapM fun base => do
    let properties ← (p.type (← present base)).properties.each
    properties.mapM present
  return offered.flatten.foldl
    (fun kept prop =>
      if own.any (name · == name prop) || kept.any (name · == name prop) then kept
      else kept ++ [prop])
    []

/-- Own members first, then what the bases add; an index signature of its own comes before one of a
base. -/
def populate (type : TypeId) (site : SiteId) (specs : Table String MemberSpec)
    (bases : List (Option TypeId)) (kind : SiteKind)
    (stringIndex numberIndex : Option IndexSpec := none) : Build Unit := do
  let own ← members site kind specs
  let inherited ← ask (inheritedProperties · own bases)
  let ownString ← indexSignature stringType stringIndex site
  let ownNumber ← indexSignature numberType numberIndex site
  let p ← get
  setType type
    ({ · with
      properties := Slots.of (own ++ inherited)
      stringIndex := ownString <|> bases.findSome? (·.bind (p.indexOf .string))
      numberIndex := ownNumber <|> bases.findSome? (·.bind (p.indexOf .number)) })

def heritageSite (parent : SiteId) (base : Option TypeId) : Build SiteId := do
  let p ← get
  let symbol := (p.type (← present base)).symbol
  let name := symbol.map fun symbol => (p.symbol symbol).name
  let site ← newSite { kind := .expressionWithTypeArguments, parent := some parent }
  let expression ← newSite { kind := .identifier, name, parent := some site }
  setSite site ({ · with expression := some expression })
  bindSite site base
  pure site

def addHeritage (site : SiteId) (token : HeritageToken) (bases : List (Option TypeId)) :
    Build Unit := do
  if bases.isEmpty then pure ()
  else
    let types ← bases.mapM (heritageSite site)
    setSite site fun s => { s with heritage := s.heritage ++ [{ token, types := types.map some }] }

def someUnlessEmpty {α : Type} (items : List α) : Option (List α) :=
  if items.isEmpty then none else some items

end Build

end TypeAtlas
