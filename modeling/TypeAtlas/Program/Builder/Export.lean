import TypeAtlas.Program.Builder.Declared

/-!
Variables, namespaces and default exports.
-/

namespace TypeAtlas.Build

open Program

def variableOf (header : Header) (type initializer : Option TypeId := none) : Build SymbolId := do
  let (symbol, site) ← declare .variableDeclaration header.name [.variableKind] header.doc
  setSymbol symbol ({ · with valueDeclaration := some site })
  if let some annotation := type then
    let written ← writtenType annotation site
    setSite site ({ · with type := some written })
  if let some value := initializer then
    let expression ← newSite { kind := .expression, parent := some site }
    setSite site ({ · with initializer := some expression })
    bindSite expression value
  if let some value := type <|> initializer then
    bindSymbol symbol value
    bindSite site value
  exportIf header.exported symbol
  pure symbol

def namespaceOf (name : String) (fileName : Option String := none) : Build SymbolId := do
  let (symbol, _) ← declare .moduleBlock name [.namespaceKind] none fileName
  pure symbol

def valueType (symbol : SymbolId) : Build (Option TypeId) := do
  let record := (← get).symbol symbol
  if [SymbolFlag.typeAlias, .interface, .classKind, .regularEnum, .constEnum].any record.hasFlag then
    ask (·.declaredType symbol)
  else
    let site ← match record.valueDeclaration with
      | some site => pure (some site)
      | none => record.declarations.first
    ask (·.valueTypeAt symbol site)

def defaultName : String := "default"

inductive DefaultTarget where
  | symbol (id : SymbolId)
  | type (id : Option TypeId)

def defaultExport (target : DefaultTarget) (doc : Option String := none) : Build SymbolId := do
  let symbol ← newSymbol
    { name := defaultName, flags := [.aliasKind], documentation := docList doc }
  let parent ← source (← get).fileName
  let site ← newSite
    { kind := .exportAssignment, symbol := some symbol, parent := some parent }
  setSymbol symbol ({ · with declarations := Slots.of [site] })
  let (expression, value) ← match target with
    | .symbol named => do
      let name := ((← get).symbol named).name
      let expression ← newSite
        { kind := .identifier, name := some name, symbol := some named, parent := some site }
      setSite site ({ · with expression := some expression })
      let value ← valueType named
      pure (expression, value)
    | .type value => do
      let expression ← newSite { kind := .expression, parent := some site }
      setSite site ({ · with expression := some expression })
      pure (expression, value)
  bindSite expression value
  pushExport symbol
  pure symbol

def defaultFunction (spec : CallSpec) (doc : Option String := none) : Build SymbolId := do
  let (symbol, site) ← declare .functionDeclaration defaultName [.function] doc
  setSymbol symbol ({ · with valueDeclaration := some site })
  let type ← callable symbol site spec.parameters (spec.returns.getD voidType) []
  bindSymbol symbol type
  pushExport symbol
  pure symbol

end TypeAtlas.Build
