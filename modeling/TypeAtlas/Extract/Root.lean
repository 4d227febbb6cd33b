import TypeAtlas.Extract.Engine

/-!
Roots: one entry for each exported declaration.
-/

namespace TypeAtlas

inductive RootKind where
  | default
  | named
  | function
  | type
  | value
deriving DecidableEq, Repr, Inhabited

namespace RootKind

def text : RootKind → String
  | default => "default"
  | named => "alias"
  | function => "function"
  | type => "type"
  | value => "variable"

def all : List RootKind := [default, named, function, type, value]

def ofText? (s : String) : Option RootKind := all.find? (·.text == s)

def defaultName : String := "default"

def syntheticName : String := "_default"

def isTypeSymbol (symbol : Symbol) : Bool :=
  [SymbolFlag.classKind, .interface, .regularEnum, .constEnum].any symbol.hasFlag

/-- How an exported symbol is extracted; nothing when it is skipped. -/
def of? (symbol : Symbol) : Option RootKind :=
  if symbol.name == defaultName then some default
  else if symbol.hasFlag .typeAlias then some named
  else if symbol.hasFlag .function then some function
  else if isTypeSymbol symbol then some type
  else if symbol.hasFlag .variableKind then some value
  else none

end RootKind

namespace Engine

variable (e : Engine)

/-- Registers a class, an interface or an enumeration. A reference means that the type registered
itself on the way. -/
def includeExportedType (type : TypeId) : Extract Unit := do
  let p := e.program
  match (p.type type).symbol with
  | none => .diagnose (.missingDeclaration (p.describeType type) "symbol")
  | some symbol =>
    let name := (p.symbol symbol).name
    match ← Extract.inScope name (e.includeType type) with
    | .ref _ => pure ()
    | node => Extract.set name node

def declaredName (site : SiteId) : Extract String := do
  let p := e.program
  let ofSymbol := (p.site site).symbol.map fun symbol => (p.symbol symbol).name
  let nonEmpty (name : Option String) := name.filter (!·.isEmpty)
  match nonEmpty (p.site site).name <|> nonEmpty ofSymbol with
  | some name => pure name
  | none => .diagnose (.missingDeclaration (p.describeSite (some site)) "name")

def exportedAlias (site written : SiteId) (name : String) : Extract Node := do
  Extract.reserve name
  let comment ← e.program.comment (e.program.site site).symbol
  let types ← e.declaredTypeParameters site
  let child ← e.includeAnnotation (some written)
  pure (.aliasOf types child comment)

def includeExportedAlias (site : SiteId) : Extract Unit := do
  let name ← e.declaredName site
  match (e.program.site site).type with
  | none => .diagnose (.missingDeclaration name "aliased type")
  | some written =>
    Extract.inScope name do
      Extract.set name (← e.exportedAlias site written name)

def exportedValue (site : SiteId) (type : Option TypeId) : Extract Node := do
  let comment ← e.program.comment (e.program.site site).symbol
  let value ← e.includeType (← present type)
  pure (.const value comment)

def includeExportedValue (site : SiteId) : Extract Unit := do
  let p := e.program
  let name ← e.declaredName site
  let type ← match (p.site site).type, (p.site site).initializer with
    | some written, _ => p.typeWritten written
    | none, some expression => p.typeAt expression
    | none, none => .diagnose (.missingDeclaration name "type annotation or initializer")
  Extract.inScope name do
    Extract.set name (← e.exportedValue site type)

def exportedFunction (site : Option SiteId) (signature : Option SignatureId) : Extract Node := do
  let callable ← e.includeSignature signature
  let comment ← e.program.comment (e.program.site (← present site)).symbol
  pure (.function { callable with comment })

def includeExportedFunction (site : Option SiteId) (name : String) : Extract Unit := do
  let p := e.program
  let type ← present (← p.typeAt site)
  match ← (p.type type).callSignatures.each with
  | [] => .diagnose (.missingSignature name)
  | signature :: _ =>
    Extract.inScope name do
      Extract.set name (← e.exportedFunction site signature)

def includeNamedDefault (symbol : SymbolId) : Extract Unit := do
  let p := e.program
  let record := p.symbol symbol
  let missing : Extract Unit := .diagnose (.missingDeclaration record.name "declaration")
  if record.hasFlag .typeAlias then
    match p.firstDeclaration (some symbol) with
    | none => missing
    | some site => e.includeExportedAlias site
  else if record.hasFlag .function then
    match record.valueDeclaration with
    | none => missing
    | some site => e.includeExportedFunction (some site) record.name
  else if RootKind.isTypeSymbol record then
    e.includeExportedType (← present (← p.declaredType symbol))
  else
    match record.valueDeclaration with
    | none => missing
    | some site => e.includeExportedValue site

def exportedExpression (type : Option TypeId) : Extract Node := do
  let value ← e.includeInline (← present type)
  pure (.const value none)

/-- A reference to the entry that stands for a default export without a name. -/
def syntheticRef : Extract Node := do
  return .ref (← Extract.resolve RootKind.syntheticName)

/-- What a default export refers to: the entry of what it names, or an entry of its own for a
function or an expression without a name. -/
def defaultValue (site : SiteId) : Extract Node := do
  let p := e.program
  if (p.site site).kind = .functionDeclaration then
    e.includeExportedFunction (some site) RootKind.syntheticName
    syntheticRef
  else
    match (p.site site).expression with
    | none => .diagnose (.missingDeclaration RootKind.defaultName "expression")
    | some expression =>
      let type ← p.typeAt expression
      match (p.site expression).symbol with
      | some symbol =>
        e.includeNamedDefault symbol
        e.includeRef (← present type) (p.symbol symbol).name
      | none =>
        Extract.inScope RootKind.syntheticName do
          Extract.set RootKind.syntheticName (← e.exportedExpression type)
        syntheticRef

def includeDefaultExport (site : SiteId) : Extract Unit := do
  let value ← e.defaultValue site
  let comment ← e.program.comment (e.program.site site).symbol
  Extract.set RootKind.defaultName (.defaultExport value comment)

def includeRoot (symbol : SymbolId) (kind : RootKind) : Extract Unit := do
  let p := e.program
  let record := p.symbol symbol
  if kind = .type then
    e.includeExportedType (← present (← p.declaredType symbol))
  else
    match record.declarations.first? with
    | none => .diagnose (.missingDeclaration record.name "declaration")
    | some site =>
      match kind with
      | .default => e.includeDefaultExport site
      | .named => e.includeExportedAlias site
      | .function => e.includeExportedFunction (some (record.valueDeclaration.getD site)) record.name
      | _ => e.includeExportedValue (record.valueDeclaration.getD site)

end Engine

end TypeAtlas
