import TypeAtlas.Extract.Shape
import TypeAtlas.Extract.Terminal

/-!
From a type to its node: named types become references to entries, all others are written out. The
engine is closed here: going one type further in costs one level, and the body of a new entry starts
with all levels again.
-/

namespace TypeAtlas.Engine

variable (e : Engine)

def unsupported (type : TypeId) : Event :=
  { level := .debug, name := "unsupported_construct"
    details := [("type", .text (e.program.describeType type)),
      ("flags", .int (e.program.type type).flags.value)] }

def unidentified (type : TypeId) : Extract Node := do
  modify fun w => { w with unidentified := w.unidentified + 1 }
  Extract.emit (e.unsupported type)
  pure .unidentified

def firstOf (type : TypeId) : List (TypeId → Extract (Option Node)) → Extract Node
  | [] => e.unidentified type
  | describe :: rest => do
    match ← describe type with
    | some node => pure node
    | none => firstOf type rest

def includeNamed (type : TypeId) : Extract Node := e.firstOf type [e.includeBasic, e.includeObject]

def includeInline (type : TypeId) : Extract Node :=
  e.firstOf type [e.includeBasic, e.includeCombinator, e.includeHidden, e.includeObject]

/-- A type known by a name: a type parameter, an alias, an import or an entry of its own, and
written out when it has no usable name. -/
def includeKnown (type : TypeId) (name : Option String) : Extract Node := do
  let info := e.program.type type
  match info.isTypeParameter, info.symbol with
  | true, some symbol => return .ref (← typeParameterRef (e.program.symbol symbol).name)
  | _, _ =>
    match name with
    | none => e.includeInline type
    | some name =>
      if name.isEmpty then e.includeInline type
      else if info.alias?.isSome && info.alias? != info.symbol then e.makeAliasRef type name
      else
        match ← e.includeExternal type with
        | some node => pure node
        | none =>
          if e.isAnonymous name || info.isAnonymousObject then e.includeInline type
          else e.makeRef (some type) name

def nameOf (info : TypeInfo) : Option String :=
  let own := info.symbol.map fun symbol => (e.program.symbol symbol).name
  match info.alias?.map fun symbol => (e.program.symbol symbol).name with
  | some name => if name.isEmpty then own <|> some name else some name
  | none => own

def includeType (type : TypeId) : Extract Node := do
  let info := e.program.type type
  match info.keyofOperand? with
  | some operand => e.keyofNode operand
  | none => e.includeKnown type (e.nameOf info)

def aliasBody (site : SiteId) : Extract Node := do
  let p := e.program
  let comment ← p.comment (p.site site).symbol
  let types ← e.declaredTypeParameters site
  let type ← p.typeAt site
  let child ← e.includeInline (← present type)
  pure (.aliasOf types child comment)

def within : Nat → Engine
  | 0 => e
  | depth + 1 =>
    { e with
      visit := fun type => (within depth).includeType type
      visitNamed := fun type name => (within depth).includeKnown type name
      visitInline := fun type => (within depth).includeInline type }

/-- An engine whose entries are nested at most the given number of times, each with a body of at
most `depth` levels. -/
def withEntries (depth : Nat) : Nat → Engine
  | 0 => e
  | entries + 1 =>
    { e with
      bodyOfType := fun type => ((withEntries depth entries).within depth).includeNamed type
      bodyOfAlias := fun site => ((withEntries depth entries).within depth).aliasBody site }

/-- Levels enough for a body: on the way into a type no record comes twice in the same role, and
there are three ways to go on to a type. -/
def depthBound (p : Program) : Nat := 3 * (p.types.size + p.sites.size) + 8

/-- Entries enough for a walk: an entry is only begun under a new name. -/
def entryBound (p : Program) : Nat := p.symbols.size + p.sites.size + 8

def start (p : Program) (settings : ExtractionSettings) (libraries : LibrarySettings) : Engine :=
  let bare : Engine := { program := p, settings, libraries }
  (bare.withEntries (depthBound p) (entryBound p)).within (depthBound p)

end TypeAtlas.Engine
