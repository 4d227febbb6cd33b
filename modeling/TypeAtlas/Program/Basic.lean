import TypeAtlas.Program.Record
import TypeAtlas.Text.Printable

/-!
Programs: stores of records with the module whose exports are of interest. Symbols and types draw
their visible numbers from one counter.
-/

namespace TypeAtlas

/-- What literal types are found by: texts, numbers by value, and the digits of big integers.
Either kind of literal may be without its value. -/
inductive LiteralKey where
  | unset
  | text (value : String)
  | int (value : Int)
  | float (value : Binary64)
  | bigint (digits : Option String)
deriving DecidableEq, Repr, Inhabited

def LiteralKey.same : LiteralKey → LiteralKey → Bool
  | .unset, .unset => true
  | .text a, .text b => a == b
  | .bigint a, .bigint b => a == b
  | .int a, .int b => a == b
  | .float a, .float b => a.sameValue b
  | .int a, .float b => b.toInt? == some a
  | .float a, .int b => a.toInt? == some b
  | _, _ => false

/-- The records of a program. The checker may also be told what to answer where there is no place
or no symbol. -/
structure Program where
  fileName : String
  moduleSymbol : SymbolId
  lastId : Nat := 0
  sites : Array Site := #[]
  symbols : Array Symbol := #[]
  types : Array TypeInfo := #[]
  signatures : Array Signature := #[]
  indexes : Array IndexInfo := #[]
  files : Table String SiteId := []
  literals : List (LiteralKey × TypeId) := []
  tuples : Table Nat TypeId := []
  inferred : List TypeId := []
  answersNowhere : SiteAnswers := {}
  answersForNone : SymbolAnswers := {}
deriving Inhabited

namespace Program

def site (p : Program) (id : SiteId) : Site := p.sites.getD id.index default

def symbol (p : Program) (id : SymbolId) : Symbol := p.symbols.getD id.index default

def type (p : Program) (id : TypeId) : TypeInfo := p.types.getD id.index default

def signature (p : Program) (id : SignatureId) : Signature := p.signatures.getD id.index default

def indexInfo (p : Program) (id : IndexId) : IndexInfo := p.indexes.getD id.index default

def addSite (p : Program) (site : Site) : SiteId × Program :=
  (⟨p.sites.size⟩, { p with sites := p.sites.push site })

def addNumberedSymbol (p : Program) (symbol : Symbol) : SymbolId × Program :=
  (⟨p.symbols.size⟩, { p with symbols := p.symbols.push symbol })

def addSymbol (p : Program) (symbol : Symbol) : SymbolId × Program :=
  let id := p.lastId + 1
  { p with lastId := id }.addNumberedSymbol { symbol with id := id }

def addNumberedType (p : Program) (type : TypeInfo) : TypeId × Program :=
  (⟨p.types.size⟩, { p with types := p.types.push type })

def addType (p : Program) (type : TypeInfo) : TypeId × Program :=
  let id := p.lastId + 1
  { p with lastId := id }.addNumberedType { type with id := id }

def addSignature (p : Program) (signature : Signature) : SignatureId × Program :=
  (⟨p.signatures.size⟩, { p with signatures := p.signatures.push signature })

def addIndexInfo (p : Program) (info : IndexInfo) : IndexId × Program :=
  (⟨p.indexes.size⟩, { p with indexes := p.indexes.push info })

def modifySite (p : Program) (id : SiteId) (f : Site → Site) : Program :=
  { p with sites := p.sites.modify id.index f }

def modifySymbol (p : Program) (id : SymbolId) (f : Symbol → Symbol) : Program :=
  { p with symbols := p.symbols.modify id.index f }

def modifyType (p : Program) (id : TypeId) (f : TypeInfo → TypeInfo) : Program :=
  { p with types := p.types.modify id.index f }

def modifySignature (p : Program) (id : SignatureId) (f : Signature → Signature) : Program :=
  { p with signatures := p.signatures.modify id.index f }

def modifyIndexInfo (p : Program) (id : IndexId) (f : IndexInfo → IndexInfo) : Program :=
  { p with indexes := p.indexes.modify id.index f }

def siteAnswers (p : Program) : Option SiteId → SiteAnswers
  | some id => (p.site id).answers
  | none => p.answersNowhere

def symbolAnswers (p : Program) : Option SymbolId → SymbolAnswers
  | some id => (p.symbol id).answers
  | none => p.answersForNone

def modifySiteAnswers (p : Program) (f : SiteAnswers → SiteAnswers) : Option SiteId → Program
  | some id => p.modifySite id fun site => { site with answers := f site.answers }
  | none => { p with answersNowhere := f p.answersNowhere }

def modifySymbolAnswers (p : Program) (f : SymbolAnswers → SymbolAnswers) :
    Option SymbolId → Program
  | some id => p.modifySymbol id fun symbol => { symbol with answers := f symbol.answers }
  | none => { p with answersForNone := f p.answersForNone }

def quotedOrNone : Option String → String
  | some s => Text.quoted s
  | none => "None"

def describeFlags (flags : TypeFlags) : String :=
  let names :=
    match flags.names with
    | [] => "NONE"
    | names => "|".intercalate names
  "<TypeFlags." ++ names ++ ": " ++ toString flags.value ++ ">"

def describeSite (p : Program) : Option SiteId → String
  | some id =>
    let site := p.site id
    "Node(" ++ site.kind.text ++ ", " ++ quotedOrNone site.name ++ ")"
  | none => "None"

def describeSymbol (p : Program) : Option SymbolId → String
  | some id =>
    let symbol := p.symbol id
    "OracleSymbol(" ++ Text.quoted symbol.name ++ ", id=" ++ toString symbol.id ++ ")"
  | none => "None"

def typeName? (p : Program) (type : TypeInfo) : Option String :=
  match type.alias?, type.symbol with
  | some named, _ => some (p.symbol named).name
  | none, some symbol => some (p.symbol symbol).name
  | none, none => type.intrinsicName

def describeType (p : Program) (id : TypeId) : String :=
  let type := p.type id
  "OracleType(" ++ describeFlags type.flags ++ ", " ++ quotedOrNone (p.typeName? type) ++ ", id=" ++
    toString type.id ++ ")"

def fileOfFrom (p : Program) : Nat → SiteId → Option String
  | 0, _ => none
  | fuel + 1, id =>
    let site := p.site id
    match site.fileName, site.parent with
    | some file, _ => some file
    | none, some parent => fileOfFrom p fuel parent
    | none, none => none

def fileOf (p : Program) (id : SiteId) : Option String := p.fileOfFrom (p.sites.size + 1) id

def firstDeclaration (p : Program) (symbol : Option SymbolId) : Option SiteId :=
  symbol.bind fun id => (p.symbol id).declarations.first?

def memberIdFrom (p : Program) : Nat → SymbolId → Int
  | 0, id => (p.symbol id).id
  | fuel + 1, id =>
    match (p.symbol id).target with
    | some target => memberIdFrom p fuel target
    | none => (p.symbol id).id

def memberId (p : Program) (id : SymbolId) : Int := p.memberIdFrom p.symbols.size id

def globalNamesFrom (p : Program) : Nat → Option SymbolId → List String
  | 0, _ => []
  | _, none => []
  | fuel + 1, some id =>
    let symbol := p.symbol id
    if symbol.hasFlag .moduleKind then []
    else globalNamesFrom p fuel symbol.parent ++ [symbol.name]

def globalName (p : Program) (id : Option SymbolId) : String :=
  ".".intercalate (p.globalNamesFrom (p.symbols.size + 1) id)

/-- The documentation of a symbol as one text; nothing when there is none. -/
def comment (p : Program) : Option SymbolId → Except Fault (Option String)
  | none => .ok none
  | some id => do
    let documentation := (p.symbol id).documentation
    if (← documentation.each).isEmpty then pure none
    else some <$> documentation.joined "\n"

end Program

end TypeAtlas
