import TypeAtlas.Fault
import TypeAtlas.Program.Query

/-!
Building steps. A program starts with the intrinsic types; records are added one at a time, and
declarations stand below their source file.
-/

namespace TypeAtlas

abbrev Build := ExceptT Fault (StateM Program)

structure Header where
  name : String
  doc : Option String := none
  fileName : Option String := none
  exported : Bool := true

namespace Program

def anyType : TypeId := ⟨0⟩
def unknownType : TypeId := ⟨1⟩
def stringType : TypeId := ⟨2⟩
def numberType : TypeId := ⟨3⟩
def bigintType : TypeId := ⟨4⟩
def esSymbolType : TypeId := ⟨5⟩
def uniqueEsSymbolType : TypeId := ⟨6⟩
def voidType : TypeId := ⟨7⟩
def undefinedType : TypeId := ⟨8⟩
def nullType : TypeId := ⟨9⟩
def neverType : TypeId := ⟨10⟩
def nonPrimitiveType : TypeId := ⟨11⟩
def falseType : TypeId := ⟨12⟩
def trueType : TypeId := ⟨13⟩
def booleanType : TypeId := ⟨14⟩

/-- The intrinsic types but `boolean`, in the order of their handles. -/
def intrinsics : List (TypeFlag × String) :=
  [(.any, "any"), (.unknown, "unknown"), (.string, "string"), (.number, "number"),
   (.bigint, "bigint"), (.esSymbol, "symbol"), (.uniqueEsSymbol, "unique symbol"), (.void, "void"),
   (.undefined, "undefined"), (.null, "null"), (.never, "never"), (.nonPrimitive, "object"),
   (.booleanLiteral, "false"), (.booleanLiteral, "true")]

/-- A program with no declarations: the module's symbol and the intrinsic types. Its records are
numbered from the one after `lastId` on. -/
def start (fileName : String) (lastId : Nat := 0) : Program :=
  let empty : Program := { fileName, moduleSymbol := ⟨0⟩, lastId }
  let withModule := (empty.addSymbol { name := fileName, flags := [.moduleKind] }).2
  let withIntrinsics := intrinsics.foldl
    (fun p (flag, name) => (p.addType { flags := [flag], intrinsicName := some name }).2) withModule
  (withIntrinsics.addType
    { flags := [.boolean, .union], intrinsicName := some "boolean",
      types := Slots.of [falseType, trueType] }).2

end Program

namespace Build

open Program

def newSite (site : Site) : Build SiteId := modifyGet (·.addSite site)

def newSymbol (symbol : Symbol) : Build SymbolId := modifyGet (·.addSymbol symbol)

def newType (type : TypeInfo) : Build TypeId := modifyGet (·.addType type)

def newSignature (signature : Signature) : Build SignatureId := modifyGet (·.addSignature signature)

def newIndexInfo (info : IndexInfo) : Build IndexId := modifyGet (·.addIndexInfo info)

def setSite (id : SiteId) (f : Site → Site) : Build Unit := modify (·.modifySite id f)

def setSymbol (id : SymbolId) (f : Symbol → Symbol) : Build Unit := modify (·.modifySymbol id f)

def setType (id : TypeId) (f : TypeInfo → TypeInfo) : Build Unit := modify (·.modifyType id f)

def bindSite (id : Option SiteId) (type : Option TypeId) : Build Unit :=
  modify fun p => p.modifySiteAnswers ({ · with type := some type }) id

def bindSignature (id : Option SiteId) (signature : Option SignatureId) : Build Unit :=
  modify fun p => p.modifySiteAnswers ({ · with signature := some signature }) id

def bindSymbol (id : Option SymbolId) (type : Option TypeId) : Build Unit :=
  modify fun p => p.modifySymbolAnswers ({ · with value := some type }) id

def bindDeclared (id : Option SymbolId) (type : Option TypeId) : Build Unit :=
  modify fun p => p.modifySymbolAnswers ({ · with declared := some type }) id

def ask {α : Type} (query : Program → Except Fault α) : Build α := do query (← get)

def declarationOf (type : Option TypeId) : Build (Option SiteId) :=
  ask fun p => do
    let symbol ← present (p.type (← present type)).symbol
    (p.symbol symbol).declarations.first

def docList (doc : Option String) : Slots String :=
  match doc with
  | some text => if text.isEmpty then some [] else Slots.of [text]
  | none => some []

def source (fileName : String) : Build SiteId := do
  let p ← get
  match Table.get? p.files fileName with
  | some id => pure id
  | none =>
    let id ← newSite { kind := .sourceFile, fileName := some fileName }
    modify fun p => { p with files := Table.put p.files fileName id }
    pure id

def declare (kind : SiteKind) (name : String) (flags : SymbolFlags)
    (doc fileName : Option String := none) : Build (SymbolId × SiteId) := do
  let own := (← get).fileName
  let file := match fileName with
    | some file => if file.isEmpty then own else file
    | none => own
  let parent ← source file
  let site ← newSite { kind, name := some name, parent := some parent }
  let symbol ← newSymbol { name, flags, declarations := Slots.of [site], documentation := docList doc }
  setSite site ({ · with symbol := some symbol })
  pure (symbol, site)

def setExports (exports : Slots SymbolId) : Build Unit := do
  setSymbol (← get).moduleSymbol ({ · with exports })

def addExport (symbol : Option SymbolId) : Build Unit := do
  let p ← get
  let exports := (p.symbol p.moduleSymbol).exports
  if symbol ∈ (← exports.each) then pure () else setExports (← exports.push symbol)

def pushExport (symbol : SymbolId) : Build Unit := do
  let p ← get
  let exports ← present (p.symbol p.moduleSymbol).exports
  setExports (some (exports ++ [some symbol]))

def exportIf (exported : Bool) (symbol : SymbolId) : Build Unit :=
  if exported then addExport symbol else pure ()

end Build

end TypeAtlas
