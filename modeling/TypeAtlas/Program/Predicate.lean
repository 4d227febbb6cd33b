import TypeAtlas.Program.Basic

/-!
Tests of types, places and symbols by their flags and kinds.
-/

namespace TypeAtlas

namespace TypeInfo

def isObject (t : TypeInfo) : Bool := t.hasFlag .object

def isReference (t : TypeInfo) : Bool := t.isObject && t.hasObjectFlag .reference

def isAnonymousObject (t : TypeInfo) : Bool := t.isObject && t.hasObjectFlag .anonymous

def isMapped (t : TypeInfo) : Bool := t.isObject && t.hasObjectFlag .mapped

def isClass (t : TypeInfo) : Bool := t.isObject && t.hasObjectFlag .classKind

def isTypeParameter (t : TypeInfo) : Bool := t.hasFlag .typeParameter

def keyofOperand? (t : TypeInfo) : Option TypeId := if t.hasFlag .index then t.operand else none

def isKeyof (t : TypeInfo) : Bool := t.keyofOperand?.isSome

def isUnion (t : TypeInfo) : Bool := t.hasFlag .union

def isIntersection (t : TypeInfo) : Bool := t.hasFlag .intersection

def isIndexedAccess (t : TypeInfo) : Bool := t.hasFlag .indexedAccess

end TypeInfo

namespace Program

def isTuple (p : Program) (t : TypeInfo) : Bool :=
  t.isReference && t.target.any fun target => (p.type target).hasObjectFlag .tuple

def hasKind (p : Program) (kinds : List SiteKind) (site : Option SiteId) : Bool :=
  site.any fun id => (p.site id).kind ∈ kinds

def isKeyofSite (p : Program) (site : Option SiteId) : Bool := p.hasKind [.keyofOperator] site

def isUnionSite (p : Program) (site : Option SiteId) : Bool := p.hasKind [.unionType] site

def isReferenceSite (p : Program) (site : Option SiteId) : Bool := p.hasKind [.typeReference] site

def isInferSite (p : Program) (site : Option SiteId) : Bool := p.hasKind [.inferType] site

def isMethodSite (p : Program) (site : Option SiteId) : Bool :=
  p.hasKind [.methodSignature, .methodDeclaration] site

def isNamedContainer (p : Program) (site : Option SiteId) : Bool :=
  p.hasKind [.interfaceDeclaration, .classDeclaration, .typeAlias] site &&
    site.any fun id => (p.site id).symbol.any fun symbol => !(p.symbol symbol).name.isEmpty

def isHiddenDeclaration (p : Program) (site : Option SiteId) : Bool :=
  p.hasKind [.constructorType, .functionType] site

def fileOfType (p : Program) (t : TypeInfo) : Option String :=
  (p.firstDeclaration t.symbol).bind p.fileOf

def modifiersOf (p : Program) (symbol : Option SymbolId) : Except Fault String :=
  match p.firstDeclaration symbol with
  | some site => (p.site site).modifiers.joined " "
  | none => .ok ""

def keyName (p : Program) (index : Option IndexId) : Except Fault String := do
  let fallback := "key"
  match index.bind fun id => (p.indexInfo id).declaration with
  | none => pure fallback
  | some site =>
    match (p.site site).parameters.slots with
    | [] => pure fallback
    | first :: _ =>
      let name := ((p.site (← present first)).name).getD ""
      pure (if name.isEmpty then fallback else name)

def constructorKey : String := "__constructor"

def constructorsOf (p : Program) (t : TypeInfo) : Except Fault (List (Option SiteId)) := do
  match t.symbol.bind fun symbol => Table.get? (p.symbol symbol).members constructorKey with
  | some held => (p.symbol (← present held)).declarations.each
  | none => pure []

def isOptional (p : Program) (symbol : SymbolId) : Bool := (p.symbol symbol).hasFlag .optional

def isPrototype (p : Program) (symbol : SymbolId) : Bool := (p.symbol symbol).hasFlag .prototype

end Program

end TypeAtlas
