import TypeAtlas.Extract.Root
import TypeAtlas.Proofs.Node.Mention

/-!
The type parameters that types use. What a type uses where it is referred to and where it is written out
is told by a usage; from that it follows, one construct at a time, what a declaration uses besides the
names that it binds itself.
-/

namespace TypeAtlas

/-- The names of the type parameters that types use: where they may be referred to by name, and where
they are written out in any case. -/
structure Usage where
  named : TypeId → List String
  inline : TypeId → List String

namespace Usage

variable (u : Usage)

def of (type : Option TypeId) : List String := type.elim [] u.named

def all (types : List (Option TypeId)) : List String := types.flatMap u.of

end Usage

namespace Program

variable (p : Program) (u : Usage)

def usesAt (site : Option SiteId) : List String := (p.siteAnswers site).type.elim [] u.of

def parameterName? (type : TypeId) : Option String :=
  (p.type type).symbol.map fun symbol => (p.symbol symbol).name

def parameterNames (params : List (Option TypeId)) : List String :=
  params.filterMap (·.bind p.parameterName?)

def constraintUses (type : TypeId) : List String :=
  match (p.firstDeclaration (p.type type).symbol).bind fun site => (p.site site).constraint with
  | some written =>
    if p.isKeyofSite (some written) then p.usesAt u (p.site written).type else p.usesAt u (some written)
  | none => u.of (p.type type).constraint

def defaultUses (type : TypeId) : List String :=
  match (p.firstDeclaration (p.type type).symbol).bind fun site => (p.site site).default with
  | some written => p.usesAt u (some written)
  | none => []

def boundUses (params : List (Option TypeId)) : List String :=
  params.reduceOption.flatMap fun type => p.constraintUses u type ++ p.defaultUses u type

def declaredParameters (site : SiteId) : List (Option TypeId) :=
  (p.site site).typeParameters.slots.map fun param => (p.siteAnswers param).type.join

def isSpelledOut (site : Option SiteId) : Bool := p.isKeyofSite site || p.isUnionSite site

def spelledUses (site : Option SiteId) : List String :=
  match site with
  | none => []
  | some id =>
    if p.isKeyofSite site then p.usesAt u (p.site id).type
    else (p.site id).types.slots.flatMap (p.usesAt u)

def placeUses (site : Option SiteId) : List String :=
  if p.isSpelledOut site then p.spelledUses u site
  else ((p.siteAnswers site).type.join).elim [] u.inline

def inferredAt (site : Option SiteId) : Option TypeId :=
  if p.isInferSite site then
    (site.bind fun id => (p.site id).typeParameter).bind fun declared =>
      (p.site declared).symbol.bind fun symbol => (p.symbol symbol).answers.declared.join
  else none

def inferredName? (site : Option SiteId) : Option String :=
  (p.inferredAt site).bind fun type =>
    if (p.type type).isTypeParameter && !(p.type type).isKeyof then p.parameterName? type else none

def annotationUses (site : Option SiteId) : List String :=
  if p.isReferenceSite site then p.usesAt u site
  else
    match p.inferredAt site with
    | some type => if (p.inferredName? site).isSome then [] else u.named type
    | none => p.placeUses u site

def annotationOf (param : SymbolId) : Option SiteId :=
  (p.symbol param).valueDeclaration.bind fun site => (p.site site).type

def signatureBinders (signature : Signature) : List String :=
  p.parameterNames signature.typeParameters.slots ++
    signature.parameters.slots.reduceOption.filterMap fun param => p.inferredName? (p.annotationOf param)

def signatureUses (id : SignatureId) : List String :=
  let signature := p.signature id
  let parts := p.boundUses u signature.typeParameters.slots ++
    signature.parameters.slots.reduceOption.flatMap
      (fun param => p.annotationUses u (p.annotationOf param)) ++
    u.of signature.returns
  parts.filter (· ∉ p.signatureBinders signature)

def callUses (signatures : List (Option SignatureId)) : List String :=
  signatures.reduceOption.flatMap (p.signatureUses u)

def signatureUsesAt (site : Option SiteId) : List String :=
  p.callUses u [(p.siteAnswers site).signature.join]

def memberUses (member : SymbolId) : List String :=
  match p.firstDeclaration (some member) with
  | none => []
  | some site =>
    if p.isMethodSite (some site) || (p.symbol member).hasFlag .method then
      p.signatureUsesAt u (some site)
    else if p.isSpelledOut (p.site site).type then p.spelledUses u (p.site site).type
    else
      match p.valueTypeAt (some member) (some site) with
      | .ok type => u.of type
      | .error _ => []

def heritageUses (type : TypeId) : List String :=
  match p.firstDeclaration (p.type type).symbol with
  | some site =>
    if p.hasKind [.interfaceDeclaration, .classDeclaration] (some site) then
      (p.site site).heritage.flatMap fun clause => clause.types.flatMap (p.usesAt u)
    else []
  | none => []

def staticUses (type : TypeId) : List String :=
  ((p.type type).symbol.elim [] fun symbol => (p.symbol symbol).exports.slots.reduceOption).flatMap
    fun member =>
      match p.isPrototype member, (p.symbol member).valueDeclaration with
      | false, some site => p.memberUses u ((p.site site).symbol.getD member)
      | _, _ => []

def constructorUses (type : TypeId) : List String :=
  match p.constructorsOf (p.type type) with
  | .ok sites => sites.flatMap (p.signatureUsesAt u)
  | .error _ => []

def mappedUses (type : TypeId) : List String :=
  match (p.type type).typeParameter, p.firstDeclaration (p.type type).symbol with
  | some key, some site =>
    (p.constraintUses u key ++ p.usesAt u (p.site site).type).filter
      fun name => p.parameterName? key != some name
  | _, _ => []

def indexUses (type : TypeId) (kind : IndexKind) : List String := u.of (p.indexTypeOf kind type)

def frameUses (type : TypeId) : List String :=
  let info := p.type type
  p.heritageUses u type ++ p.callUses u info.callSignatures.slots ++
    p.boundUses u info.typeParameters.slots ++
    if info.isClass then p.staticUses u type ++ p.constructorUses u type else []

/-- Which members and index signatures of a type are of interest. -/
structure Selection where
  member : SymbolId → Bool
  index : IndexKind → Bool

def Selection.all : Selection := ⟨fun _ => true, fun _ => true⟩

def own (type : TypeId) : Selection :=
  let isBelow (site : Option SiteId) : Bool :=
    match p.firstDeclaration (p.type type).symbol, site with
    | some place, some site => (p.site site).parent == some place
    | _, _ => false
  { member := fun member => isBelow (p.firstDeclaration (some member))
    index := fun kind => isBelow ((p.indexOf kind type).bind fun index => (p.indexInfo index).declaration) }

def objectUses (type : TypeId) (selection : Selection) : List String :=
  if (p.type type).isMapped then p.mappedUses u type
  else
    let members := (p.type type).properties.slots.reduceOption.filter selection.member
    let kinds := [IndexKind.number, .string].filter selection.index
    (p.frameUses u type ++ members.flatMap (p.memberUses u) ++ kinds.flatMap (p.indexUses u type)).filter
      (· ∉ p.parameterNames (p.type type).typeParameters.slots)

/-- A name that is used by something listed outside a selection. -/
inductive Repeats (type : TypeId) (selection : Selection) (listed : List Node) (name : String) : Prop
  | member {member : SymbolId} (held : some member ∈ (p.type type).properties.slots)
      (outside : selection.member member = false)
      (shown : ∃ node ∈ listed, node.memberId? = some (p.memberId member))
      (used : name ∈ p.memberUses u member)
  | index {kind : IndexKind} (outside : selection.index kind = false)
      (shown : ∃ node ∈ listed, node.isIndex = true) (used : name ∈ p.indexUses u type kind)

def terminalUses (type : TypeId) : List String :=
  let info := p.type type
  u.all [info.extendsType, info.checkType, info.trueType, info.falseType, info.baseType] ++
    if info.hasFlag .union && (info.hasFlag .enumLiteral || info.hasFlag .enum) then
      info.types.slots.reduceOption.flatMap u.inline
    else []

def exportedAliasUses (site written : SiteId) : List String :=
  (p.boundUses u (p.declaredParameters site) ++ p.annotationUses u (some written)).filter
    (· ∉ p.parameterNames (p.declaredParameters site) ++ (p.inferredName? (some written)).toList)

def functionUses (site : SiteId) : List String :=
  match (p.siteAnswers (some site)).type.join with
  | some type => p.callUses u ((p.type type).callSignatures.slots.take 1)
  | none => []

def valueUses (site : SiteId) : List String :=
  match (p.site site).type, (p.site site).initializer with
  | some written, _ => p.usesAt u (some written)
  | none, some expression => p.usesAt u (some expression)
  | none, none => []

def expressionUses (expression : SiteId) : List String :=
  match (p.siteAnswers (some expression)).type.join with
  | some type =>
    if (p.site expression).symbol.isSome then u.all (p.type type).arguments.slots else u.inline type
  | none => []

def rootUses (site : SiteId) : RootKind → List String
  | .default =>
    if (p.site site).kind = .functionDeclaration then p.functionUses u site
    else (p.site site).expression.elim [] (p.expressionUses u)
  | .named => (p.site site).type.elim [] (p.exportedAliasUses u site)
  | .function => p.functionUses u site
  | .type => []
  | .value => p.valueUses u site

end Program

namespace Engine

variable (e : Engine) (u : Usage)

def hiddenUses (type : TypeId) : List String :=
  match (e.program.type type).symbol with
  | none => []
  | some symbol =>
    let site := e.program.firstDeclaration (some symbol)
    if !e.isAnonymous (e.program.symbol symbol).name || !e.program.isHiddenDeclaration site ||
        (e.originOf symbol).scope? != some .module_ then []
    else
      match e.containerFrom e.settings.maxHops (site.bind fun id => (e.program.site id).parent) with
      | none => []
      | some container => (e.program.symbol container).answers.declared.elim [] u.of

/-- Whether a type is told as a combination of others, before it is told as an object. -/
def isCombined (type : TypeId) : Bool :=
  let info := e.program.type type
  e.program.isTuple info || info.isReference && info.symbol.isSome || info.isUnion ||
    info.isIntersection || info.isIndexedAccess

def writtenUses (type : TypeId) : List String :=
  let info := e.program.type type
  e.program.terminalUses u type ++ e.hiddenUses u type ++
    if e.isCombined type then
      u.all (info.arguments.slots ++ info.types.slots ++ [info.indexType, info.objectType])
    else if info.isObject then e.program.objectUses u type .all
    else []

def entryUses (type : TypeId) : List String :=
  e.program.terminalUses u type ++
    if (e.program.type type).isObject then e.program.objectUses u type (e.program.own type) else []

def isAliased (type : TypeId) : Bool :=
  let info := e.program.type type
  info.alias?.isSome && info.alias? != info.symbol

def isWrittenOut (type : TypeId) (name : Option String) : Bool :=
  (name.getD "").isEmpty || !e.isAliased type &&
    (e.isAnonymous (name.getD "") || (e.program.type type).isAnonymousObject)

/-- A type is known by a name: by that of its alias or symbol, or as it is written. -/
inductive Known (type : TypeId) : Option String → Prop
  | named : Known type (e.nameOf (e.program.type type))
  | written {site : SiteId} (reference : e.program.isReferenceSite (some site) = true)
      (denoted : e.program.typeAt (some site) = .ok (some type)) :
      Known type (e.program.site site).name

/-- A type may have its body built under a name. -/
inductive Enters (e : Engine) (type : TypeId) : String → Prop
  | known {name : String} (known : e.Known type (some name)) (unaliased : e.isAliased type = false)
      (named : e.isWrittenOut type (some name) = false) : Enters e type name
  | instantiated {symbol : SymbolId} (reference : (e.program.type type).isReference = true)
      (held : (e.program.type type).symbol = some symbol) :
      Enters e type (e.program.symbol symbol).name

/-- A usage tells of every type all that it uses: a type parameter its own name, a reference its
arguments, and what is written out all that it is made of. An infer variable is a type parameter like any
other: a conditional type uses the variables that its condition introduces. -/
structure Tells (e : Engine) (u : Usage) : Prop where
  parameter : ∀ type symbol, (e.program.type type).isTypeParameter = true →
    (e.program.type type).symbol = some symbol → (e.program.symbol symbol).name ∈ u.named type
  keyof : ∀ type operand, (e.program.type type).keyofOperand? = some operand →
    u.named operand ⊆ u.named type
  arguments : ∀ type, e.isAliased type = false →
    u.all (e.program.type type).arguments.slots ⊆ u.named type
  aliasArguments : ∀ type, e.isAliased type = true →
    u.all (e.program.type type).aliasArguments.slots ⊆ u.named type
  hidden : ∀ type, e.isAliased type = false → e.hiddenUses u type ⊆ u.named type
  writtenOut : ∀ type name, e.Known type name → e.isWrittenOut type name = true →
    u.inline type ⊆ u.named type
  inline : ∀ type, e.writtenUses u type ⊆ u.inline type

end Engine

end TypeAtlas
