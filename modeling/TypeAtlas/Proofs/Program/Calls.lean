import TypeAtlas.Program.Builder.Export

/-!
Programs that come about by calls of the builder, in any order and any number. A call is given
handles of records that are there, whichever call they came from; what a call that fails did before
it failed stays done.
-/

namespace TypeAtlas

open Build

def PropSpec.types (spec : PropSpec) : List (Option TypeId) := [spec.type]

def MethodSpec.types (spec : MethodSpec) : List (Option TypeId) :=
  spec.returns :: spec.parameters.map ParamSpec.type

namespace MemberSpec

def types : MemberSpec → List (Option TypeId)
  | plain type => [type]
  | prop spec => spec.types
  | method spec => spec.types

def typeParameters : MemberSpec → List (Option TypeId)
  | method spec => spec.typeParameters
  | _ => []

end MemberSpec

def memberTypes (specs : Table String MemberSpec) : List (Option TypeId) :=
  specs.flatMap fun (_, spec) => spec.types

def memberParameters (specs : Table String MemberSpec) : List (Option TypeId) :=
  specs.flatMap fun (_, spec) => spec.typeParameters

def IndexSpec.typeOf (spec : Option IndexSpec) : Option TypeId := spec.bind IndexSpec.type

namespace Build

def CallSpec.types (spec : CallSpec) : List (Option TypeId) :=
  spec.returns :: spec.parameters.map ParamSpec.type

def InterfaceSpec.types (spec : InterfaceSpec) : List (Option TypeId) :=
  IndexSpec.typeOf spec.stringIndex :: IndexSpec.typeOf spec.numberIndex ::
    (spec.bases ++ memberTypes spec.members)

def ClassSpec.types (spec : ClassSpec) : List (Option TypeId) :=
  spec.base :: (spec.implemented ++ memberTypes spec.members ++ memberTypes spec.statics ++
    spec.constructors.flatten.map ParamSpec.type)

/-- A mapped type that has a key and no value yet. -/
structure MappedDraft.Open (draft : MappedDraft) (p : Program) : Prop where
  kind : (p.site draft.site).kind = .mappedType
  empty : (p.site draft.site).type = none
  declared : (p.symbol draft.symbol).declarations = Slots.of [draft.site]
  structural : (p.symbol draft.symbol).flags = [.typeLiteral]
  key : (p.type draft.key).flags = [.typeParameter]

end Build

/-- The calls of the builder. The value of a mapped type may be built by calls of its own, so the
type is opened and closed by different calls. -/
inductive Call where
  | literal (value : Option Literal)
  | bigintLiteral (digits : Option String)
  | union (types : List (Option TypeId))
  | intersection (types : List (Option TypeId))
  | tuple (elements : List (Option TypeId))
  | keyof (operand : Option TypeId)
  | indexedAccess (objectType indexType : Option TypeId)
  | conditional (checkType extendsType trueType falseType : Option TypeId)
  | substitution (baseType : Option TypeId)
  | typeParameter (name : String) (constraint default : Option TypeId)
  | infer (name : String)
  | instantiate (generic : Option TypeId) (arguments : List (Option TypeId))
  | instantiateAlias (aliased : Option TypeId) (arguments : List (Option TypeId))
  | interface (spec : InterfaceSpec)
  | classType (spec : ClassSpec)
  | addMembers (target : Option TypeId) (specs : Table String MemberSpec)
  | aliasType (header : Header) (aliased : Option TypeId) (typeParameters : List (Option TypeId))
  | enumeration (spec : EnumSpec)
  | function (header : Header) (spec : CallSpec)
  | functionType (spec : CallSpec)
  | constructorType (parameters : List ParamSpec) (returns : Option TypeId) (parent : Option SiteId)
      (fileName : Option String)
  | callSignature (spec : CallSpec)
  | objectLiteral (specs : Table String MemberSpec) (callSignatures : List (Option SignatureId))
      (stringIndex numberIndex : Option IndexSpec)
  | openMapped (key : String) (constraint : Option TypeId) (optional : Bool)
  | closeMapped (draft : MappedDraft) (value : Option TypeId)
  | variableOf (header : Header) (type initializer : Option TypeId)
  | namespaceOf (name : String) (fileName : Option String)
  | addExport (symbol : Option SymbolId)
  | defaultExport (target : DefaultTarget) (doc : Option String)
  | defaultFunction (spec : CallSpec) (doc : Option String)
  | writtenType (type : Option TypeId) (parent : Option SiteId)

namespace Call

def step : Call → Build Unit
  | literal value => discard (Build.literal value)
  | bigintLiteral digits => discard (Build.bigintLiteral digits)
  | union types => discard (Build.union types)
  | intersection types => discard (Build.intersection types)
  | tuple elements => discard (Build.tuple elements)
  | keyof operand => discard (Build.keyof operand)
  | indexedAccess objectType indexType => discard (Build.indexedAccess objectType indexType)
  | conditional checkType extendsType trueType falseType =>
    discard (Build.conditional checkType extendsType trueType falseType)
  | substitution baseType => discard (Build.substitution baseType)
  | typeParameter name constraint default => discard (Build.typeParameter name constraint default)
  | infer name => discard (Build.infer name)
  | instantiate generic arguments => discard (Build.instantiate generic arguments)
  | instantiateAlias aliased arguments => discard (Build.instantiateAlias aliased arguments)
  | interface spec => discard (Build.interface spec)
  | classType spec => discard (Build.classType spec)
  | addMembers target specs => discard (Build.addMembers target specs)
  | aliasType header aliased typeParameters =>
    discard (Build.aliasType header aliased typeParameters)
  | enumeration spec => discard (Build.enumeration spec)
  | function header spec => discard (Build.function header spec)
  | functionType spec => discard (Build.functionType spec)
  | constructorType parameters returns parent fileName =>
    discard (Build.constructorType parameters returns parent fileName)
  | callSignature spec => discard (Build.callSignature spec)
  | objectLiteral specs callSignatures stringIndex numberIndex =>
    discard (Build.objectLiteral specs callSignatures stringIndex numberIndex)
  | openMapped key constraint optional => discard (Build.openMapped key constraint optional)
  | closeMapped draft value => discard (Build.closeMapped draft value)
  | variableOf header type initializer => discard (Build.variableOf header type initializer)
  | namespaceOf name fileName => discard (Build.namespaceOf name fileName)
  | addExport symbol => Build.addExport symbol
  | defaultExport target doc => discard (Build.defaultExport target doc)
  | defaultFunction spec doc => discard (Build.defaultFunction spec doc)
  | writtenType type parent => discard (Build.writtenType type parent)

def types : Call → List (Option TypeId)
  | literal _ | bigintLiteral _ | infer _ | namespaceOf _ _ | addExport _ | enumeration _ => []
  | union types | intersection types | tuple types => types
  | keyof type | substitution type | writtenType type _ => [type]
  | indexedAccess objectType indexType => [objectType, indexType]
  | conditional checkType extendsType trueType falseType =>
    [checkType, extendsType, trueType, falseType]
  | typeParameter _ constraint default => [constraint, default]
  | instantiate type arguments | instantiateAlias type arguments => type :: arguments
  | interface spec => spec.types
  | classType spec => spec.types
  | addMembers target specs => target :: memberTypes specs
  | aliasType _ aliased _ => [aliased]
  | function _ spec | functionType spec | callSignature spec | defaultFunction spec _ => spec.types
  | constructorType parameters returns _ _ => returns :: parameters.map ParamSpec.type
  | objectLiteral specs _ stringIndex numberIndex =>
    IndexSpec.typeOf stringIndex :: IndexSpec.typeOf numberIndex :: memberTypes specs
  | openMapped _ constraint _ => [constraint]
  | closeMapped _ value => [value]
  | variableOf _ type initializer => [type, initializer]
  | defaultExport (.type type) _ => [type]
  | defaultExport (.symbol _) _ => []

def typeParameters : Call → List (Option TypeId)
  | interface spec => spec.typeParameters ++ memberParameters spec.members
  | classType spec =>
    spec.typeParameters ++ memberParameters spec.members ++ memberParameters spec.statics
  | addMembers _ specs => memberParameters specs
  | aliasType _ _ typeParameters => typeParameters
  | function _ spec | functionType spec | callSignature spec => spec.typeParameters
  | objectLiteral specs _ _ _ => memberParameters specs
  | _ => []

def symbols : Call → List (Option SymbolId)
  | interface spec => [spec.enclosing]
  | addExport symbol => [symbol]
  | defaultExport (.symbol symbol) _ => [some symbol]
  | _ => []

def sites : Call → List (Option SiteId)
  | constructorType _ _ parent _ => [parent]
  | writtenType _ parent => [parent]
  | _ => []

def signatures : Call → List (Option SignatureId)
  | interface spec => spec.callSignatures
  | objectLiteral _ callSignatures _ _ => callSignatures
  | _ => []

/-- What a call is given is there. -/
structure Known (call : Call) (p : Program) : Prop where
  types : ∀ type, some type ∈ call.types ++ call.typeParameters → type.index < p.types.size
  symbols : ∀ symbol, some symbol ∈ call.symbols → symbol.index < p.symbols.size
  sites : ∀ site, some site ∈ call.sites → site.index < p.sites.size
  signatures : ∀ signature, some signature ∈ call.signatures → signature.index < p.signatures.size
  draft : ∀ draft value, call = closeMapped draft value → draft.Open p

/-- Whether what a call is given is there. A mapped type is only closed by the call that built its
value, so that is not asked here. -/
def isKnown (call : Call) (p : Program) : Bool :=
  (call.types ++ call.typeParameters).all (·.all (·.index < p.types.size)) &&
    call.symbols.all (·.all (·.index < p.symbols.size)) &&
    call.sites.all (·.all (·.index < p.sites.size)) &&
    call.signatures.all (·.all (·.index < p.signatures.size)) &&
    match call with
    | closeMapped _ _ => false
    | _ => true

theorem known_of_isKnown {call : Call} {p : Program} (checked : call.isKnown p = true) :
    call.Known p := by
  simp only [isKnown, Bool.and_eq_true, List.all_eq_true] at checked
  obtain ⟨⟨⟨⟨types, symbols⟩, sites⟩, signatures⟩, other⟩ := checked
  refine ⟨?_, ?_, ?_, ?_, ?_⟩
  · intro type member
    simpa using types (some type) member
  · intro symbol member
    simpa using symbols (some symbol) member
  · intro site member
    simpa using sites (some site) member
  · intro signature member
    simpa using signatures (some signature) member
  · rintro draft value rfl
    cases other

end Call

namespace Program

/-- The programs that calls of a kind build. -/
inductive Built (allowed : Call → Program → Prop) : Program → Prop
  | start (fileName : String) (lastId : Nat) : Built allowed (start fileName lastId)
  | call {p : Program} (call : Call) : Built allowed p → call.Known p → allowed call p →
      Built allowed (call.step p).2

theorem Built.weaken {allowed more : Call → Program → Prop} {p : Program} (built : Built allowed p)
    (wider : ∀ call p, allowed call p → more call p) : Built more p := by
  induction built with
  | start fileName lastId => exact .start fileName lastId
  | call call _ known allowed ih => exact .call call ih known (wider call _ allowed)

def takes (p : Program) (calls : List Call) : Program :=
  calls.foldl (fun p call => (call.step p).2) p

def passes (check : Call → Program → Bool) : List Call → Program → Bool
  | [], _ => true
  | call :: rest, p => call.isKnown p && check call p && passes check rest (call.step p).2

theorem built_takes {allowed : Call → Program → Prop} (check : Call → Program → Bool)
    (sound : ∀ call p, check call p = true → allowed call p) {calls : List Call} {p : Program}
    (built : Built allowed p) (passed : passes check calls p = true) : Built allowed (p.takes calls) := by
  induction calls generalizing p with
  | nil => exact built
  | cons call rest ih =>
      simp only [passes, Bool.and_eq_true] at passed
      obtain ⟨⟨known, checked⟩, passed⟩ := passed
      exact ih (.call call built (Call.known_of_isKnown known) (sound call p checked)) passed

end Program

end TypeAtlas
