import TypeAtlas.Program.Builder.Basic
import TypeAtlas.Proofs.Extract.Orderly
import TypeAtlas.Proofs.Program.Records

/-!
A program that exports something else, or the same in another order. No description of a type goes by
what the module exports.
-/

namespace TypeAtlas

namespace Program

def exporting (p : Program) (exports : List (Option SymbolId)) : Program :=
  (Build.setExports (some exports) p).2

variable {p : Program} {exports : List (Option SymbolId)}

theorem symbol_exporting (symbol : SymbolId) :
    ∃ held, (p.exporting exports).symbol symbol = { p.symbol symbol with exports := held } := by
  have modified : (p.exporting exports).symbol symbol =
      (p.modifySymbol p.moduleSymbol ({ · with exports := some exports })).symbol symbol := rfl
  rw [modified, symbol_modifySymbol]
  split
  · exact ⟨_, rfl⟩
  · exact ⟨_, rfl⟩

theorem symbol_exporting_of_ne {symbol : SymbolId} (other : symbol ≠ p.moduleSymbol) :
    (p.exporting exports).symbol symbol = p.symbol symbol := by
  have modified : (p.exporting exports).symbol symbol =
      (p.modifySymbol p.moduleSymbol ({ · with exports := some exports })).symbol symbol := rfl
  rw [modified, symbol_modifySymbol, if_neg fun same => other same.1]

theorem field_exporting {α : Type} (field : Symbol → α)
    (apart : ∀ (s : Symbol) (held : Slots SymbolId), field { s with exports := held } = field s)
    (symbol : SymbolId) : field ((p.exporting exports).symbol symbol) = field (p.symbol symbol) := by
  obtain ⟨held, same⟩ :
      ∃ held, (p.exporting exports).symbol symbol = { p.symbol symbol with exports := held } :=
    symbol_exporting symbol
  rw [same, apart]

theorem each_exporting {others : List (Option SymbolId)}
    (listed : (p.symbol p.moduleSymbol).exports.each = .ok exports) (permuted : exports.Perm others) :
    ((p.exporting others).symbol (p.exporting others).moduleSymbol).exports.each = .ok others := by
  have modified : (p.exporting others).symbol (p.exporting others).moduleSymbol =
      (p.modifySymbol p.moduleSymbol ({ · with exports := some others })).symbol p.moduleSymbol := rfl
  rw [modified, symbol_modifySymbol]
  split
  · rfl
  · rename_i outside
    have absent : p.symbol p.moduleSymbol = default :=
      p.symbol_of_size_le (Nat.le_of_not_lt fun inside => outside ⟨rfl, inside⟩)
    rw [absent] at listed ⊢
    cases listed
    rw [← permuted.nil_eq]
    rfl

section Fields

variable (symbol : SymbolId)

@[simp]
theorem name_exporting : ((p.exporting exports).symbol symbol).name = (p.symbol symbol).name :=
  field_exporting Symbol.name (fun _ _ => rfl) symbol

@[simp]
theorem id_exporting : ((p.exporting exports).symbol symbol).id = (p.symbol symbol).id :=
  field_exporting Symbol.id (fun _ _ => rfl) symbol

@[simp]
theorem hasFlag_exporting (flag : SymbolFlag) :
    ((p.exporting exports).symbol symbol).hasFlag flag = (p.symbol symbol).hasFlag flag :=
  field_exporting (·.hasFlag flag) (fun _ _ => rfl) symbol

@[simp]
theorem declarations_exporting :
    ((p.exporting exports).symbol symbol).declarations = (p.symbol symbol).declarations :=
  field_exporting Symbol.declarations (fun _ _ => rfl) symbol

@[simp]
theorem valueDeclaration_exporting :
    ((p.exporting exports).symbol symbol).valueDeclaration = (p.symbol symbol).valueDeclaration :=
  field_exporting Symbol.valueDeclaration (fun _ _ => rfl) symbol

@[simp]
theorem documentation_exporting :
    ((p.exporting exports).symbol symbol).documentation = (p.symbol symbol).documentation :=
  field_exporting Symbol.documentation (fun _ _ => rfl) symbol

@[simp]
theorem target_exporting : ((p.exporting exports).symbol symbol).target = (p.symbol symbol).target :=
  field_exporting Symbol.target (fun _ _ => rfl) symbol

@[simp]
theorem members_exporting : ((p.exporting exports).symbol symbol).members = (p.symbol symbol).members :=
  field_exporting Symbol.members (fun _ _ => rfl) symbol

@[simp]
theorem parent_exporting : ((p.exporting exports).symbol symbol).parent = (p.symbol symbol).parent :=
  field_exporting Symbol.parent (fun _ _ => rfl) symbol

@[simp]
theorem answers_exporting : ((p.exporting exports).symbol symbol).answers = (p.symbol symbol).answers :=
  field_exporting Symbol.answers (fun _ _ => rfl) symbol

@[simp]
theorem of?_exporting :
    RootKind.of? ((p.exporting exports).symbol symbol) = RootKind.of? (p.symbol symbol) :=
  field_exporting RootKind.of? (fun _ _ => rfl) symbol

@[simp]
theorem isTypeSymbol_exporting :
    RootKind.isTypeSymbol ((p.exporting exports).symbol symbol) = RootKind.isTypeSymbol (p.symbol symbol) :=
  field_exporting RootKind.isTypeSymbol (fun _ _ => rfl) symbol

end Fields

@[simp]
theorem site_exporting (site : SiteId) : (p.exporting exports).site site = p.site site := rfl

@[simp]
theorem type_exporting (type : TypeId) : (p.exporting exports).type type = p.type type := rfl

@[simp]
theorem signature_exporting (signature : SignatureId) :
    (p.exporting exports).signature signature = p.signature signature := rfl

@[simp]
theorem typeAt_exporting (site : Option SiteId) : (p.exporting exports).typeAt site = p.typeAt site := rfl

@[simp]
theorem typeWritten_exporting (site : Option SiteId) :
    (p.exporting exports).typeWritten site = p.typeWritten site := rfl

@[simp]
theorem signatureOf_exporting (site : Option SiteId) :
    (p.exporting exports).signatureOf site = p.signatureOf site := rfl

@[simp]
theorem hasKind_exporting (kinds : List SiteKind) (site : Option SiteId) :
    (p.exporting exports).hasKind kinds site = p.hasKind kinds site := rfl

@[simp]
theorem isTuple_exporting (t : TypeInfo) : (p.exporting exports).isTuple t = p.isTuple t := rfl

@[simp]
theorem indexOf_exporting (kind : IndexKind) (type : TypeId) :
    (p.exporting exports).indexOf kind type = p.indexOf kind type := rfl

@[simp]
theorem indexTypeOf_exporting (kind : IndexKind) (type : TypeId) :
    (p.exporting exports).indexTypeOf kind type = p.indexTypeOf kind type := rfl

@[simp]
theorem keyName_exporting (index : Option IndexId) :
    (p.exporting exports).keyName index = p.keyName index := rfl

@[simp]
theorem describeSite_exporting (site : Option SiteId) :
    (p.exporting exports).describeSite site = p.describeSite site := rfl

@[simp]
theorem firstDeclaration_exporting (symbol : Option SymbolId) :
    (p.exporting exports).firstDeclaration symbol = p.firstDeclaration symbol := by
  simp [firstDeclaration]

@[simp]
theorem describeType_exporting (type : TypeId) :
    (p.exporting exports).describeType type = p.describeType type := by
  simp [describeType, typeName?]

@[simp]
theorem describeSymbol_exporting (symbol : Option SymbolId) :
    (p.exporting exports).describeSymbol symbol = p.describeSymbol symbol := by
  cases symbol <;> simp [describeSymbol]

@[simp]
theorem declaredType_exporting (symbol : Option SymbolId) :
    (p.exporting exports).declaredType symbol = p.declaredType symbol := by
  cases symbol with
  | none => rfl
  | some symbol => simp [declaredType, symbolAnswers]

@[simp]
theorem valueTypeAt_exporting (symbol : Option SymbolId) (place : Option SiteId) :
    (p.exporting exports).valueTypeAt symbol place = p.valueTypeAt symbol place := by
  cases symbol with
  | none => rfl
  | some symbol => simp [valueTypeAt, symbolAnswers]

@[simp]
theorem comment_exporting (symbol : Option SymbolId) :
    (p.exporting exports).comment symbol = p.comment symbol := by
  cases symbol <;> simp [comment]

@[simp]
theorem modifiersOf_exporting (symbol : Option SymbolId) :
    (p.exporting exports).modifiersOf symbol = p.modifiersOf symbol := by
  simp [modifiersOf]

@[simp]
theorem constructorsOf_exporting (t : TypeInfo) :
    (p.exporting exports).constructorsOf t = p.constructorsOf t := by
  simp [constructorsOf]

@[simp]
theorem isNamedContainer_exporting (site : Option SiteId) :
    (p.exporting exports).isNamedContainer site = p.isNamedContainer site := by
  simp [isNamedContainer]

@[simp]
theorem fileOf_exporting : (p.exporting exports).fileOf = p.fileOf := by
  have fuelled (fuel : Nat) (site : SiteId) :
      (p.exporting exports).fileOfFrom fuel site = p.fileOfFrom fuel site := by
    induction fuel generalizing site with
    | zero => rfl
    | succ fuel ih => simp [fileOfFrom, ih]
  exact funext fun site => fuelled _ site

theorem size_exporting : (p.exporting exports).symbols.size = p.symbols.size :=
  Array.size_modify ..

@[simp]
theorem memberId_exporting (symbol : SymbolId) :
    (p.exporting exports).memberId symbol = p.memberId symbol := by
  have fuelled (fuel : Nat) (symbol : SymbolId) :
      (p.exporting exports).memberIdFrom fuel symbol = p.memberIdFrom fuel symbol := by
    induction fuel generalizing symbol with
    | zero => simp [memberIdFrom]
    | succ fuel ih => simp [memberIdFrom, ih]
  rw [memberId, size_exporting, fuelled, memberId]

@[simp]
theorem globalName_exporting (symbol : Option SymbolId) :
    (p.exporting exports).globalName symbol = p.globalName symbol := by
  have fuelled (fuel : Nat) (symbol : Option SymbolId) :
      (p.exporting exports).globalNamesFrom fuel symbol = p.globalNamesFrom fuel symbol := by
    induction fuel generalizing symbol with
    | zero => rfl
    | succ fuel ih => cases symbol <;> simp [globalNamesFrom, ih]
  rw [globalName, size_exporting, fuelled, globalName]

end Program

namespace Engine

def exporting (e : Engine) (exports : List (Option SymbolId)) : Engine :=
  { e with program := e.program.exporting exports }

variable {e : Engine} {exports : List (Option SymbolId)}

@[simp]
theorem program_exporting : (e.exporting exports).program = e.program.exporting exports := rfl

@[simp]
theorem settings_exporting : (e.exporting exports).settings = e.settings := rfl

@[simp]
theorem libraries_exporting : (e.exporting exports).libraries = e.libraries := rfl

@[simp]
theorem visit_exporting : (e.exporting exports).visit = e.visit := rfl

@[simp]
theorem visitNamed_exporting : (e.exporting exports).visitNamed = e.visitNamed := rfl

@[simp]
theorem visitInline_exporting : (e.exporting exports).visitInline = e.visitInline := rfl

@[simp]
theorem bodyOfType_exporting : (e.exporting exports).bodyOfType = e.bodyOfType := rfl

@[simp]
theorem bodyOfAlias_exporting : (e.exporting exports).bodyOfAlias = e.bodyOfAlias := rfl

@[simp]
theorem isAnonymous_exporting : (e.exporting exports).isAnonymous = e.isAnonymous := rfl

@[simp]
theorem visitPresent_exporting : (e.exporting exports).visitPresent = e.visitPresent := rfl

@[simp]
theorem visitAll_exporting : (e.exporting exports).visitAll = e.visitAll := rfl

@[simp]
theorem typeArguments_exporting (type : TypeId) :
    (e.exporting exports).typeArguments type = e.typeArguments type := rfl

@[simp]
theorem defaultTypeId_exporting (param : Option SiteId) :
    (e.exporting exports).defaultTypeId param = e.defaultTypeId param := by
  simp [defaultTypeId]

@[simp]
theorem trimDefaults_exporting (ids : List Int) (params : List (Option SiteId)) (types : List Node) :
    (e.exporting exports).trimDefaults ids params types = e.trimDefaults ids params types := by
  induction params generalizing types with
  | nil => rfl
  | cons param earlier ih => simp [trimDefaults, ih]

@[simp]
theorem argumentIds_exporting (type : TypeInfo) :
    (e.exporting exports).argumentIds type = e.argumentIds type := rfl

@[simp]
theorem normalizeArguments_exporting (type : TypeId) (params : Slots SiteId) (types : List Node)
    (name : String) : (e.exporting exports).normalizeArguments type params types name =
      e.normalizeArguments type params types name := by
  simp [normalizeArguments]

@[simp]
theorem includeRef_exporting (type : TypeId) (name : String) (live : Option TypeId) :
    (e.exporting exports).includeRef type name live = e.includeRef type name live := by
  simp [includeRef]

@[simp]
theorem makeRef_exporting (type : Option TypeId) (name : String) :
    (e.exporting exports).makeRef type name = e.makeRef type name := by
  simp only [makeRef, includeRef_exporting]
  rfl

@[simp]
theorem ensureNamed_exporting (type : Option TypeId) (name : String) :
    (e.exporting exports).ensureNamed type name = e.ensureNamed type name := by
  simp [ensureNamed]

@[simp]
theorem originOf_exporting (symbol : Option SymbolId) :
    (e.exporting exports).originOf symbol = e.originOf symbol := by
  simp [originOf]

@[simp]
theorem importName_exporting (symbol : SymbolId) (origin : Origin) (scope : ImportScope) :
    (e.exporting exports).importName symbol origin scope = e.importName symbol origin scope := by
  cases scope <;> simp [importName]

@[simp]
theorem bindImport_exporting (symbol : SymbolId) (origin : Origin) (scope : ImportScope) :
    (e.exporting exports).bindImport symbol origin scope = e.bindImport symbol origin scope := by
  simp [bindImport]

@[simp]
theorem externalName_exporting (symbol : Option SymbolId) :
    (e.exporting exports).externalName symbol = e.externalName symbol := by
  simp [externalName]

@[simp]
theorem containerFrom_exporting (hops : Nat) (site : Option SiteId) :
    (e.exporting exports).containerFrom hops site = e.containerFrom hops site := by
  induction hops generalizing site with
  | zero => rfl
  | succ hops ih => cases site <;> simp [containerFrom, ih]

@[simp]
theorem includeHidden_exporting : (e.exporting exports).includeHidden = e.includeHidden := by
  funext type
  simp [includeHidden, Program.isHiddenDeclaration]

@[simp]
theorem includeExternal_exporting (type : TypeId) :
    (e.exporting exports).includeExternal type = e.includeExternal type := by
  simp [includeExternal]

@[simp]
theorem makeAliasRef_exporting (type : TypeId) (name : String) :
    (e.exporting exports).makeAliasRef type name = e.makeAliasRef type name := by
  simp [makeAliasRef]

@[simp]
theorem keyofNode_exporting (operand : Option TypeId) :
    (e.exporting exports).keyofNode operand = e.keyofNode operand := rfl

@[simp]
theorem unionNode_exporting (types : List (Option TypeId)) :
    (e.exporting exports).unionNode types = e.unionNode types := rfl

@[simp]
theorem includeIndex_exporting (type : Option TypeId) :
    (e.exporting exports).includeIndex type = e.includeIndex type := rfl

@[simp]
theorem includeReference_exporting (type : TypeId) :
    (e.exporting exports).includeReference type = e.includeReference type := by
  simp [includeReference]

@[simp]
theorem includeCombinator_exporting : (e.exporting exports).includeCombinator = e.includeCombinator := by
  funext type
  simp [includeCombinator]

@[simp]
theorem includeWritten_exporting (site : Option SiteId) :
    (e.exporting exports).includeWritten site = e.includeWritten site := rfl

@[simp]
theorem includeWrittenOrInline_exporting (site : Option SiteId) :
    (e.exporting exports).includeWrittenOrInline site = e.includeWrittenOrInline site := rfl

@[simp]
theorem includeConstraint_exporting (type : TypeId) :
    (e.exporting exports).includeConstraint type = e.includeConstraint type := by
  simp only [includeConstraint, program_exporting, Program.firstDeclaration_exporting]
  rfl

@[simp]
theorem includeDefault_exporting (type : TypeId) :
    (e.exporting exports).includeDefault type = e.includeDefault type := by
  simp [includeDefault]

@[simp]
theorem includeTypeParameter_exporting :
    (e.exporting exports).includeTypeParameter = e.includeTypeParameter := by
  funext type
  simp [includeTypeParameter]

@[simp]
theorem includeTypeParameters_exporting (params : Slots TypeId) :
    (e.exporting exports).includeTypeParameters params = e.includeTypeParameters params := by
  simp [includeTypeParameters]

@[simp]
theorem declaredTypeParameters_exporting (site : SiteId) :
    (e.exporting exports).declaredTypeParameters site = e.declaredTypeParameters site := by
  simp [declaredTypeParameters]

@[simp]
theorem includeMember_exporting : (e.exporting exports).includeMember = e.includeMember := by
  funext type
  simp [includeMember]

@[simp]
theorem includeTerminal_exporting (info : TypeInfo) (terminal : Terminal) :
    (e.exporting exports).includeTerminal info terminal = e.includeTerminal info terminal := by
  cases terminal <;> simp [includeTerminal]

@[simp]
theorem includeBasic_exporting : (e.exporting exports).includeBasic = e.includeBasic := by
  funext type
  simp [includeBasic]

@[simp]
theorem baseName_exporting (site : SiteId) :
    (e.exporting exports).baseName site = e.baseName site := rfl

@[simp]
theorem includeBase_exporting : (e.exporting exports).includeBase = e.includeBase := rfl

@[simp]
theorem includeClauses_exporting (clauses : List HeritageClause) :
    (e.exporting exports).includeClauses clauses = e.includeClauses clauses := by
  induction clauses with
  | nil => rfl
  | cons clause rest ih => simp [includeClauses, ih]

@[simp]
theorem includeHeritage_exporting (type : TypeId) :
    (e.exporting exports).includeHeritage type = e.includeHeritage type := by
  simp [includeHeritage]

@[simp]
theorem livePropIds_exporting (live : Option TypeId) :
    (e.exporting exports).livePropIds live = e.livePropIds live := by
  simp [livePropIds]

@[simp]
theorem inheritedIdsFrom_exporting (registry : Registry) (fuel : Nat) (edges : List Node)
    (seen : List String) : (e.exporting exports).inheritedIdsFrom registry fuel edges seen =
      e.inheritedIdsFrom registry fuel edges seen := by
  induction fuel generalizing edges seen with
  | zero => rfl
  | succ fuel ih =>
      cases edges with
      | nil => rfl
      | cons edge rest => cases edge <;> simp [inheritedIdsFrom, ih]

@[simp]
theorem inheritedIds_exporting (registry : Registry) (edges : List Node) :
    (e.exporting exports).inheritedIds registry edges = e.inheritedIds registry edges := by
  simp [inheritedIds]

@[simp]
theorem inheritsIndex_exporting (edges : List Node) (kind : IndexKind) (indexType : TypeId) :
    (e.exporting exports).inheritsIndex edges kind indexType = e.inheritsIndex edges kind indexType := rfl

@[simp]
theorem includeAnnotation_exporting (site : Option SiteId) :
    includeAnnotation (e.exporting exports) site = e.includeAnnotation site := by
  unfold includeAnnotation
  simp [Program.isReferenceSite, Program.isInferSite]

@[simp]
theorem includeParameter_exporting : (e.exporting exports).includeParameter = e.includeParameter := by
  funext param
  simp [includeParameter]

@[simp]
theorem includeSignature_exporting : (e.exporting exports).includeSignature = e.includeSignature := by
  funext signature
  simp [includeSignature]

@[simp]
theorem includeConstructors_exporting (type : TypeId) :
    (e.exporting exports).includeConstructors type = e.includeConstructors type := by
  simp [includeConstructors]

@[simp]
theorem includePropValue_exporting (prop : SymbolId) :
    (e.exporting exports).includePropValue prop = e.includePropValue prop := by
  simp [includePropValue, Program.isMethodSite]

@[simp]
theorem includeProp_exporting (prop : SymbolId) :
    (e.exporting exports).includeProp prop = e.includeProp prop := by
  simp [includeProp, Program.isOptional]

@[simp]
theorem includeIndexMember_exporting (type value : TypeId) (kind : IndexKind) :
    (e.exporting exports).includeIndexMember type value kind = e.includeIndexMember type value kind := rfl

@[simp]
theorem includeOwnIndex_exporting (type : TypeId) (edges : List Node) (kind : IndexKind) :
    (e.exporting exports).includeOwnIndex type edges kind = e.includeOwnIndex type edges kind := rfl

@[simp]
theorem includeOwn_exporting (inherited : List Int) :
    (e.exporting exports).includeOwn inherited = e.includeOwn inherited := by
  funext prop
  simp [includeOwn]

@[simp]
theorem includeShape_exporting (type : TypeId) (heritage : Heritage) :
    (e.exporting exports).includeShape type heritage = e.includeShape type heritage := by
  simp [includeShape]

@[simp]
theorem includeStatic_exporting : (e.exporting exports).includeStatic = e.includeStatic := by
  funext member
  simp [includeStatic, Program.isPrototype]

@[simp]
theorem includeMapped_exporting (type : TypeId) :
    (e.exporting exports).includeMapped type = e.includeMapped type := by
  simp [includeMapped]

theorem unsupported_exporting (type : TypeId) :
    (e.exporting exports).unsupported type = e.unsupported type := by
  rw [unsupported, unsupported, program_exporting, Program.describeType_exporting,
    Program.type_exporting]

@[simp]
theorem firstOf_exporting (type : TypeId) (ways : List (TypeId → Extract (Option Node))) :
    (e.exporting exports).firstOf type ways = e.firstOf type ways := by
  induction ways with
  | nil => simp only [firstOf, unidentified, unsupported_exporting]
  | cons describe rest ih => simp only [firstOf, ih]

@[simp]
theorem nameOf_exporting (info : TypeInfo) : (e.exporting exports).nameOf info = e.nameOf info := by
  simp [nameOf]

@[simp]
theorem declaredName_exporting (site : SiteId) :
    (e.exporting exports).declaredName site = e.declaredName site := by
  simp [declaredName]

@[simp]
theorem exportedAlias_exporting (site written : SiteId) (name : String) :
    (e.exporting exports).exportedAlias site written name = e.exportedAlias site written name := by
  simp [exportedAlias]

@[simp]
theorem includeExportedAlias_exporting (site : SiteId) :
    (e.exporting exports).includeExportedAlias site = e.includeExportedAlias site := by
  simp [includeExportedAlias]

@[simp]
theorem exportedFunction_exporting (site : Option SiteId) (signature : Option SignatureId) :
    (e.exporting exports).exportedFunction site signature = e.exportedFunction site signature := by
  simp [exportedFunction]

@[simp]
theorem includeExportedFunction_exporting (site : Option SiteId) (name : String) :
    (e.exporting exports).includeExportedFunction site name = e.includeExportedFunction site name := by
  simp [includeExportedFunction]

/-- No class is the module itself, whose symbol has the exports. -/
def ModuleApart (e : Engine) : Prop :=
  ∀ type, (e.program.type type).isClass = true →
    (e.program.type type).symbol ≠ some e.program.moduleSymbol

section Apart

variable (apart : e.ModuleApart)
include apart

theorem includeObject_exporting : (e.exporting exports).includeObject = e.includeObject := by
  funext type
  cases known : (e.program.type type).isClass with
  | false => simp [includeObject, known]
  | true =>
      have classes : (e.exporting exports).includeClass type = e.includeClass type := by
        cases held : (e.program.type type).symbol with
        | none => simp [includeClass, held]
        | some symbol =>
            have other : symbol ≠ e.program.moduleSymbol := fun same => apart type known (same ▸ held)
            simp [includeClass, held, Program.symbol_exporting_of_ne other]
      simp [includeObject, classes]

theorem includeNamed_exporting (type : TypeId) :
    (e.exporting exports).includeNamed type = e.includeNamed type := by
  simp [includeNamed, includeObject_exporting apart]

theorem includeInline_exporting : (e.exporting exports).includeInline = e.includeInline := by
  funext type
  simp [includeInline, includeObject_exporting apart]

theorem includeKnown_exporting (type : TypeId) (name : Option String) :
    (e.exporting exports).includeKnown type name = e.includeKnown type name := by
  simp [includeKnown, includeInline_exporting apart]

theorem includeType_exporting (type : TypeId) :
    (e.exporting exports).includeType type = e.includeType type := by
  simp [includeType, includeKnown_exporting apart]

theorem aliasBody_exporting (site : SiteId) : (e.exporting exports).aliasBody site = e.aliasBody site := by
  simp [aliasBody, includeInline_exporting apart]

omit apart in
theorem within_exporting (apart : e.ModuleApart) (depth : Nat) :
    (e.exporting exports).within depth = (e.within depth).exporting exports := by
  induction depth with
  | zero => rfl
  | succ depth ih =>
      have inner : (e.within depth).ModuleApart := by
        intro type known
        rw [program_within] at known ⊢
        exact apart type known
      simp only [within, ih, includeType_exporting inner, includeKnown_exporting inner,
        includeInline_exporting inner]
      rfl

theorem withEntries_exporting (depth entries : Nat) :
    (e.exporting exports).withEntries depth entries = (e.withEntries depth entries).exporting exports := by
  induction entries with
  | zero => rfl
  | succ entries ih =>
      have outer : (e.withEntries depth entries).ModuleApart := by
        intro type known
        rw [program_withEntries] at known ⊢
        exact apart type known
      have inner : ((e.withEntries depth entries).within depth).ModuleApart := by
        intro type known
        rw [program_within] at known ⊢
        exact outer type known
      simp only [withEntries, ih, within_exporting outer, includeNamed_exporting inner,
        aliasBody_exporting inner]
      rfl

theorem includeExportedType_exporting (type : TypeId) :
    (e.exporting exports).includeExportedType type = e.includeExportedType type := by
  simp [includeExportedType, includeType_exporting apart]

theorem exportedValue_exporting (site : SiteId) (type : Option TypeId) :
    (e.exporting exports).exportedValue site type = e.exportedValue site type := by
  simp [exportedValue, includeType_exporting apart]

theorem includeExportedValue_exporting (site : SiteId) :
    (e.exporting exports).includeExportedValue site = e.includeExportedValue site := by
  simp [includeExportedValue, exportedValue_exporting apart]

theorem includeNamedDefault_exporting (symbol : SymbolId) :
    (e.exporting exports).includeNamedDefault symbol = e.includeNamedDefault symbol := by
  simp [includeNamedDefault, includeExportedType_exporting apart, includeExportedValue_exporting apart]

theorem exportedExpression_exporting (type : Option TypeId) :
    (e.exporting exports).exportedExpression type = e.exportedExpression type := by
  simp [exportedExpression, includeInline_exporting apart]

theorem defaultValue_exporting (site : SiteId) :
    (e.exporting exports).defaultValue site = e.defaultValue site := by
  simp [defaultValue, includeNamedDefault_exporting apart, exportedExpression_exporting apart]

theorem includeDefaultExport_exporting (site : SiteId) :
    (e.exporting exports).includeDefaultExport site = e.includeDefaultExport site := by
  simp [includeDefaultExport, defaultValue_exporting apart]

theorem includeRoot_exporting (symbol : SymbolId) (kind : RootKind) :
    (e.exporting exports).includeRoot symbol kind = e.includeRoot symbol kind := by
  simp [includeRoot, includeExportedType_exporting apart, includeExportedValue_exporting apart,
    includeDefaultExport_exporting apart]

theorem root_exporting : Extract.root (e.exporting exports) = Extract.root e := by
  have skipped (symbol : SymbolId) : Extract.rootSkipped ((e.program.exporting exports).symbol symbol) =
      Extract.rootSkipped (e.program.symbol symbol) :=
    Program.field_exporting Extract.rootSkipped (fun _ _ => rfl) symbol
  funext tally exported
  simp only [Extract.root, Extract.attempt, program_exporting, settings_exporting, skipped,
    Program.of?_exporting, Program.name_exporting, includeRoot_exporting apart]

end Apart

theorem start_exporting {p : Program} {settings : ExtractionSettings} {libraries : LibrarySettings}
    (apart : ModuleApart { program := p, settings, libraries }) :
    start (p.exporting exports) settings libraries = (start p settings libraries).exporting exports := by
  have depth : depthBound (p.exporting exports) = depthBound p := rfl
  have entries : entryBound (p.exporting exports) = entryBound p := by
    rw [entryBound, Program.size_exporting]
    rfl
  have bare : ({ program := p.exporting exports, settings, libraries } : Engine) =
      exporting { program := p, settings, libraries } exports := rfl
  have outer :
      (withEntries { program := p, settings, libraries } (depthBound p) (entryBound p)).ModuleApart := by
    intro type known
    rw [program_withEntries] at known ⊢
    exact apart type known
  rw [start, depth, entries, bare, withEntries_exporting apart, within_exporting outer, start]

end Engine

end TypeAtlas
