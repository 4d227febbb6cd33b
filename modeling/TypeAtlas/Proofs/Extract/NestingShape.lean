import TypeAtlas.Proofs.Extract.Nesting

/-!
Type parameters, signatures, members and the shapes made of them are described in steps that end, as long
as a type is gone into with as many levels as it is old.
-/

namespace TypeAtlas

namespace Engine

open Extract Build Program

variable {manner : Manner} {ages : Ages} {n k : Nat} {e : Engine}

section Steps

variable (tame : e.program.Tame manner ages e.settings) (reaches : e.Reaches manner ages n k)
include tame reaches

theorem ends_includeConstraint {type : TypeId}
    (fits : TypeFits manner ages e.program k (e.program.type type)) :
    Ends e.program.names n (e.includeConstraint type) := by
  unfold includeConstraint
  dsimp only
  split
  · rename_i written held
    obtain ⟨place, first, bound⟩ := Option.bind_eq_some_iff.mp held
    obtain ⟨symbol, has, first⟩ := Option.bind_eq_some_iff.mp first
    have young := ((tame.symbols symbol).first place first).1.2
    have isWritten := (((tame.sites place).constraint written bound).later young).later
      (fits.symbol symbol has).1.2
    split
    · rename_i operator
      have kind : (e.program.site written).kind = .keyofOperator := by
        simpa [isKeyofSite, hasKind] using operator
      refine ends_lift_bind (e.program.shallow_typeAt _) fun operand recorded => ?_
      refine ends_map some (ends_keyofNode reaches ?_)
      rintro id rfl
      obtain ⟨child, below⟩ := place_of_typeAt tame recorded
      rw [below] at recorded
      have legible : e.program.Legible manner ages k written :=
        legible_of_age tame isWritten.1.2 (by rw [kind]; decide)
      exact legible.child child below id recorded
    · refine ends_lift_bind (e.program.shallow_typeAt _) fun found recorded => ?_
      refine ends_map some (ends_visitPresent reaches ?_)
      rintro id rfl
      exact near_of_lt tame (older_of_written tame isWritten recorded)
  · split
    · rename_i bound held
      refine ends_map some (reaches.visit bound (near_of_part tame fits ?_))
      simp [TypeInfo.parts, held]
    · exact ends_pure none

theorem ends_includeDefault {type : TypeId}
    (fits : TypeFits manner ages e.program k (e.program.type type)) :
    Ends e.program.names n (e.includeDefault type) := by
  unfold includeDefault
  dsimp only
  split
  · rename_i written held
    obtain ⟨place, first, bound⟩ := Option.bind_eq_some_iff.mp held
    obtain ⟨symbol, has, first⟩ := Option.bind_eq_some_iff.mp first
    have young := ((tame.symbols symbol).first place first).1.2
    have isWritten := (((tame.sites place).default written bound).later young).later
      (fits.symbol symbol has).1.2
    refine ends_lift_bind (e.program.shallow_typeAt _) fun found recorded => ?_
    refine ends_map some (ends_visitPresent reaches ?_)
    rintro id rfl
    exact near_of_lt tame (older_of_written tame isWritten recorded)
  · exact ends_pure none

theorem ends_includeTypeParameters {params : Slots TypeId}
    (fits : ∀ param, some param ∈ params.slots →
      TypeFits manner ages e.program k (e.program.type param)) :
    Ends e.program.names n (e.includeTypeParameters params) := by
  refine ends_bind (ends_mapM fun param member => ?_) fun described => ends_pure _
  refine ends_lift_bind (shallow_present param) fun id found => ?_
  obtain rfl := of_present found
  have fits := fits id member
  unfold includeTypeParameter
  split
  · exact ends_pure none
  · refine ends_bind (ends_typeParameterRef _) fun parameter => ?_
    refine ends_bind (ends_includeConstraint tame reaches fits) fun constraint => ?_
    exact ends_bind (ends_includeDefault tame reaches fits) fun default => ends_pure _

theorem ends_declaredTypeParameters (full : e.program.types.size ≤ k) (site : SiteId) :
    Ends e.program.names n (e.declaredTypeParameters site) := by
  refine ends_lift_bind (shallow_each _) fun written _ => ?_
  rw [mapM_lift]
  refine ends_lift_bind (shallow_mapM fun param => e.program.shallow_typeAt param) fun params _ => ?_
  exact ends_includeTypeParameters tame reaches fun param _ => typeFits_of_full tame full param

theorem ends_includeParameter {param : Option SymbolId}
    (young : ∀ id, param = some id → ages.symbol id ≤ k) :
    Ends e.program.names n (e.includeParameter param) := by
  refine ends_lift_bind (shallow_present param) fun id found => ?_
  obtain rfl := of_present found
  dsimp only
  split
  · exact ends_diagnose _
  · rename_i site held
    obtain ⟨⟨-, age⟩, value⟩ := (tame.symbols id).place site held
    split
    · exact ends_diagnose _
    · rename_i written has
      have kind : (e.program.site site).kind ≠ .mappedType := by
        intro kind
        rw [kind] at value
        cases value
      have isWritten := (((tame.sites site).type kind written has).later age).later (young id rfl)
      have ends := ends_includeAnnotation tame reaches isWritten
      refine ends_bind ends fun value => ?_
      exact ends_lift (shallow_checked _)

theorem ends_includeSignature {signature : Option SignatureId}
    (young : ∀ id, signature = some id → ages.signature id ≤ k) :
    Ends e.program.names n (e.includeSignature signature) := by
  refine ends_lift_bind (shallow_present signature) fun id found => ?_
  obtain rfl := of_present found
  have young := young id rfl
  have fits := tame.signatures id
  refine ends_bind (ends_includeTypeParameters tame reaches fun param member => ?_) fun types => ?_
  · have older := (fits.typeParameters tame.disciplined param member).1
    exact (tame.types param).later (Nat.le_of_lt (Nat.lt_of_lt_of_le older young))
  · refine ends_lift_bind (shallow_each _) fun params listed => ?_
    refine ends_bind (ends_mapM fun param member => ends_includeParameter tame reaches ?_)
      fun parameters => ?_
    · rintro id rfl
      rw [← slots_of_each listed] at member
      exact Nat.le_trans (fits.parameters id member).2 young
    · refine ends_bind (ends_visitPresent reaches fun type held => ?_) fun returns => ends_pure _
      rcases fits.returns type held with older | nominal
      · exact near_of_lt tame (Nat.lt_of_lt_of_le older young)
      · exact Or.inl nominal

theorem ends_includePropValue {prop : SymbolId}
    (presentable : e.program.Presentable manner ages k prop) :
    Ends e.program.names n (e.includePropValue prop) := by
  unfold includePropValue
  dsimp only
  split
  · exact ends_diagnose _
  · rename_i site first
    split
    · refine ends_lift_bind (e.program.shallow_signatureOf _) fun signature recorded => ?_
      refine ends_bind (ends_includeSignature tame reaches ?_) fun callable => ends_pure _
      rintro id rfl
      have made := ((tame.sites site).signature id (answer_of_signatureOf recorded)).2
      have young := ((tame.symbols prop).first site first).1.2
      exact Nat.le_trans made (Nat.le_trans young presentable.young)
    · rename_i other
      rw [Bool.or_eq_true, not_or, Bool.not_eq_true, Bool.not_eq_true] at other
      refine ends_bind (ends_includeWritten tame reaches ?_) fun written => ?_
      · intro child held
        exact presentable.legible site first child held
      · split
        · exact ends_pure _
        · refine ends_lift_bind (e.program.shallow_valueTypeAt _ _) fun type recorded => ?_
          refine ends_visitPresent reaches ?_
          rintro id rfl
          exact presentable.near_of_valueTypeAt first other.2 recorded

theorem ends_includeProp {prop : SymbolId}
    (presentable : e.program.Presentable manner ages k prop) :
    Ends e.program.names n (e.includeProp prop) := by
  refine ends_lift_bind (e.program.shallow_modifiersOf _) fun modifiers _ => ?_
  refine ends_lift_bind (e.program.shallow_comment _) fun comment _ => ?_
  exact ends_bind (ends_includePropValue tame reaches presentable) fun value => ends_pure _

theorem ends_includeOwnIndex {type : TypeId}
    (fits : TypeFits manner ages e.program k (e.program.type type)) (edges : List Node)
    (kind : IndexKind) : Ends e.program.names n (e.includeOwnIndex type edges kind) := by
  unfold includeOwnIndex
  split
  · exact ends_pure []
  · rename_i value held
    split
    · exact ends_pure []
    · obtain ⟨index, stands, typed⟩ := Option.bind_eq_some_iff.mp held
      have declared : (e.program.type type).stringIndex = some index ∨
          (e.program.type type).numberIndex = some index := by
        cases kind with
        | string => exact Or.inl stands
        | number => exact Or.inr stands
      have young := (fits.indexes index declared).2
      have near := near_of_lt tame (Nat.lt_of_lt_of_le (tame.indexes index value typed) young)
      have member : Ends e.program.names n (e.includeIndexMember type value kind) := by
        refine ends_lift_bind (e.program.shallow_keyName _) fun name _ => ?_
        exact ends_bind (reaches.visit value near) fun value => ends_pure _
      exact ends_bind member fun node => ends_pure _

/-- With all levels left everything is near, and otherwise only what is neither interface nor class is
written out. -/
def Written (e : Engine) (k : Nat) (type : TypeId) : Prop :=
  e.program.types.size ≤ k ∨
    (e.program.type type).isNominal = false ∧
      ((e.program.type type).isReference && (e.program.type type).symbol.isSome) = false

theorem ends_includeHeritage {type : TypeId}
    (fits : TypeFits manner ages e.program k (e.program.type type)) (written : e.Written k type) :
    Ends e.program.names n (e.includeHeritage type) := by
  unfold includeHeritage
  dsimp only
  split
  · rename_i site first
    split
    · rename_i declares
      obtain ⟨symbol, held, place⟩ := Option.bind_eq_some_iff.mp first
      rcases written with full | ⟨structural, plain⟩
      · have base (site : Option SiteId) : Ends e.program.names n (e.includeBase site) := by
          refine ends_lift_bind (e.program.shallow_typeAt site) fun base _ => ?_
          refine ends_bind (ends_visitPresent reaches fun id _ => near_of_full tame full id) fun node => ?_
          split
          · exact ends_pure _
          · refine ends_lift_bind (shallow_present site) fun place _ => ?_
            split
            · exact ends_pure _
            · split
              · exact ends_pure _
              · refine ends_bind (ends_isRegistered _) fun present => ?_
                dsimp only
                split
                · exact ends_bind (ends_set _ _) fun _ => ends_pure _
                · exact ends_pure _
        have clauses (clauses : List HeritageClause) :
            Ends e.program.names n (e.includeClauses clauses) := by
          induction clauses with
          | nil => exact ends_pure _
          | cons clause rest ih =>
              refine ends_bind (ends_mapM fun site _ => base site) fun items => ?_
              refine ends_bind ih fun others => ?_
              cases clause.token <;> exact ends_pure _
        exact clauses _
      · -- a declared symbol that is neither that of its own type nor that of an instantiation
        exfalso
        have stands := ((tame.symbols symbol).first site place).2
        have kinds : (e.program.site site).kind = .interfaceDeclaration ∨
            (e.program.site site).kind = .classDeclaration := by
          simpa [hasKind] using declares
        have nominal : (e.program.symbol symbol).isNominal = true := by
          rcases kinds with kind | kind <;> rw [kind] at stands <;> exact stands
        obtain ⟨flags, declared | reference⟩ := fits.declared symbol held nominal
        · rw [structural] at declared
          cases declared
        · rw [held, TypeInfo.isReference, TypeInfo.isObject, TypeInfo.hasFlag, TypeInfo.hasObjectFlag,
            flags, reference] at plain
          cases plain
    · exact ends_pure _
  · exact ends_pure _

theorem ends_includeShape {type : TypeId}
    (fits : TypeFits manner ages e.program k (e.program.type type)) (written : e.Written k type)
    (heritage : Heritage) : Ends e.program.names n (e.includeShape type heritage) := by
  have presentable (prop : SymbolId) (member : some prop ∈ (e.program.type type).properties.slots) :
      e.program.Presentable manner ages k prop := by
    rcases written with full | ⟨structural, -⟩
    · exact presentable_of_full tame full
    · exact presentable_of_member tame (fits.properties tame.disciplined structural prop member).2
        (fits.members prop member)
  have params (param : TypeId) (member : some param ∈ (e.program.type type).typeParameters.slots) :
      TypeFits manner ages e.program k (e.program.type param) := by
    rcases written with full | ⟨structural, -⟩
    · exact typeFits_of_full tame full param
    · rw [fits.typeParameters structural] at member
      cases member
  refine ends_bind ends_get fun w => ?_
  refine ends_lift_bind (e.shallow_inheritedIds _ _) fun inherited _ => ?_
  refine ends_lift_bind (shallow_each _) fun properties listed => ?_
  refine ends_bind (ends_mapM fun prop member => ?_) fun props => ?_
  · refine ends_lift_bind (shallow_present prop) fun id found => ?_
    obtain rfl := of_present found
    rw [← slots_of_each listed] at member
    split
    · exact ends_pure []
    · exact ends_bind (ends_includeProp tame reaches (presentable id member)) fun node => ends_pure _
  refine ends_bind (ends_includeOwnIndex tame reaches fits _ _) fun numberIndex => ?_
  refine ends_bind (ends_includeOwnIndex tame reaches fits _ _) fun stringIndex => ?_
  refine ends_lift_bind (shallow_each _) fun signatures listed => ?_
  refine ends_bind (ends_mapM fun signature member => ?_) fun calls => ?_
  · refine ends_bind (ends_includeSignature tame reaches ?_) fun callable => ends_pure _
    rintro id rfl
    rw [← slots_of_each listed] at member
    exact (fits.calls id member).2
  refine ends_lift_bind (e.program.shallow_comment _) fun comment _ => ?_
  exact ends_bind (ends_includeTypeParameters tame reaches params) fun types => ends_pure _

/-- A class is only written out with all levels left. -/
theorem ends_includeClass (full : e.program.types.size ≤ k) (type : TypeId) :
    Ends e.program.names n (e.includeClass type) := by
  have fits := typeFits_of_full tame full type
  have static (member : Option SymbolId) : Ends e.program.names n (e.includeStatic member) := by
    refine ends_lift_bind (shallow_present member) fun member _ => ?_
    split
    · refine ends_bind (ends_includeProp tame reaches ?_) fun node => ends_pure _
      exact presentable_of_full tame full
    · exact ends_pure []
  have construct (site : Option SiteId) : Ends e.program.names n (do
      let callable ← e.includeSignature (← e.program.signatureOf site)
      pure (Node.construct callable)) := by
    refine ends_lift_bind (e.program.shallow_signatureOf site) fun signature _ => ?_
    refine ends_bind (ends_includeSignature tame reaches fun id _ => ?_) fun callable => ends_pure _
    exact Nat.le_trans (tame.signature id) full
  have rest (exported : List (Option SymbolId)) (shape : Node.Shape Node) (heritage : Heritage) :
      Ends e.program.names n (do
        let statics ← exported.mapM e.includeStatic
        let constructors ← e.includeConstructors type
        pure (Node.classShape { shape with props := shape.props ++ statics.flatten ++ constructors }
          heritage.implemented)) := by
    refine ends_bind (ends_mapM fun member _ => static member) fun statics => ?_
    refine ends_bind ?_ fun constructors => ends_pure _
    refine ends_lift_bind (e.program.shallow_constructorsOf _) fun sites _ => ?_
    exact ends_mapM fun site _ => construct site
  refine ends_bind (ends_includeHeritage tame reaches fits (Or.inl full)) fun heritage => ?_
  refine ends_bind (ends_includeShape tame reaches fits (Or.inl full) heritage) fun shape => ?_
  dsimp only
  split
  · exact ends_lift_bind (shallow_each _) fun exported _ => rest exported shape heritage
  · rw [pure_bind]
    exact rest [] shape heritage

theorem ends_includeMapped {type : TypeId}
    (fits : TypeFits manner ages e.program k (e.program.type type))
    (mapped : (e.program.type type).isMapped = true) :
    Ends e.program.names n (e.includeMapped type) := by
  rw [TypeInfo.isMapped, Bool.and_eq_true] at mapped
  obtain ⟨symbol, place, below, param, held, _, first, _, typed, isWritten, keyed, _⟩ :=
    fits.mapped mapped.2
  unfold includeMapped
  dsimp only
  split
  · rename_i key site isKey isFirst
    split
    · rename_i keySymbol written named hasType
      rw [held] at isFirst
      obtain rfl : place = site := Option.some.inj (first.symm.trans isFirst)
      obtain rfl : below = written := Option.some.inj (typed.symm.trans hasType)
      have older := fits.parts key (by simp [TypeInfo.parts, isKey])
      have keyFits := (tame.types key).later (Nat.le_of_lt older)
      refine ends_bind (ends_declareLocal _) fun _ => ?_
      refine ends_lift_bind (e.program.shallow_typeWritten _) fun value recorded => ?_
      refine ends_lift_bind (e.program.shallow_comment _) fun comment _ => ?_
      refine ends_bind (ends_includeConstraint tame reaches keyFits) fun constraint => ?_
      refine ends_bind (ends_visitPresent reaches ?_) fun value => ?_
      · rintro id rfl
        have recorded := typeAt_of_typeWritten recorded
        exact near_of_lt tame (older_of_written tame isWritten recorded)
      · exact ends_lift_bind (shallow_checked _) fun optional _ => ends_pure _
    · exact ends_diagnose _
  · exact ends_diagnose _

theorem ends_includeObject {type : TypeId}
    (fits : TypeFits manner ages e.program k (e.program.type type)) (written : e.Written k type) :
    Ends e.program.names n (e.includeObject type) := by
  unfold includeObject
  dsimp only
  split
  · exact ends_pure none
  · split
    · rename_i mapped
      exact ends_map some (ends_includeMapped tame reaches fits mapped)
    · split
      · rename_i isClass
        rcases written with full | ⟨structural, -⟩
        · exact ends_map some (ends_includeClass tame reaches full type)
        · exfalso
          rw [TypeInfo.isClass, Bool.and_eq_true] at isClass
          rw [TypeInfo.isNominal, isClass.2, Bool.or_true] at structural
          cases structural
      · refine ends_bind (ends_includeHeritage tame reaches fits written) fun heritage => ?_
        exact ends_bind (ends_includeShape tame reaches fits written heritage) fun shape => ends_pure _

omit tame reaches in
theorem ends_firstOf (type : TypeId) (describes : List (TypeId → Extract (Option Node)))
    (each : ∀ describe ∈ describes, Ends e.program.names n (describe type)) :
    Ends e.program.names n (e.firstOf type describes) := by
  induction describes with
  | nil =>
      refine ends_bind (ends_modify fun w name known => known) fun _ => ?_
      exact ends_bind (ends_emit _) fun _ => ends_pure _
  | cons describe rest ih =>
      refine ends_bind (each describe (by simp)) fun described => ?_
      cases described with
      | some node => exact ends_pure node
      | none => exact ih fun later member => each later (by simp [member])

omit tame reaches in
/-- An instantiation is never left to be written out. -/
theorem includeCombinator_some {type : TypeId}
    (reference : ((e.program.type type).isReference && (e.program.type type).symbol.isSome) = true)
    {w after : Walk} : e.includeCombinator type w ≠ (.ok none, after) := by
  intro ran
  unfold includeCombinator at ran
  dsimp only at ran
  rw [reference] at ran
  split at ran
  · obtain ⟨nodes, between, _, ran⟩ := of_bind_ok ran
    cases ran
  · rw [if_pos rfl, map_eq] at ran
    obtain ⟨node, between, _, ran⟩ := of_bind_ok ran
    cases ran

theorem ends_includeInline {type : TypeId}
    (fits : TypeFits manner ages e.program k (e.program.type type))
    (structural : e.program.types.size ≤ k ∨ (e.program.type type).isNominal = false) :
    Ends e.program.names n (e.includeInline type) := by
  have basic := ends_includeBasic tame reaches fits
  have combined := ends_includeCombinator tame reaches fits
  have hidden := ends_includeHidden tame reaches fits
  cases reference : (e.program.type type).isReference && (e.program.type type).symbol.isSome with
  | false =>
      have object := ends_includeObject tame reaches fits
        (structural.imp_right fun structural => ⟨structural, reference⟩)
      apply ends_firstOf
      simp only [List.mem_cons, List.not_mem_nil, or_false, forall_eq_or_imp, forall_eq]
      exact ⟨basic, combined, hidden, object⟩
  | true =>
      refine ends_bind basic fun described => ?_
      cases described with
      | some node => exact ends_pure node
      | none =>
          refine ends_bind_of combined fun described ran => ?_
          cases described with
          | some node => exact ends_pure node
          | none =>
              obtain ⟨w, after, ran⟩ := ran
              exact absurd ran (includeCombinator_some reference)

theorem ends_includeNamed (full : e.program.types.size ≤ k) (type : TypeId) :
    Ends e.program.names n (e.includeNamed type) := by
  have fits := typeFits_of_full tame full type
  apply ends_firstOf
  simp only [List.mem_cons, List.not_mem_nil, or_false, forall_eq_or_imp, forall_eq]
  exact ⟨ends_includeBasic tame reaches fits, ends_includeObject tame reaches fits (Or.inl full)⟩

theorem ends_aliasBody (full : e.program.types.size ≤ k) (site : SiteId) :
    Ends e.program.names n (e.aliasBody site) := by
  refine ends_lift_bind (e.program.shallow_comment _) fun comment _ => ?_
  refine ends_bind (ends_declaredTypeParameters tame reaches full site) fun types => ?_
  refine ends_lift_bind (e.program.shallow_typeAt _) fun type _ => ?_
  refine ends_lift_bind (shallow_present type) fun id _ => ?_
  have inline := ends_includeInline tame reaches (typeFits_of_full tame full id) (Or.inl full)
  exact ends_bind inline fun child => ends_pure _

end Steps

end Engine

end TypeAtlas
