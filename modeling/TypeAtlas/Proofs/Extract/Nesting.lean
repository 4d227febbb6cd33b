import TypeAtlas.Proofs.Extract.Ways
import TypeAtlas.Proofs.Program.Tame
import TypeAtlas.Proofs.Walk.Ending

/-!
The extractor goes from type to type in steps that end. A type is gone into with as many levels as it
is old, named types are not gone into but registered, and what is registered starts with all levels and
with one name less to go.
-/

namespace TypeAtlas

namespace Engine

open Extract Build Program

variable {manner : Manner} {ages : Ages} {n k : Nat}

def Titles (e : Engine) (type : TypeId) (name : Option String) : Prop :=
  (∀ given, name = some given → given.isEmpty = false → given ∈ e.program.names) ∧
    ((e.program.type type).isNominal = true →
      name = (e.program.type type).symbol.map fun symbol => (e.program.symbol symbol).name)

structure Begins (e : Engine) (n : Nat) : Prop where
  bodyOfType : ∀ type m, n = m + 1 → Ends e.program.names m (e.bodyOfType type)
  bodyOfAlias : ∀ site m, n = m + 1 → Ends e.program.names m (e.bodyOfAlias site)

structure Reaches (manner : Manner) (ages : Ages) (e : Engine) (n k : Nat) : Prop
    extends e.Begins n where
  visit : ∀ type, e.program.Near manner ages k type → Ends e.program.names n (e.visit type)
  visitNamed : ∀ type name, e.program.Near manner ages k type → e.Titles type name →
    Ends e.program.names n (e.visitNamed type name)
  visitInline : ∀ type, (e.program.type type).isNominal = false →
    (∃ i, i < k ∧ TypeFits manner ages e.program i (e.program.type type)) →
    Ends e.program.names n (e.visitInline type)

variable {e : Engine}

theorem ends_normalizeArguments (type : TypeId) (params : Slots SiteId) (types : List Node)
    (name : String) : Ends e.program.names n (e.normalizeArguments type params types name) := by
  refine ends_bind ends_get fun w => ?_
  refine ends_lift_bind (e.shallow_argumentIds _) fun ids _ => ?_
  refine ends_lift_bind (shallow_each params) fun params _ => ?_
  exact ends_lift (e.shallow_trimDefaults _ _ _)

theorem ends_typeParameterRef (name : String) : Ends e.program.names n (typeParameterRef name) :=
  ends_bind (ends_declareLocal name) fun _ => ends_pure _

theorem ends_bindImport (symbol : SymbolId) (origin : Origin) (scope : ImportScope) :
    Ends e.program.names n (e.bindImport symbol origin scope) := by
  have named : Ends e.program.names n (e.importName symbol origin scope) := by
    cases scope with
    | global => exact ends_pure _
    | lib => exact ends_pure _
    | module_ =>
        refine ⟨fun _ _ => nofun, fun w bound => ?_⟩
        exact Nat.le_trans (Walk.unmet_of_extends (Walk.extends_bind w _ _)) bound
  have registered (name : String) (node : Node) :
      Ends e.program.names n (registerImport name node) := by
    refine ends_bind ends_get fun w => ?_
    dsimp only
    split
    · exact ends_set name node
    · exact ends_pure ()
  refine ends_bind named fun name => ?_
  exact ends_bind (registered _ _) fun _ => ends_pure name

theorem ends_externalName (symbol : Option SymbolId) :
    Ends e.program.names n (e.externalName symbol) := by
  unfold externalName
  dsimp only
  split
  · exact ends_pure none
  · refine ends_lift_bind (shallow_present symbol) fun symbol _ => ?_
    split
    · exact ends_pure none
    · exact ends_map some (ends_bindImport _ _ _)

theorem around_of_containerFrom {inner : SiteId} {hops : Nat} {start : Option SiteId}
    {symbol : SymbolId} (found : e.containerFrom hops start = some symbol)
    (around : ∀ place, start = some place → e.program.Around inner place) :
    ∃ outer, e.program.Around inner outer ∧ e.program.isNamedContainer (some outer) = true ∧
      (e.program.site outer).symbol = some symbol := by
  induction hops generalizing start with
  | zero => cases found
  | succ hops ih =>
      cases start with
      | none => cases found
      | some place =>
          rw [containerFrom] at found
          split at found
          · rename_i named
            exact ⟨place, around place rfl, named, found⟩
          · apply ih found
            intro outer held
            exact .further (around place rfl) held

section Steps

variable (tame : e.program.Tame manner ages e.settings) (reaches : e.Reaches manner ages n k)
include tame reaches

omit reaches in
theorem near_of_part {t : TypeInfo} (fits : TypeFits manner ages e.program k t) {part : TypeId}
    (member : some part ∈ t.parts) : e.program.Near manner ages k part :=
  near_of_lt tame (fits.parts part member)

omit tame in
theorem ends_visitPresent {type : Option TypeId}
    (near : ∀ id, type = some id → e.program.Near manner ages k id) :
    Ends e.program.names n (e.visitPresent type) := by
  refine ends_lift_bind (shallow_present type) fun id found => ?_
  exact reaches.visit id (near id (of_present found))

omit tame in
theorem ends_visitAll {types : List (Option TypeId)}
    (near : ∀ id, some id ∈ types → e.program.Near manner ages k id) :
    Ends e.program.names n (e.visitAll types) := by
  refine ends_mapM fun type member => ends_visitPresent reaches ?_
  rintro id rfl
  exact near id member

theorem ends_typeArguments {type : TypeId}
    (fits : TypeFits manner ages e.program k (e.program.type type)) :
    Ends e.program.names n (e.typeArguments type) :=
  ends_visitAll reaches fun _ member => near_of_part tame fits (by simp [TypeInfo.parts, member])

omit reaches in
theorem ends_typeArguments_of_nominal {type : TypeId}
    (nominal : (e.program.type type).isNominal = true) :
    Ends e.program.names n (e.typeArguments type) := by
  obtain ⟨-, -, -, -, none, -⟩ := (tame.types type).nominal nominal
  rw [typeArguments, none]
  exact ends_pure []

omit tame reaches in
theorem ends_includeRef {type : TypeId} (arguments : Ends e.program.names n (e.typeArguments type))
    (name : String) (live : Option TypeId) :
    Ends e.program.names n (e.includeRef type name live) := by
  refine ends_bind arguments fun types => ?_
  refine ends_bind (ends_normalizeArguments _ _ _ _) fun kept => ?_
  exact ends_bind (ends_resolve _ _ _) fun ref => ends_pure _

omit tame reaches in
theorem ends_makeRef (begins : e.Begins n) {type : TypeId}
    (arguments : Ends e.program.names n (e.typeArguments type)) {name : String}
    (member : name ∈ e.program.names) : Ends e.program.names n (e.makeRef (some type) name) := by
  refine ends_bind (ends_register member fun m less => ?_) fun _ => ?_
  · exact ends_lift_bind (shallow_present _) fun id _ => begins.bodyOfType _ m less
  · refine ends_lift_bind (shallow_present _) fun id found => ?_
    cases found
    exact ends_includeRef arguments name none

omit tame reaches in
theorem ends_ensureNamed (begins : e.Begins n) {type : TypeId}
    (arguments : Ends e.program.names n (e.typeArguments type)) {name : String}
    (member : name ∈ e.program.names) : Ends e.program.names n (e.ensureNamed type name) := by
  refine ends_bind (ends_isRegistered name) fun present => ?_
  split
  · exact ends_pure ()
  · exact ends_map _ (ends_makeRef begins arguments member)

omit reaches in
/-- What a container declares is a named type, or an alias of something older than the type that is
written inside it. -/
theorem near_of_container {type : TypeId} (fits : TypeFits manner ages e.program k (e.program.type type))
    {symbol container : SymbolId} (held : (e.program.type type).symbol = some symbol)
    (hidden : e.program.isHiddenDeclaration (e.program.firstDeclaration (some symbol)) = true)
    (found : e.containerFrom e.settings.maxHops
      ((e.program.firstDeclaration (some symbol)).bind fun id => (e.program.site id).parent) =
        some container)
    {declared : TypeId} (declares : e.program.declaredType container = .ok (some declared)) :
    e.program.Near manner ages k declared := by
  have answer := answer_of_declaredType declares
  cases place : e.program.firstDeclaration (some symbol) with
  | none =>
      rw [place] at found
      cases settings : e.settings.maxHops <;> rw [settings] at found <;> cases found
  | some inner =>
      rw [place] at found hidden
      obtain ⟨outer, around, named, stands⟩ :=
        around_of_containerFrom found fun outer parent => Around.parent parent
      obtain ⟨young, suits⟩ := (tame.sites outer).symbol container stands
      have kinds : (e.program.site outer).kind ∈
          [SiteKind.interfaceDeclaration, .classDeclaration, .typeAlias] := by
        rw [isNamedContainer, Bool.and_eq_true] at named
        simpa [hasKind] using named.1
      have nominal (flagged : (e.program.symbol container).isNominal = true) :
          e.program.Near manner ages k declared :=
        Or.inl ((tame.symbols container).nominal flagged declared answer)
      simp only [List.mem_cons, List.not_mem_nil, or_false] at kinds
      rcases kinds with kind | kind | kind
      · rw [kind] at suits
        exact nominal suits
      · rw [kind] at suits
        exact nominal suits
      · rw [kind] at suits
        have aliased := (tame.symbols container).aliased suits declared answer
        have first := tame.aliases inner outer hidden around kind
        have order := tame.ordered outer inner (Nat.le_of_lt first)
        have written := ((tame.symbols symbol).first inner place).1.2
        have own := (fits.symbol symbol held).1.2
        apply near_of_lt tame
        exact Nat.lt_of_lt_of_le aliased
          (Nat.le_trans young.2 (Nat.le_trans order (Nat.le_trans written own)))

theorem ends_includeHidden {type : TypeId}
    (fits : TypeFits manner ages e.program k (e.program.type type)) :
    Ends e.program.names n (e.includeHidden type) := by
  unfold includeHidden
  dsimp only
  split
  · exact ends_pure none
  · rename_i symbol held
    split
    · exact ends_pure none
    · rename_i known
      simp only [Bool.or_eq_true, Bool.not_eq_true', not_or, Bool.not_eq_false] at known
      split
      · exact ends_pure none
      · rename_i container found
        refine ends_bind (ends_emit _) fun _ => ?_
        refine ends_lift_bind (e.program.shallow_declaredType _) fun declared declares => ?_
        refine ends_map some (ends_visitPresent reaches ?_)
        rintro id rfl
        exact near_of_container tame fits held known.1.2 found declares

omit reaches in
/-- Interfaces and classes are not hidden behind another name. -/
theorem ends_includeExternal {type : TypeId}
    (arguments : Ends e.program.names n (e.typeArguments type))
    (hidden : (e.program.type type).isNominal = false → Ends e.program.names n (e.includeHidden type)) :
    Ends e.program.names n (e.includeExternal type) := by
  unfold includeExternal
  dsimp only
  split
  · exact ends_pure none
  · rename_i symbol held
    split
    · exact ends_pure none
    · split
      · rename_i unnamed
        split
        · apply hidden
          cases nominal : (e.program.type type).isNominal with
          | false => rfl
          | true =>
              obtain ⟨other, same, known, -⟩ := name_of_nominal tame nominal
              rw [held] at same
              cases same
              have named := tame.named symbol known
              rw [isAnonymous] at named unnamed
              rw [named] at unnamed
              cases unnamed
        · exact ends_pure none
      · split
        · exact ends_pure none
        · refine ends_bind (ends_bindImport _ _ _) fun name => ?_
          exact ends_map some (ends_includeRef arguments _ _)

theorem ends_makeAliasRef {type : TypeId} {name : String} (member : name ∈ e.program.names)
    (fits : TypeFits manner ages e.program k (e.program.type type)) :
    Ends e.program.names n (e.makeAliasRef type name) := by
  have near (id : TypeId) (member : some id ∈ (e.program.type type).aliasArguments.slots) :
      e.program.Near manner ages k id := by
    rcases fits.aliasArguments tame.disciplined id member with older | parameter
    · exact near_of_lt tame older
    · exact Or.inr (Or.inl parameter)
  unfold makeAliasRef
  dsimp only
  split
  · rename_i site _ _
    have reference (name : String) : Ends e.program.names n (do
        let types ← e.visitAll (e.program.type type).aliasArguments.slots
        let types ← e.normalizeArguments type (e.program.site site).typeParameters types name
        pure (Node.ref { name, types })) := by
      refine ends_bind (ends_visitAll reaches near) fun types => ?_
      exact ends_bind (ends_normalizeArguments _ _ _ _) fun kept => ends_pure _
    refine ends_bind (ends_externalName _) fun bound => ?_
    split
    · rw [pure_bind]
      exact reference _
    · refine ends_bind (ends_register member (reaches.bodyOfAlias site)) fun _ => ?_
      rw [pure_bind]
      exact reference name
  · exact ends_diagnose _

/-- A type that is written out in place is made of older types, and has no name to go by. -/
theorem ends_includeMember {type : Option TypeId}
    (literal : ∀ id, type = some id → id.index < k ∧ (e.program.type id).isNominal = false) :
    Ends e.program.names n (e.includeMember type) := by
  refine ends_lift_bind (shallow_present type) fun id found => ?_
  obtain ⟨older, structural⟩ := literal id (of_present found)
  refine ends_bind (reaches.visitInline id structural ⟨id.index, older, tame.types id⟩) fun value => ?_
  exact ends_lift_bind (e.program.shallow_comment _) fun comment _ => ends_pure _

omit tame reaches in
theorem isEnumeration_of_ofFlags {t : TypeInfo} {terminal : Terminal}
    (found : Terminal.ofFlags? t.flags = some terminal)
    (enumerates : terminal = .enumLiteral ∨ terminal = .enumeration) : t.isEnumeration = true := by
  obtain ⟨rule, member, same, flagged⟩ := Terminal.flagged_of_ofFlags found
  have rules : ∀ rule ∈ Terminal.rules, rule.2 = .enumLiteral ∨ rule.2 = .enumeration →
      .enumLiteral ∈ rule.1 ∨ .enum ∈ rule.1 := by decide
  rw [TypeInfo.isEnumeration, Bool.or_eq_true]
  rw [← same] at enumerates
  exact (rules rule member enumerates).imp (flagged _) (flagged _)

theorem ends_includeTerminal {t : TypeInfo} (fits : TypeFits manner ages e.program k t)
    {terminal : Terminal} (found : Terminal.ofFlags? t.flags = some terminal) :
    Ends e.program.names n (e.includeTerminal t terminal) := by
  have part {type : Option TypeId} (member : type ∈ t.parts) :
      Ends e.program.names n (e.visitPresent type) := by
    refine ends_visitPresent reaches ?_
    rintro id rfl
    exact near_of_part tame fits member
  have members (enumerates : terminal = .enumLiteral ∨ terminal = .enumeration)
      (result : List (Node.Member Node) → Node) : Ends e.program.names n (do
        let values ← (← t.types.each).mapM e.includeMember
        pure (result values)) := by
    have flagged := isEnumeration_of_ofFlags found enumerates
    refine ends_lift_bind (shallow_each t.types) fun types listed => ?_
    refine ends_bind (ends_mapM fun type member => ?_) fun values => ends_pure _
    refine ends_includeMember tame reaches ?_
    rintro id rfl
    rw [← slots_of_each listed] at member
    refine ⟨fits.parts id (by simp [TypeInfo.parts, member]), ?_⟩
    exact structural_of_flag tame (by decide) (fits.enumerated flagged id member)
  cases terminal with
  | primitive kind => exact ends_pure _
  | literal =>
      unfold includeTerminal
      cases t.value with
      | none => exact ends_fail (by rintro ⟨⟩)
      | some value => exact ends_pure _
  | truth => exact ends_pure _
  | enumLiteral =>
      refine ends_lift_bind (e.program.shallow_comment _) fun comment _ => ?_
      exact members (Or.inl rfl) _
  | enumeration =>
      refine ends_lift_bind (e.program.shallow_comment _) fun comment _ => ?_
      exact members (Or.inr rfl) _
  | bigintLiteral => exact ends_pure _
  | conditional =>
      refine ends_bind (part (by simp [TypeInfo.parts])) fun extended => ?_
      refine ends_bind (part (by simp [TypeInfo.parts])) fun check => ?_
      refine ends_bind (part (by simp [TypeInfo.parts])) fun primary => ?_
      exact ends_bind (part (by simp [TypeInfo.parts])) fun alternate => ends_pure _
  | substitution => exact ends_bind (part (by simp [TypeInfo.parts])) fun base => ends_pure _
  | nonPrimitive => exact ends_pure _

theorem ends_includeBasic {type : TypeId}
    (fits : TypeFits manner ages e.program k (e.program.type type)) :
    Ends e.program.names n (e.includeBasic type) := by
  unfold includeBasic
  dsimp only
  split
  · rename_i found
    exact ends_map some (ends_includeTerminal tame reaches fits found)
  · exact ends_pure none

omit tame in
theorem ends_keyofNode {operand : Option TypeId}
    (near : ∀ id, operand = some id → e.program.Near manner ages k id) :
    Ends e.program.names n (e.keyofNode operand) :=
  ends_bind (ends_visitPresent reaches near) fun _ => ends_pure _

omit tame in
theorem ends_unionNode {types : List (Option TypeId)}
    (near : ∀ id, some id ∈ types → e.program.Near manner ages k id) :
    Ends e.program.names n (e.unionNode types) :=
  ends_bind (ends_visitAll reaches near) fun _ => ends_pure _

theorem ends_includeIndex {type : Option TypeId} (older : ∀ id, type = some id → id.index < k) :
    Ends e.program.names n (e.includeIndex type) := by
  unfold includeIndex
  split
  · exact ends_pure none
  · rename_i id
    split
    · rename_i operand held
      refine ends_map some (ends_keyofNode reaches ?_)
      intro part same
      cases same
      have inParts : some operand ∈ (e.program.type id).parts := by
        unfold TypeInfo.keyofOperand? at held
        split at held
        · simp [TypeInfo.parts, held]
        · cases held
      apply near_of_lt tame
      exact Nat.lt_trans ((tame.types id).parts operand inParts) (older id rfl)
    · exact ends_map some (reaches.visit id (near_of_lt tame (older id rfl)))

theorem ends_includeReference {type : TypeId}
    (fits : TypeFits manner ages e.program k (e.program.type type)) :
    Ends e.program.names n (e.includeReference type) := by
  have arguments := ends_typeArguments tame reaches fits
  have hidden := ends_includeHidden tame reaches fits
  refine ends_bind (ends_includeExternal tame arguments fun _ => hidden) fun outside => ?_
  cases outside with
  | some node => exact ends_pure node
  | none =>
      refine ends_lift_bind (shallow_present _) fun symbol found => ?_
      have inside := (fits.symbol symbol (of_present found)).1.1
      have member := mem_names_of_inside inside
      refine ends_bind (ends_ensureNamed reaches.toBegins arguments member) fun _ => ?_
      exact ends_includeRef arguments _ _

theorem ends_includeCombinator {type : TypeId}
    (fits : TypeFits manner ages e.program k (e.program.type type)) :
    Ends e.program.names n (e.includeCombinator type) := by
  have near {id : TypeId} (member : some id ∈ (e.program.type type).parts) :
      e.program.Near manner ages k id := near_of_part tame fits member
  unfold includeCombinator
  dsimp only
  split
  · refine ends_bind (ends_visitAll reaches ?_) fun nodes => ends_pure _
    exact fun id member => near (by simp [TypeInfo.parts, member])
  · split
    · exact ends_map some (ends_includeReference tame reaches fits)
    · split
      · refine ends_lift_bind (shallow_each _) fun types listed => ?_
        rw [← slots_of_each listed]
        exact ends_map some (ends_unionNode reaches fun id member =>
          near (by simp [TypeInfo.parts, member]))
      · split
        · refine ends_lift_bind (shallow_each _) fun types listed => ?_
          rw [← slots_of_each listed]
          refine ends_bind (ends_visitAll reaches ?_) fun nodes => ends_pure _
          exact fun id member => near (by simp [TypeInfo.parts, member])
        · split
          · have older (id : TypeId) (held : (e.program.type type).indexType = some id) :
                id.index < k := fits.parts id (by simp [TypeInfo.parts, held])
            refine ends_bind (ends_includeIndex tame reaches older) fun index => ?_
            split
            · rename_i held
              refine ends_bind (ends_map some (reaches.visit _ (near ?_))) fun object => ends_pure _
              simp [TypeInfo.parts, held]
            · rw [pure_bind]
              exact ends_pure _
          · exact ends_pure none

theorem ends_includeWritten {site : Option SiteId}
    (legible : ∀ id, site = some id → e.program.Legible manner ages k id) :
    Ends e.program.names n (e.includeWritten site) := by
  unfold includeWritten
  dsimp only
  split
  · exact ends_pure none
  · rename_i id
    have legible := legible id rfl
    split
    · refine ends_lift_bind (e.program.shallow_typeWritten _) fun operand recorded => ?_
      refine ends_map some (ends_keyofNode reaches ?_)
      rintro type rfl
      have recorded := typeAt_of_typeWritten recorded
      obtain ⟨child, held⟩ := place_of_typeAt tame recorded
      rw [held] at recorded
      exact legible.child child held type recorded
    · split
      · refine ends_lift_bind (shallow_each _) fun parts listed => ?_
        rw [mapM_lift]
        refine ends_lift_bind (shallow_mapM fun part => e.program.shallow_typeWritten part)
          fun types read => ?_
        refine ends_map some (ends_unionNode reaches ?_)
        intro type member
        obtain ⟨part, inside, recorded⟩ := mem_of_mapM read member
        have recorded := typeAt_of_typeWritten recorded
        obtain ⟨place, rfl⟩ := place_of_typeAt tame recorded
        rw [← slots_of_each listed] at inside
        exact legible.parts place inside type recorded
      · exact ends_pure none

omit tame reaches in
theorem includeWritten_none {id : SiteId} {w after : Walk}
    (ran : e.includeWritten (some id) w = (.ok none, after)) :
    (e.program.site id).kind ≠ .keyofOperator ∧ (e.program.site id).kind ≠ .unionType := by
  unfold includeWritten at ran
  dsimp only at ran
  split at ran
  · obtain ⟨operand, between, _, ran⟩ := of_bind_ok ran
    rw [map_eq] at ran
    obtain ⟨node, final, _, ran⟩ := of_bind_ok ran
    cases ran
  · rename_i operator
    split at ran
    · obtain ⟨parts, between, _, ran⟩ := of_bind_ok ran
      obtain ⟨types, middle, _, ran⟩ := of_bind_ok ran
      rw [map_eq] at ran
      obtain ⟨node, final, _, ran⟩ := of_bind_ok ran
      cases ran
    · rename_i union
      constructor
      · intro kind
        simp [isKeyofSite, hasKind, kind] at operator
      · intro kind
        simp [isUnionSite, hasKind, kind] at union

/-- Whatever is written out in place is no interface and no class. -/
theorem ends_includeWrittenOrInline {site : SiteId}
    (written : ages.WrittenBy e.program k site)
    (other : (e.program.site site).kind ≠ .typeReference) :
    Ends e.program.names n (e.includeWrittenOrInline (some site)) := by
  have fits := tame.sites site
  have mapped : (e.program.site site).kind ≠ .mappedType := by
    intro kind
    have isWritten := written.2
    rw [kind] at isWritten
    cases isWritten
  have legible : e.program.Legible manner ages k site := legible_of_age tame written.1.2 mapped
  refine ends_bind_of (ends_includeWritten tame reaches fun id same => ?_) fun found ran => ?_
  · cases same
    exact legible
  · cases found with
    | some node => exact ends_pure node
    | none =>
        obtain ⟨w, after, ran⟩ := ran
        obtain ⟨operator, union⟩ := includeWritten_none ran
        refine ends_lift_bind (e.program.shallow_typeWritten _) fun type recorded => ?_
        refine ends_lift_bind (shallow_present type) fun id found => ?_
        obtain rfl := of_present found
        have recorded := typeAt_of_typeWritten recorded
        refine reaches.visitInline id ?_ ⟨id.index, older_of_written tame written recorded, tame.types id⟩
        have answer := answer_of_typeAt recorded
        have isWritten := written.2
        cases kind : (e.program.site site).kind with
        | inferType =>
            exact structural_of_flag tame (by decide) (fits.inferred kind id answer)
        | typeNode =>
            cases nominal : (e.program.type id).isNominal with
            | false => rfl
            | true =>
                obtain ⟨symbol, held, _, titled⟩ := fits.plain kind id answer nominal
                obtain ⟨own, same, _, _, given⟩ := name_of_nominal tame nominal
                rw [held] at same
                cases same
                cases titled given
        | typeReference => exact absurd kind other
        | keyofOperator => exact absurd kind operator
        | unionType => exact absurd kind union
        | _ =>
            rw [kind] at isWritten
            cases isWritten

theorem ends_includeAnnotation {site : SiteId} (written : ages.WrittenBy e.program k site) :
    Ends e.program.names n (e.includeAnnotation (some site)) := by
  have fits := tame.sites site
  unfold includeAnnotation
  dsimp only
  split
  · rename_i reference
    have kind : (e.program.site site).kind = .typeReference := by
      simpa [isReferenceSite, hasKind] using reference
    refine ends_lift_bind (e.program.shallow_typeAt _) fun type recorded => ?_
    refine ends_lift_bind (shallow_present type) fun id found => ?_
    obtain rfl := of_present found
    refine reaches.visitNamed id _ (near_of_lt tame (older_of_written tame written recorded)) ⟨?_, ?_⟩
    · intro name held _
      exact mem_names_of_site held
    · intro nominal
      obtain ⟨symbol, held, _, titled⟩ := fits.referred kind id (answer_of_typeAt recorded) nominal
      obtain ⟨own, same, _, _, given⟩ := name_of_nominal tame nominal
      rw [held] at same ⊢
      cases same
      exact titled given
  · rename_i reference
    have other : (e.program.site site).kind ≠ .typeReference := by
      intro kind
      simp [isReferenceSite, hasKind, kind] at reference
    split
    · rename_i declared infer held
      have kind : (e.program.site site).kind = .inferType := by
        simpa [isInferSite, hasKind] using infer
      split
      · exact ends_diagnose _
      · rename_i symbol has
        refine ends_lift_bind (e.program.shallow_declaredType _) fun type declares => ?_
        refine ends_bind (ends_visitPresent reaches ?_) fun node => ends_pure _
        rintro id rfl
        have place := fits.inferredAt kind declared held
        have stands := ((tame.sites declared).symbol symbol has).2
        rw [place] at stands
        exact Or.inr (Or.inl
          ((tame.symbols symbol).parameterType stands id (answer_of_declaredType declares)))
    · exact ends_includeWrittenOrInline tame reaches written other

end Steps

end Engine

end TypeAtlas
