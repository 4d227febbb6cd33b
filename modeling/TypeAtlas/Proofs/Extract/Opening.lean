import Mathlib.Data.List.ReduceOption
import TypeAtlas.Proofs.Extract.Shapes
import TypeAtlas.Proofs.Extract.Usage
import TypeAtlas.Proofs.Program.Tame
import TypeAtlas.Proofs.Walk.Opening

/-!
The names that nodes leave open. A node mentions what is registered by then, what it binds itself, and
what the type uses that it was made of.
-/

namespace TypeAtlas

open Node (Open OpenAll)

namespace Program

variable {p : Program} {u : Usage}

theorem usesAt_of_typeAt {site : Option SiteId} {type : Option TypeId}
    (recorded : p.typeAt site = .ok type) : p.usesAt u site = u.of type := by
  unfold typeAt recordedType at recorded
  unfold usesAt
  split at recorded
  · rename_i known
    cases recorded
    rw [known]
    rfl
  · cases recorded

theorem siteAnswers_of_typeAt {site : Option SiteId} {type : Option TypeId}
    (recorded : p.typeAt site = .ok type) : (p.siteAnswers site).type = some type := by
  unfold typeAt recordedType at recorded
  split at recorded
  · rename_i known
    cases recorded
    exact known
  · cases recorded

theorem usesAt_of_typeWritten {site : Option SiteId} {type : Option TypeId}
    (recorded : p.typeWritten site = .ok type) : p.usesAt u site = u.of type :=
  usesAt_of_typeAt (typeAt_of_typeWritten recorded)

theorem signatureUsesAt_of_signatureOf {site : Option SiteId} {signature : SignatureId}
    (recorded : p.signatureOf site = .ok (some signature)) :
    p.signatureUsesAt u site = p.signatureUses u signature := by
  unfold signatureOf at recorded
  split at recorded
  · rename_i known
    cases recorded
    simp [signatureUsesAt, callUses, known]
  · cases recorded

end Program

namespace Usage

variable {u : Usage} {name : String}

theorem mem_all {types : List (Option TypeId)} {type : Option TypeId} (held : type ∈ types)
    (used : name ∈ u.of type) : name ∈ u.all types := List.mem_flatMap.mpr ⟨type, held, used⟩

end Usage

namespace Engine

open Extract

structure Opening (e : Engine) (u : Usage) : Prop where
  visit : ∀ type, Opens (· ∈ u.named type) (e.visit type) Open
  visitNamed : ∀ site type, e.program.isReferenceSite (some site) = true →
    e.program.typeAt (some site) = .ok (some type) →
      Opens (· ∈ u.named type) (e.visitNamed type (e.program.site site).name) Open
  visitInline : ∀ type, Opens (· ∈ u.inline type) (e.visitInline type) Open
  bodyOfType : ∀ type, Opens (fun _ => True) (e.bodyOfType type) Open
  bodyOfAlias : ∀ site, Opens (fun _ => True) (e.bodyOfAlias site) Open
  parameter : ∀ type symbol, (e.program.type type).isTypeParameter = true →
    (e.program.type type).isKeyof = false → (e.program.type type).symbol = some symbol →
      ∀ w node after, e.visit type w = (.ok node, after) →
        node = .ref { name := (e.program.symbol symbol).name }

section Steps

variable {e : Engine} {u : Usage} {free : String → Prop} (opening : e.Opening u)

theorem opens_normalizeArguments (type : TypeId) (params : Slots SiteId) {types : List Node}
    (name : String) (known : ∀ other, OpenAll types other → free other) :
    Opens free (e.normalizeArguments type params types name) OpenAll := by
  refine opens_bind opens_get fun seen => ?_
  refine opens_lift_bind fun ids _ => opens_lift_bind fun params _ => opens_lift_of ?_
  intro kept trimmed other opened
  refine Or.inl (known other (Node.openAll_of_subset ?_ opened))
  refine List.Subset.trans (List.IsPrefix.subset (prefix_of_trimDefaults ids _ trimmed)) ?_
  split
  · exact List.take_subset _ _
  · exact List.Subset.refl _

include opening

theorem opens_visitPresent {type : Option TypeId} (within : ∀ name ∈ u.of type, free name) :
    Opens free (e.visitPresent type) Open := by
  refine opens_lift_bind fun id found => ?_
  obtain rfl := of_present found
  exact (opening.visit id).weaken within

theorem opens_visitAll {types : List (Option TypeId)} (within : ∀ name ∈ u.all types, free name) :
    Opens free (e.visitAll types) OpenAll :=
  opens_mapM fun _ held => opens_visitPresent opening fun name used =>
    within name (Usage.mem_all held used)

theorem opens_includeRef {type : TypeId} (name : String) (live : Option TypeId)
    (within : ∀ other ∈ u.all (e.program.type type).arguments.slots, free other) :
    Opens free (e.includeRef type name live) Open := by
  refine opens_bind (opens_visitAll opening within) fun types => ?_
  refine opens_bind (opens_normalizeArguments type _ name fun _ => Or.inr) fun kept => ?_
  refine opens_bind (opens_resolve name live fun _ => Or.inr) fun ref => ?_
  exact opens_pure fun _ => Or.inr

theorem opens_makeRef {type : Option TypeId} (name : String)
    (within : ∀ id, type = some id → ∀ other ∈ u.all (e.program.type id).arguments.slots, free other) :
    Opens free (e.makeRef type name) Open := by
  have body : Opens (fun _ => True) (do
      let id ← present type
      let info := e.program.type id
      e.bodyOfType (if info.isReference then info.target.getD id else id)) Open :=
    opens_lift_bind fun id _ => opening.bodyOfType _
  refine opens_bind (opens_register name body) fun _ => opens_lift_bind fun id found => ?_
  exact opens_includeRef opening name none fun other used =>
    Or.inl (within id (of_present found) other used)

theorem opens_ensureNamed {type : Option TypeId} (name : String)
    (within : ∀ id, type = some id → ∀ other ∈ u.all (e.program.type id).arguments.slots, free other) :
    Opens free (e.ensureNamed type name) silent := by
  refine opens_bind (opens_isRegistered name) fun known => ?_
  split
  · exact opens_pure nofun
  · exact opens_map _ ((opens_makeRef opening name within).weaken fun _ => Or.inl) nofun

omit opening in
theorem opens_importName (symbol : SymbolId) (origin : Origin) (scope : ImportScope) :
    Opens free (e.importName symbol origin scope) silent := by
  refine opens_of_registry fun w => ?_
  obtain ⟨name, between, named, same⟩ := registry_importName (e := e) symbol origin scope w
  rw [named, same]

omit opening in
theorem opens_bindImport (symbol : SymbolId) (origin : Origin) (scope : ImportScope) :
    Opens free (e.bindImport symbol origin scope) fun name other => other = name := by
  refine opens_bind (opens_importName symbol origin scope) fun name => ?_
  have placed {more : String → Prop} (node : Node) :
      Opens more (registerImport name node) fun _ other => other = name := by
    refine ⟨fun w other known => ?_, ?_⟩
    · exact (orderly_registerImport name node w).grows.toExtends.has known
    · rintro w _ after ran _ rfl
      exact Or.inl (has_of_registerImport ran)
  exact opens_bind (placed _) fun _ => opens_pure fun _ same => Or.inr same

omit opening in
theorem opens_externalName (symbol : Option SymbolId) :
    Opens free (e.externalName symbol) fun bound other => bound = some other := by
  unfold externalName
  dsimp only
  split
  · exact opens_pure nofun
  · refine opens_lift_bind fun symbol _ => ?_
    split
    · exact opens_pure nofun
    · exact opens_map _ (opens_bindImport _ _ _) fun _ _ same => (Option.some.inj same).symm

theorem opens_includeHidden {type : TypeId} (within : ∀ name ∈ e.hiddenUses u type, free name) :
    Opens free (e.includeHidden type) fun node => OpenAll node.toList := by
  unfold hiddenUses at within
  unfold includeHidden
  dsimp only at within ⊢
  split
  · exact opens_pure (by simp)
  · rename_i symbol held
    simp only [held] at within
    split
    · exact opens_pure (by simp)
    · rename_i hides
      rw [if_neg hides] at within
      split
      · exact opens_pure (by simp)
      · rename_i container found
        simp only [found] at within
        refine opens_bind (opens_emit _) fun _ => opens_lift_bind fun declared told => ?_
        rw [Program.answer_of_declaredType told] at within
        exact opens_some (opens_visitPresent opening fun name used => Or.inl (within name used))

theorem opens_includeExternal {type : TypeId} (hidden : ∀ name ∈ e.hiddenUses u type, free name)
    (arguments : ∀ name ∈ u.all (e.program.type type).arguments.slots, free name) :
    Opens free (e.includeExternal type) fun node => OpenAll node.toList := by
  unfold includeExternal
  dsimp only
  split
  · exact opens_pure (by simp)
  · split
    · exact opens_pure (by simp)
    · split
      · split
        · exact opens_includeHidden opening hidden
        · exact opens_pure (by simp)
      · split
        · exact opens_pure (by simp)
        · refine opens_bind (opens_bindImport _ _ _) fun name => ?_
          exact opens_some (opens_includeRef opening _ _ fun name used => Or.inl (arguments name used))

theorem opens_makeAliasRef {type : TypeId} (name : String)
    (within : ∀ other ∈ u.all (e.program.type type).aliasArguments.slots, free other) :
    Opens free (e.makeAliasRef type name) Open := by
  unfold makeAliasRef
  dsimp only
  split
  · rename_i site _ _
    have reference {more : String → Prop} (name : String) (known : more name)
        (within : ∀ other ∈ u.all (e.program.type type).aliasArguments.slots, more other) :
        Opens more (do
          let types ← e.visitAll (e.program.type type).aliasArguments.slots
          let types ← e.normalizeArguments type (e.program.site site).typeParameters types name
          pure (Node.ref { name, types })) Open := by
      refine opens_bind (opens_visitAll opening within) fun types => ?_
      refine opens_bind (opens_normalizeArguments type _ name fun _ => Or.inr) fun kept => ?_
      refine opens_pure fun other opened => ?_
      rcases Node.open_ref opened with rfl | opened
      · exact Or.inl (Or.inl known)
      · exact Or.inr opened
    refine opens_bind (opens_externalName _) fun bound => ?_
    split
    · rw [pure_bind]
      exact reference _ (Or.inr rfl) fun other used => Or.inl (within other used)
    · refine opens_bind (opens_register name (opening.bodyOfAlias _)) fun _ => ?_
      rw [pure_bind]
      exact reference name (Or.inr rfl) fun other used => Or.inl (Or.inl (within other used))
  · exact opens_diagnose _ _

theorem opens_includeMember {type : Option TypeId}
    (within : ∀ id, type = some id → ∀ name ∈ u.inline id, free name) :
    Opens free (e.includeMember type) fun member => (Node.member member).Open := by
  refine opens_lift_bind fun id found => ?_
  refine opens_bind ((opening.visitInline id).weaken (within id (of_present found))) fun value => ?_
  refine opens_lift_bind fun comment _ => opens_pure fun name opened => ?_
  exact Or.inr (Node.open_member opened)

omit opening in
theorem mem_terminalUses_of_member {type : TypeId} {terminal : Terminal}
    (found : Terminal.ofFlags? (e.program.type type).flags = some terminal)
    (enumerates : terminal = .enumLiteral ∨ terminal = .enumeration) {types : List (Option TypeId)}
    (listed : (e.program.type type).types.each = .ok types) {id : TypeId} (held : some id ∈ types)
    {name : String} (used : name ∈ u.inline id) : name ∈ e.program.terminalUses u type := by
  obtain ⟨rule, member, same, flagged⟩ := Terminal.flagged_of_ofFlags found
  have enumerated : ((e.program.type type).hasFlag .union &&
      ((e.program.type type).hasFlag .enumLiteral || (e.program.type type).hasFlag .enum)) = true := by
    simp only [Terminal.rules, List.mem_cons, List.not_mem_nil, or_false] at member
    simp only [TypeInfo.hasFlag]
    rcases enumerates with rfl | rfl <;>
      rcases member with rfl | rfl | rfl | rfl | rfl | rfl | rfl | rfl | rfl | rfl | rfl | rfl | rfl |
        rfl | rfl | rfl | rfl | rfl | rfl | rfl | rfl <;> cases same <;> simp_all
  have slots : (e.program.type type).types.slots = types := by
    cases known : (e.program.type type).types with
    | none =>
        rw [known] at listed
        cases listed
    | some items =>
        rw [known] at listed
        cases listed
        rfl
  simp only [Program.terminalUses, enumerated, if_true, slots]
  refine List.mem_append_right _ (List.mem_flatMap.mpr ⟨id, ?_, used⟩)
  exact List.reduceOption_mem_iff.mpr held

theorem opens_includeTerminal {type : TypeId} {terminal : Terminal}
    (found : Terminal.ofFlags? (e.program.type type).flags = some terminal)
    (within : ∀ name ∈ e.program.terminalUses u type, free name) :
    Opens free (e.includeTerminal (e.program.type type) terminal) Open := by
  have part {part : Option TypeId} (held : part ∈ [(e.program.type type).extendsType,
      (e.program.type type).checkType, (e.program.type type).trueType, (e.program.type type).falseType,
      (e.program.type type).baseType]) : ∀ name ∈ u.of part, free name :=
    fun name used => within name (List.mem_append_left _ (Usage.mem_all held used))
  have members (enumerates : terminal = .enumLiteral ∨ terminal = .enumeration)
      {types : List (Option TypeId)} (listed : (e.program.type type).types.each = .ok types) :
      Opens free (types.mapM e.includeMember) (among fun member => (Node.member member).Open) := by
    refine opens_mapM fun member held => opens_includeMember opening ?_
    rintro id rfl name used
    exact within name (mem_terminalUses_of_member found enumerates listed held used)
  have values {values : List (Node.Member Node)} {name : String}
      (opened : OpenAll (values.map Node.member) name) :
      among (fun member => (Node.member member).Open) values name := by
    obtain ⟨node, held, opened⟩ := opened
    obtain ⟨member, listed, rfl⟩ := List.mem_map.mp held
    exact ⟨member, listed, opened⟩
  cases terminal with
  | primitive kind => exact opens_closed (by simp)
  | literal =>
      unfold includeTerminal
      cases (e.program.type type).value with
      | none => exact opens_fail _ _
      | some value => exact opens_closed (by simp)
  | truth => exact opens_closed (by simp)
  | enumLiteral =>
      refine opens_lift_bind fun comment _ => opens_lift_bind fun types listed => ?_
      refine opens_bind (members (Or.inl rfl) listed) fun nodes => opens_pure fun name opened => ?_
      exact Or.inr (values (Node.open_enumLiteral opened))
  | enumeration =>
      refine opens_lift_bind fun comment _ => opens_lift_bind fun types listed => ?_
      refine opens_bind (members (Or.inr rfl) listed) fun nodes => opens_pure fun name opened => ?_
      exact Or.inr (values (Node.open_enumeration opened))
  | bigintLiteral => exact opens_closed (by simp)
  | conditional =>
      have visit {more : String → Prop} {type : Option TypeId} (held : ∀ name ∈ u.of type, free name)
          (wider : ∀ name, free name → more name) : Opens more (e.visitPresent type) Open :=
        opens_visitPresent opening fun name used => wider name (held name used)
      refine opens_bind (visit (part (by simp)) fun _ => id) fun extended => ?_
      refine opens_bind (visit (part (by simp)) fun _ => Or.inl) fun check => ?_
      refine opens_bind (visit (part (by simp)) fun _ known => Or.inl (Or.inl known)) fun primary => ?_
      refine opens_bind (visit (part (by simp)) fun _ known => Or.inl (Or.inl (Or.inl known)))
        fun alternate => opens_pure fun name opened => ?_
      have parts := Node.open_conditional opened
      grind
  | substitution =>
      refine opens_bind (opens_visitPresent opening (part (by simp))) fun base => ?_
      exact opens_pure fun name opened => Or.inr (Node.open_substitution opened)
  | nonPrimitive => exact opens_closed (by simp)

theorem opens_includeBasic {type : TypeId}
    (within : ∀ name ∈ e.program.terminalUses u type, free name) :
    Opens free (e.includeBasic type) fun node => OpenAll node.toList := by
  unfold includeBasic
  dsimp only
  split
  · rename_i terminal found
    exact opens_some (opens_includeTerminal opening found within)
  · exact opens_pure (by simp)

theorem opens_keyofNode {operand : Option TypeId} (within : ∀ name ∈ u.of operand, free name) :
    Opens free (e.keyofNode operand) Open :=
  opens_bind (opens_visitPresent opening within) fun _ =>
    opens_pure fun _ opened => Or.inr (Node.open_prefixed opened)

theorem opens_unionNode {types : List (Option TypeId)} (within : ∀ name ∈ u.all types, free name) :
    Opens free (e.unionNode types) Open :=
  opens_bind (opens_visitAll opening within) fun _ =>
    opens_pure fun _ opened => Or.inr (Node.open_union opened)

theorem opens_includeReference {type : TypeId} (hidden : ∀ name ∈ e.hiddenUses u type, free name)
    (arguments : ∀ name ∈ u.all (e.program.type type).arguments.slots, free name) :
    Opens free (e.includeReference type) Open := by
  refine opens_bind (opens_includeExternal opening hidden arguments) fun outside => ?_
  cases outside with
  | some node => exact opens_pure fun name opened => Or.inr (by simpa using opened)
  | none =>
      refine opens_lift_bind fun symbol _ => ?_
      refine opens_bind (opens_ensureNamed opening _ ?_) fun _ => ?_
      · rintro id ⟨⟩ name used
        exact Or.inl (arguments name used)
      · exact opens_includeRef opening _ _ fun name used => Or.inl (Or.inl (arguments name used))

end Steps

section Told

variable {e : Engine} {u : Usage} {free : String → Prop} (opening : e.Opening u) (tells : e.Tells u)
include opening tells

theorem opens_includeIndex {type : Option TypeId} (within : ∀ name ∈ u.of type, free name) :
    Opens free (e.includeIndex type) fun node => OpenAll node.toList := by
  unfold includeIndex
  split
  · exact opens_pure (by simp)
  · rename_i id
    split
    · rename_i operand known
      exact opens_some (opens_keyofNode opening fun name used =>
        within name (tells.keyof id operand known used))
    · exact opens_some ((opening.visit id).weaken within)

theorem opens_includeCombinator {type : TypeId} (hidden : ∀ name ∈ e.hiddenUses u type, free name)
    (within : e.isCombined type = true → ∀ name ∈ u.all ((e.program.type type).arguments.slots ++
      (e.program.type type).types.slots ++
      [(e.program.type type).indexType, (e.program.type type).objectType]), free name) :
    Opens free (e.includeCombinator type) fun node => OpenAll node.toList := by
  have known (combined : e.isCombined type = true) {parts : List (Option TypeId)}
      (listed : parts ⊆ (e.program.type type).arguments.slots ++ (e.program.type type).types.slots ++
        [(e.program.type type).indexType, (e.program.type type).objectType]) :
      ∀ name ∈ u.all parts, free name := by
    intro name used
    obtain ⟨part, held, used⟩ := List.mem_flatMap.mp used
    exact within combined name (Usage.mem_all (listed held) used)
  have each {types : List (Option TypeId)} (listed : (e.program.type type).types.each = .ok types) :
      types ⊆ (e.program.type type).types.slots := by
    cases held : (e.program.type type).types with
    | none =>
        rw [held] at listed
        cases listed
    | some items =>
        rw [held] at listed
        cases listed
        exact List.Subset.refl _
  unfold includeCombinator
  dsimp only
  split
  · rename_i isTuple
    have combined : e.isCombined type = true := by simp [isCombined, isTuple]
    refine opens_bind (opens_visitAll opening (known combined (by simp))) fun nodes => ?_
    exact opens_pure fun name opened => Or.inr (Node.open_tuple (by simpa using opened))
  · split
    · rename_i isReference
      have combined : e.isCombined type = true := by
        simp only [isCombined, isReference, Bool.true_or, Bool.or_true]
      exact opens_some (opens_includeReference opening hidden (known combined (by simp)))
    · split
      · rename_i isUnion
        have combined : e.isCombined type = true := by simp [isCombined, isUnion]
        refine opens_lift_bind fun types listed => opens_some (opens_unionNode opening ?_)
        exact known combined fun part held => by simp [each listed held]
      · split
        · rename_i isIntersection
          have combined : e.isCombined type = true := by simp [isCombined, isIntersection]
          refine opens_lift_bind fun types listed => ?_
          refine opens_bind (opens_visitAll opening
            (known combined fun part held => by simp [each listed held])) fun nodes => ?_
          exact opens_pure fun name opened => Or.inr (Node.open_intersection (by simpa using opened))
        · split
          · rename_i isIndexed
            have combined : e.isCombined type = true := by simp [isCombined, isIndexed]
            have index : ∀ name ∈ u.of (e.program.type type).indexType, free name := fun name used =>
              within combined name (Usage.mem_all (by simp) used)
            have object : ∀ name ∈ u.of (e.program.type type).objectType, free name := fun name used =>
              within combined name (Usage.mem_all (by simp) used)
            refine opens_bind (opens_includeIndex opening tells index) fun index => ?_
            split
            · rename_i holder held
              rw [held] at object
              refine opens_bind (opens_some ((opening.visit holder).weaken fun name used =>
                Or.inl (object name used))) fun object => opens_pure fun name opened => ?_
              have parts := Node.open_indexedAccess (by simpa using opened : Open _ name)
              grind
            · rw [pure_bind]
              refine opens_pure fun name opened => ?_
              have parts := Node.open_indexedAccess (by simpa using opened : Open _ name)
              exact Or.inr (by simpa using parts)
          · exact opens_pure (by simp)

end Told

end Engine

end TypeAtlas
