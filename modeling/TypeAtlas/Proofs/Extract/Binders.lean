import TypeAtlas.Proofs.Extract.Opening

/-!
What declarations bind. A signature binds its type parameters and the variables that its parameters
infer, a shape binds its type parameters, and a mapped type binds its key: these names are not open in
what is made of them.
-/

namespace TypeAtlas

open Node (Open OpenAll)

variable {α β : Type} {free : String → Prop}

namespace Extract

theorem ran_of_mapM {f : α → Extract β} {items : List α} {values : List β} {w after : Walk}
    (ran : items.mapM f w = (.ok values, after)) {item : α} (held : item ∈ items) :
    ∃ value ∈ values, ∃ before later, f item before = (.ok value, later) := by
  induction items generalizing w values with
  | nil => cases held
  | cons first rest ih =>
      rw [List.mapM_cons] at ran
      obtain ⟨value, between, made, ran⟩ := of_bind_ok ran
      obtain ⟨others, _, second, ran⟩ := of_bind_ok ran
      cases ran
      rcases List.mem_cons.mp held with rfl | held
      · exact ⟨value, List.mem_cons_self .., w, between, made⟩
      · obtain ⟨other, member, made⟩ := ih second held
        exact ⟨other, List.mem_cons_of_mem _ member, made⟩

/-- Names that every result of a step binds are not open in it. -/
theorem Opens.bound {step : Extract α} {names : α → String → Prop} (binders : List String)
    (opens : Opens (fun name => name ∈ binders ∨ free name) step names)
    (bound : ∀ w value after, step w = (.ok value, after) →
      ∀ name, names value name → name ∉ binders) :
    Opens free step names := by
  refine opens.sharpen fun w value after ran name opened => ⟨opened, fun known => ?_⟩
  exact known.resolve_left (bound w value after ran name opened)

end Extract

/-- A reference leaves open what it leaves open whatever live type it has. -/
theorem Node.open_ref_live {r : Node.Ref Node} {live : Option TypeId} {name : String}
    (opened : (Node.ref { r with live }).Open name) : (Node.ref r).Open name := by
  refine ⟨by simpa using opened.1, fun binds => opened.2 ?_⟩
  cases binds with
  | own held => cases held
  | inner inside binds => exact .inner inside binds

namespace Program

variable {p : Program} {u : Usage}

theorem Repeats.mono {type : TypeId} {selection : Selection} {listed more : List Node}
    (subset : listed ⊆ more) {name : String} (repeated : p.Repeats u type selection listed name) :
    p.Repeats u type selection more name := by
  cases repeated with
  | member held outside shown used =>
      obtain ⟨node, member, same⟩ := shown
      exact .member held outside ⟨node, subset member, same⟩ used
  | index outside shown used =>
      obtain ⟨node, member, same⟩ := shown
      exact .index outside ⟨node, subset member, same⟩ used

/-- What is listed among all members is not listed outside them. -/
theorem not_repeats_all {type : TypeId} {listed : List Node} {name : String} :
    ¬ p.Repeats u type .all listed name := by
  intro repeated
  cases repeated with
  | member _ outside => cases outside
  | index outside => cases outside

theorem mem_boundUses {params : List (Option TypeId)} {type : TypeId} (held : some type ∈ params)
    {name : String} (used : name ∈ p.constraintUses u type ++ p.defaultUses u type) :
    name ∈ p.boundUses u params := by
  refine List.mem_flatMap.mpr ⟨type, ?_, used⟩
  exact List.reduceOption_mem_iff.mpr held

end Program

namespace Engine

open Extract

section Steps

variable {e : Engine} {u : Usage} (opening : e.Opening u)
include opening

theorem opens_includeWritten {site : Option SiteId}
    (within : e.program.isSpelledOut site = true →
      ∀ name ∈ e.program.spelledUses u site, free name) :
    Opens free (e.includeWritten site) fun node => OpenAll node.toList := by
  unfold includeWritten
  dsimp only
  split
  · exact opens_pure (by simp)
  · rename_i id
    split
    · rename_i isKeyof
      refine opens_lift_bind fun operand told => opens_some (opens_keyofNode opening ?_)
      intro name used
      refine within (by simp [Program.isSpelledOut, isKeyof]) name ?_
      rwa [Program.spelledUses, if_pos isKeyof, Program.usesAt_of_typeWritten told]
    · rename_i notKeyof
      split
      · rename_i isUnion
        refine opens_lift_bind fun parts listed => ?_
        rw [mapM_lift]
        refine opens_lift_bind fun types told => opens_some (opens_unionNode opening ?_)
        intro name used
        obtain ⟨type, held, used⟩ := List.mem_flatMap.mp used
        obtain ⟨part, inside, told⟩ := mem_of_mapM told held
        refine within (by simp [Program.isSpelledOut, isUnion]) name ?_
        rw [Program.spelledUses, if_neg notKeyof, Build.slots_of_each listed]
        refine List.mem_flatMap.mpr ⟨part, inside, ?_⟩
        rwa [Program.usesAt_of_typeWritten told]
      · exact opens_pure (by simp)

omit opening in
/-- What is not told from how it is written is no `keyof` and no union there. -/
theorem not_isSpelledOut {site : Option SiteId} {w after : Walk}
    (ran : e.includeWritten site w = (.ok none, after)) : e.program.isSpelledOut site = false := by
  unfold includeWritten at ran
  split at ran
  · rfl
  · split at ran
    · obtain ⟨_, _, -, ran⟩ := of_bind_ok ran
      exact absurd ran some_map_ne_none
    · rename_i notKeyof
      split at ran
      · obtain ⟨_, _, -, ran⟩ := of_bind_ok ran
        obtain ⟨_, _, -, ran⟩ := of_bind_ok ran
        exact absurd ran some_map_ne_none
      · rename_i notUnion
        simp only [Bool.not_eq_true] at notKeyof notUnion
        rw [Program.isSpelledOut, notKeyof, notUnion, Bool.or_self]

theorem opens_includeWrittenOrInline {site : Option SiteId}
    (within : ∀ name ∈ e.program.placeUses u site, free name) :
    Opens free (e.includeWrittenOrInline site) Open := by
  have written : Opens free (e.includeWritten site) fun node => OpenAll node.toList := by
    refine opens_includeWritten opening fun spelled name used => within name ?_
    rwa [Program.placeUses, if_pos spelled]
  refine opens_bind_of written fun node asked => ?_
  obtain ⟨w, after, ran⟩ := asked
  cases node with
  | some node => exact opens_pure fun name opened => Or.inr (by simpa using opened)
  | none =>
      refine opens_lift_bind fun type told => opens_lift_bind fun id found => ?_
      refine (opening.visitInline id).weaken fun name used => Or.inl (within name ?_)
      obtain rfl := of_present found
      have denoted := Program.siteAnswers_of_typeAt (Program.typeAt_of_typeWritten told)
      simpa [Program.placeUses, not_isSpelledOut ran, denoted] using used

theorem opens_includeConstraint {type : TypeId}
    (within : ∀ name ∈ e.program.constraintUses u type, free name) :
    Opens free (e.includeConstraint type) fun node => OpenAll node.toList := by
  unfold Program.constraintUses at within
  unfold includeConstraint
  dsimp only
  split
  · rename_i written held
    simp only [held] at within
    split
    · rename_i isKeyof
      rw [if_pos isKeyof] at within
      refine opens_lift_bind fun operand told => opens_some (opens_keyofNode opening ?_)
      rwa [Program.usesAt_of_typeAt told] at within
    · rename_i notKeyof
      rw [if_neg notKeyof] at within
      refine opens_lift_bind fun bound told => opens_some (opens_visitPresent opening ?_)
      rwa [Program.usesAt_of_typeAt told] at within
  · rename_i unwritten
    simp only [unwritten] at within
    split
    · rename_i bound held
      rw [held] at within
      exact opens_some ((opening.visit bound).weaken within)
    · exact opens_pure (by simp)

theorem opens_includeDefault {type : TypeId}
    (within : ∀ name ∈ e.program.defaultUses u type, free name) :
    Opens free (e.includeDefault type) fun node => OpenAll node.toList := by
  unfold Program.defaultUses at within
  unfold includeDefault
  dsimp only
  split
  · rename_i written held
    simp only [held] at within
    refine opens_lift_bind fun fallback told => opens_some (opens_visitPresent opening ?_)
    rwa [Program.usesAt_of_typeAt told] at within
  · exact opens_pure (by simp)

theorem opens_includeTypeParameter {type : TypeId}
    (within : ∀ name ∈ e.program.constraintUses u type ++ e.program.defaultUses u type, free name) :
    Opens free (e.includeTypeParameter type) fun described =>
      OpenAll (described.map Node.typeParameter).toList := by
  unfold includeTypeParameter
  split
  · exact opens_pure (by simp)
  · rename_i symbol _
    have constraint : ∀ name ∈ e.program.constraintUses u type, free name :=
      fun name used => within name (List.mem_append_left _ used)
    have default : ∀ name ∈ e.program.defaultUses u type, free name :=
      fun name used => within name (List.mem_append_right _ used)
    have named : Opens free (typeParameterRef (e.program.symbol symbol).name)
        fun r _ => r.types ≠ [] := by
      refine opens_bind (opens_declareLocal _) fun _ => opens_pure ?_
      exact fun _ filled => absurd rfl filled
    refine opens_bind named fun parameter => ?_
    refine opens_bind (opens_includeConstraint opening fun name used =>
      Or.inl (constraint name used)) fun constraint => ?_
    refine opens_bind (opens_includeDefault opening fun name used =>
      Or.inl (Or.inl (default name used))) fun default => opens_pure fun name opened => ?_
    obtain ⟨-, parts⟩ := Node.open_typeParameter (by simpa using opened : Open _ name)
    rcases parts with parts | parts | parts
    · refine Or.inl (Or.inl (Or.inr fun none => ?_))
      simp [none] at parts
    · exact Or.inl (Or.inr parts)
    · exact Or.inr parts

theorem opens_includeTypeParameters {params : Slots TypeId}
    (within : ∀ name ∈ e.program.boundUses u params.slots, free name) :
    Opens free (e.includeTypeParameters params) fun types =>
      OpenAll (types.map Node.typeParameter) := by
  have each : ∀ param ∈ params.slots, Opens free (do e.includeTypeParameter (← present param))
      fun described => OpenAll (described.map Node.typeParameter).toList := by
    intro param held
    refine opens_lift_bind fun type found => ?_
    obtain rfl := of_present found
    exact opens_includeTypeParameter opening fun name used =>
      within name (Program.mem_boundUses held used)
  refine opens_bind (opens_mapM each) fun described => opens_pure fun name opened => Or.inr ?_
  obtain ⟨node, held, opened⟩ := opened
  obtain ⟨parameter, listed, rfl⟩ := List.mem_map.mp held
  have member : some parameter ∈ described := by simpa using listed
  exact ⟨some parameter, member, by simpa using opened⟩

omit opening in
theorem described_of_includeTypeParameters {params : Slots TypeId} {w after : Walk}
    {types : List (Node.TypeParameter Node)}
    (ran : e.includeTypeParameters params w = (.ok types, after)) {name : String}
    (held : name ∈ e.program.parameterNames params.slots) : ∃ p ∈ types, p.parameter.name = name := by
  obtain ⟨described, _, made, ran⟩ := of_bind_ok ran
  cases ran
  obtain ⟨param, listed, named⟩ := List.mem_filterMap.mp held
  obtain ⟨type, rfl, named⟩ := Option.bind_eq_some_iff.mp named
  obtain ⟨symbol, found, rfl⟩ := Option.map_eq_some_iff.mp named
  obtain ⟨value, member, before, later, made⟩ := ran_of_mapM made listed
  obtain ⟨_, _, asked, made⟩ := of_bind_ok made
  obtain ⟨⟨⟩, rfl⟩ := Prod.mk.inj asked
  unfold includeTypeParameter at made
  rw [found] at made
  obtain ⟨parameter, _, declared, made⟩ := of_bind_ok made
  obtain ⟨_, _, -, declared⟩ := of_bind_ok declared
  obtain ⟨constraint, _, -, made⟩ := of_bind_ok made
  obtain ⟨default, _, -, made⟩ := of_bind_ok made
  cases declared
  cases made
  exact ⟨_, by simpa using member, rfl⟩

omit opening in
/-- A name is not described where it is no name of a description. -/
theorem not_mem_parameterNames {params : Slots TypeId} {w after : Walk}
    {types : List (Node.TypeParameter Node)}
    (ran : e.includeTypeParameters params w = (.ok types, after)) {name : String}
    (distinct : ∀ p ∈ types, name ≠ p.parameter.name) :
    name ∉ e.program.parameterNames params.slots := by
  intro held
  obtain ⟨p, member, same⟩ := described_of_includeTypeParameters ran held
  exact distinct p member same.symm

omit opening in
theorem eq_declaredParameters {written : List (Option SiteId)} {types : List (Option TypeId)}
    (told : written.mapM (fun param => e.program.typeAt param) = .ok types) :
    types = written.map fun param => (e.program.siteAnswers param).type.join := by
  induction written generalizing types with
  | nil =>
      cases told
      rfl
  | cons param rest ih =>
      rw [List.mapM_cons] at told
      obtain ⟨type, first, told⟩ := of_except_bind_ok told
      obtain ⟨others, later, told⟩ := of_except_bind_ok told
      cases told
      rw [List.map_cons, ← ih later, Program.siteAnswers_of_typeAt first, Option.join_some]

omit opening in
theorem declaredTypeParameters_eq {site : SiteId} {w after : Walk}
    {types : List (Node.TypeParameter Node)}
    (ran : e.declaredTypeParameters site w = (.ok types, after)) :
    e.includeTypeParameters (some (e.program.declaredParameters site)) w = (.ok types, after) := by
  obtain ⟨written, _, listed, ran⟩ := of_bind_ok ran
  obtain ⟨params, _, told, ran⟩ := of_bind_ok ran
  rw [mapM_lift] at told
  rw [lift_apply, Prod.mk.injEq] at listed told
  obtain ⟨listed, rfl⟩ := listed
  obtain ⟨told, rfl⟩ := told
  rwa [eq_declaredParameters told, ← Build.slots_of_each listed] at ran

theorem opens_declaredTypeParameters {site : SiteId}
    (within : ∀ name ∈ e.program.boundUses u (e.program.declaredParameters site), free name) :
    Opens free (e.declaredTypeParameters site) fun types => OpenAll (types.map Node.typeParameter) := by
  refine opens_lift_bind fun written listed => ?_
  rw [mapM_lift]
  refine opens_lift_bind fun params told => opens_includeTypeParameters opening ?_
  rw [Program.declaredParameters, Build.slots_of_each listed] at within
  rwa [← eq_declaredParameters told] at within

omit opening in
/-- A variable is inferred at a place that is no reference. -/
theorem not_isReferenceSite {site : Option SiteId} {type : TypeId}
    (inferred : e.program.inferredAt site = some type) : e.program.isReferenceSite site = false := by
  unfold Program.inferredAt at inferred
  split at inferred
  · rename_i isInfer
    cases site with
    | none => rfl
    | some id =>
        simp only [Program.isInferSite, Program.hasKind, Option.any_some, List.mem_singleton,
          decide_eq_true_eq] at isInfer
        simp [Program.isReferenceSite, Program.hasKind, isInfer]
  · cases inferred

omit opening in
theorem includeAnnotation_of_inferred {site : Option SiteId} {type : TypeId}
    (inferred : e.program.inferredAt site = some type) :
    e.includeAnnotation site = (do return .infer (← e.visit type)) := by
  have unreferred := not_isReferenceSite inferred
  unfold Program.inferredAt at inferred
  unfold includeAnnotation
  split at inferred
  · rename_i isInfer
    obtain ⟨declared, placed, inferred⟩ := Option.bind_eq_some_iff.mp inferred
    obtain ⟨symbol, named, inferred⟩ := Option.bind_eq_some_iff.mp inferred
    have told : e.program.declaredType (some symbol) = .ok (some type) := by
      have known : (e.program.symbol symbol).answers.declared = some (some type) := by
        simpa [Option.join_eq_some_iff] using inferred
      simp only [Program.declaredType, Program.symbolAnswers, known]
    simp only [unreferred, isInfer, placed, named, told]
    rfl
  · cases inferred

theorem infer_of_annotated {site : Option SiteId} {name : String}
    (inferred : e.program.inferredName? site = some name) {w after : Walk} {node : Node}
    (ran : e.includeAnnotation site w = (.ok node, after)) : node = .infer (.ref { name }) := by
  obtain ⟨type, placed, named⟩ := Option.bind_eq_some_iff.mp inferred
  split at named
  · rename_i isVariable
    rw [Bool.and_eq_true, Bool.not_eq_true'] at isVariable
    obtain ⟨symbol, held, rfl⟩ := Option.map_eq_some_iff.mp named
    rw [includeAnnotation_of_inferred placed] at ran
    obtain ⟨child, _, visited, ran⟩ := of_bind_ok ran
    cases ran
    rw [opening.parameter type symbol isVariable.1 isVariable.2 held _ _ _ visited]
  · cases named

theorem opens_annotated {site : Option SiteId}
    (within : ∀ name ∈ e.program.annotationUses u site, free name) :
    Opens free (e.includeAnnotation site) Open := by
  unfold Program.annotationUses at within
  cases inferred : e.program.inferredAt site with
  | some type =>
      rw [if_neg (by simp [not_isReferenceSite inferred])] at within
      simp only [inferred] at within
      have visited : Opens (· ∈ u.named type) (e.includeAnnotation site) Open := by
        rw [includeAnnotation_of_inferred inferred]
        refine opens_bind (opening.visit type) fun child => opens_pure fun name opened => ?_
        exact Or.inr (Node.open_infer opened)
      cases named : e.program.inferredName? site with
      | none =>
          rw [named] at within
          exact visited.weaken within
      | some bound =>
          refine visited.sharpen fun w node after ran name opened => ⟨opened, fun _ => ?_⟩
          obtain rfl := infer_of_annotated opening named ran
          rcases Node.open_ref (Node.open_infer opened) with rfl | none
          · exact absurd (List.mem_singleton_self _) opened.not_mem_ownBinders
          · exact absurd none (Node.openAll_nil name)
  | none =>
      simp only [inferred] at within
      unfold includeAnnotation
      dsimp only
      split
      · rename_i reference
        rw [if_pos reference] at within
        refine opens_lift_bind fun type told => opens_lift_bind fun id found => ?_
        obtain rfl := of_present found
        rw [Program.usesAt_of_typeAt told] at within
        cases site with
        | none => cases reference
        | some place => exact (opening.visitNamed place id reference told).weaken within
      · rename_i unreferred
        rw [if_neg unreferred] at within
        split
        · rename_i declared isInfer placed
          split
          · exact opens_diagnose _ _
          · rename_i symbol held
            refine opens_lift_bind fun type told => ?_
            have known := Program.answer_of_declaredType told
            refine opens_bind (opens_lift_bind fun id found => ?_) fun child => opens_pure fun name opened =>
              Or.inr (Node.open_infer opened)
            obtain rfl := of_present found
            simp [Program.inferredAt, isInfer, placed, held, known] at inferred
        · exact opens_includeWrittenOrInline opening within

omit opening in
theorem value_of_read {name : String} {spread optional : Option Bool} {value : Node}
    {param : Node.Parameter Node}
    (read : ((fun spread optional => ({ name, spread, optional, value } : Node.Parameter Node)) <$>
      truth "spread" spread <*> truth "optional" optional).toExcept = .ok param) :
    param.value = value := by
  cases spread with
  | none => cases optional <;> cases read
  | some spread =>
      cases optional with
      | none => cases read
      | some optional =>
          cases read
          rfl

omit opening in
theorem annotation_of_includeParameter {param : SymbolId} {p : Node.Parameter Node} {w after : Walk}
    (ran : e.includeParameter (some param) w = (.ok p, after)) :
    ∃ between, e.includeAnnotation (e.program.annotationOf param) w = (.ok p.value, between) := by
  obtain ⟨_, _, asked, ran⟩ := of_bind_ok ran
  obtain ⟨⟨⟩, rfl⟩ := Prod.mk.inj asked
  cases declared : (e.program.symbol param).valueDeclaration with
  | none =>
      simp only [declared] at ran
      cases ran
  | some site =>
      simp only [declared] at ran
      cases held : (e.program.site site).type with
      | none =>
          simp only [held] at ran
          cases ran
      | some annotation =>
          simp only [held] at ran
          obtain ⟨value, between, made, ran⟩ := of_bind_ok ran
          rw [lift_apply, Prod.mk.injEq] at ran
          have placed : e.program.annotationOf param = some annotation := by
            rw [Program.annotationOf, declared, Option.bind_some, held]
          rw [placed, value_of_read ran.1]
          exact ⟨between, made⟩

theorem opens_includeParameter {param : SymbolId}
    (within : ∀ name ∈ e.program.annotationUses u (e.program.annotationOf param), free name) :
    Opens free (e.includeParameter (some param)) fun p => p.value.Open := by
  unfold Program.annotationOf at within
  refine opens_lift_bind fun id found => ?_
  obtain rfl := Option.some.inj (of_present found)
  dsimp only
  split
  · exact opens_diagnose _ _
  · rename_i site declared
    rw [declared, Option.bind_some] at within
    split
    · exact opens_diagnose _ _
    · rename_i annotation held
      rw [held] at within
      refine opens_bind (opens_annotated opening within) fun value => opens_lift_of ?_
      intro p read name opened
      rw [value_of_read read] at opened
      exact Or.inr opened

/-- The names that a signature binds are not open in what is made of it. -/
theorem not_mem_signatureBinders {id : SignatureId} {callable : Node.Callable Node} {w after : Walk}
    (ran : e.includeSignature (some id) w = (.ok callable, after)) {name : String}
    (opened : (Node.function callable).Open name) :
    name ∉ e.program.signatureBinders (e.program.signature id) := by
  obtain ⟨types, params, -⟩ := Node.open_function opened
  obtain ⟨_, _, asked, ran⟩ := of_bind_ok ran
  obtain ⟨⟨⟩, rfl⟩ := Prod.mk.inj asked
  obtain ⟨described, _, first, ran⟩ := of_bind_ok ran
  obtain ⟨listed, _, read, ran⟩ := of_bind_ok ran
  obtain ⟨parameters, _, second, ran⟩ := of_bind_ok ran
  obtain ⟨returns, _, -, ran⟩ := of_bind_ok ran
  cases ran
  rw [lift_apply, Prod.mk.injEq] at read
  intro held
  rcases List.mem_append.mp held with held | held
  · exact not_mem_parameterNames first types held
  · obtain ⟨param, inside, inferred⟩ := List.mem_filterMap.mp held
    rw [Build.slots_of_each read.1] at inside
    obtain ⟨p, member, before, later, made⟩ := ran_of_mapM second
      (List.reduceOption_mem_iff.mp inside)
    obtain ⟨_, annotated⟩ := annotation_of_includeParameter made
    exact params p member _ (infer_of_annotated opening inferred annotated) rfl

theorem opens_includeSignature {signature : Option SignatureId}
    (within : ∀ id, signature = some id → ∀ name ∈ e.program.signatureUses u id, free name) :
    Opens free (e.includeSignature signature) fun callable => (Node.function callable).Open := by
  cases signature with
  | none => exact ⟨fun _ _ known => known, nofun⟩
  | some id =>
      let record := e.program.signature id
      have known (name : String) (used : name ∈ e.program.boundUses u record.typeParameters.slots ++
          record.parameters.slots.reduceOption.flatMap
            (fun param => e.program.annotationUses u (e.program.annotationOf param)) ++
          u.of record.returns) : name ∈ e.program.signatureBinders record ∨ free name := by
        by_cases bound : name ∈ e.program.signatureBinders record
        · exact Or.inl bound
        · exact Or.inr (within id rfl name (List.mem_filter.mpr ⟨used, by simpa using bound⟩))
      refine Opens.bound (e.program.signatureBinders record) ?_ fun w callable after ran name opened =>
        not_mem_signatureBinders opening ran opened
      refine opens_lift_bind fun _ found => ?_
      obtain rfl := Option.some.inj (of_present found)
      refine opens_bind (opens_includeTypeParameters opening fun name used =>
        known name (by simp [record, used])) fun types => opens_lift_bind fun params listed => ?_
      have parameter : ∀ param ∈ params, Opens (fun name => name ∈ e.program.signatureBinders record ∨
          free name) (e.includeParameter param) fun p => p.value.Open := by
        rintro (_ | param) held
        · exact ⟨fun _ _ known => known, nofun⟩
        · refine opens_includeParameter opening fun name used => known name ?_
          refine List.mem_append_left _ (List.mem_append_right _ (List.mem_flatMap.mpr ⟨param, ?_, used⟩))
          rw [Build.slots_of_each listed]
          exact List.reduceOption_mem_iff.mpr held
      refine opens_bind ((opens_mapM parameter).weaken fun _ => Or.inl) fun parameters => ?_
      refine opens_bind (opens_visitPresent opening fun name used =>
        Or.inl (Or.inl (known name (by simp [record, used])))) fun returns => ?_
      refine opens_pure fun name opened => ?_
      obtain ⟨-, -, opened | ⟨node, held, opened⟩ | opened⟩ := Node.open_function opened
      · exact Or.inl (Or.inl (Or.inr opened))
      · obtain ⟨p, member, rfl⟩ := List.mem_map.mp held
        exact Or.inl (Or.inr ⟨p, member, Node.open_parameter opened⟩)
      · exact Or.inr opened

theorem opens_includeSignatureAt {site : Option SiteId} {make : Node.Callable Node → Node}
    (closes : ∀ callable name, (make callable).Open name → (Node.function callable).Open name)
    (within : ∀ name ∈ e.program.signatureUsesAt u site, free name) :
    Opens free (do
      let signature ← e.program.signatureOf site
      return make (← e.includeSignature signature)) Open := by
  refine opens_lift_bind fun signature told => ?_
  have signed : Opens free (e.includeSignature signature) fun callable => (Node.function callable).Open := by
    refine opens_includeSignature opening ?_
    rintro id rfl name used
    exact within name (by rwa [Program.signatureUsesAt_of_signatureOf told])
  exact opens_bind signed fun callable => opens_pure fun name opened =>
    Or.inr (closes callable name opened)

theorem opens_includeConstructors {type : TypeId}
    (within : ∀ name ∈ e.program.constructorUses u type, free name) :
    Opens free (e.includeConstructors type) OpenAll := by
  refine opens_lift_bind fun sites listed => opens_mapM fun site held => ?_
  refine opens_includeSignatureAt opening (fun _ _ => Node.open_construct) fun name used => within name ?_
  rw [Program.constructorUses, listed]
  exact List.mem_flatMap.mpr ⟨site, held, used⟩

theorem opens_includePropValue {prop : SymbolId}
    (within : ∀ name ∈ e.program.memberUses u prop, free name) :
    Opens free (e.includePropValue prop) Open := by
  unfold Program.memberUses at within
  unfold includePropValue
  dsimp only
  split
  · exact opens_diagnose _ _
  · rename_i site declared
    simp only [declared] at within
    split
    · rename_i isMethod
      rw [if_pos isMethod] at within
      exact opens_includeSignatureAt opening (fun _ _ opened => opened) within
    · rename_i notMethod
      rw [if_neg notMethod] at within
      have written : Opens free (e.includeWritten (e.program.site site).type)
          fun node => OpenAll node.toList :=
        opens_includeWritten opening fun spelled name used => within name (by rwa [if_pos spelled])
      refine opens_bind_of written fun node asked => ?_
      obtain ⟨w, after, ran⟩ := asked
      cases node with
      | some node => exact opens_pure fun name opened => Or.inr (by simpa using opened)
      | none =>
          rw [if_neg (by simp [not_isSpelledOut ran])] at within
          refine opens_lift_bind fun type told => opens_visitPresent opening fun name used => ?_
          rw [told] at within
          exact Or.inl (within name used)

theorem opens_includeProp {prop : SymbolId}
    (within : ∀ name ∈ e.program.memberUses u prop, free name) :
    Opens free (e.includeProp prop) Open := by
  refine opens_lift_bind fun modifiers _ => opens_lift_bind fun comment _ => ?_
  refine opens_bind (opens_includePropValue opening within) fun value => opens_pure fun name opened => ?_
  exact Or.inr (Node.open_prop opened)

theorem opens_includeStatics {type : TypeId} {exported : List (Option SymbolId)}
    (listed : exported =
      (e.program.type type).symbol.elim [] fun symbol => (e.program.symbol symbol).exports.slots)
    (within : ∀ name ∈ e.program.staticUses u type, free name) :
    Opens free (exported.mapM e.includeStatic) fun statics => OpenAll statics.flatten := by
  have each : ∀ member ∈ exported, Opens free (e.includeStatic member) OpenAll := by
    intro member held
    refine opens_lift_bind fun id found => ?_
    obtain rfl := of_present found
    split
    · rename_i site own declared
      refine opens_bind (opens_includeProp opening fun name used => within name ?_) fun node =>
        opens_pure fun name opened => Or.inr (by simpa using opened)
      rw [Program.staticUses]
      refine List.mem_flatMap.mpr ⟨id, ?_, by simpa only [own, declared] using used⟩
      rw [listed] at held
      cases named : (e.program.type type).symbol with
      | none =>
          rw [named] at held
          cases held
      | some symbol =>
          rw [named] at held
          exact List.reduceOption_mem_iff.mpr held
    · exact opens_pure fun name opened => absurd opened (Node.openAll_nil name)
  exact (opens_mapM each).narrow fun _ _ => among_flatten

omit opening in
def Unrepeated (e : Engine) (u : Usage) (type : TypeId) (selection : Program.Selection)
    (nodes : List Node) (name : String) : Prop :=
  OpenAll nodes name ∧ ¬ e.program.Repeats u type selection nodes name

theorem opens_includeOwn {type : TypeId} {selection : Program.Selection} {inherited : List Int}
    {prop : Option SymbolId} (held : prop ∈ (e.program.type type).properties.slots)
    (within : ∀ id, prop = some id → selection.member id = true →
      ∀ name ∈ e.program.memberUses u id, free name) :
    Opens free (e.includeOwn inherited prop) (e.Unrepeated u type selection) := by
  refine opens_lift_bind fun id found => ?_
  obtain rfl := of_present found
  split
  · exact opens_pure fun name opened => absurd opened.1 (Node.openAll_nil name)
  · have used : ∀ name ∈ e.program.memberUses u id, name ∈ e.program.memberUses u id := fun _ used => used
    have shown : Opens (· ∈ e.program.memberUses u id) (do return [← e.includeProp id]) OpenAll :=
      opens_bind (opens_includeProp opening used) fun node =>
        opens_pure fun name opened => Or.inr (by simpa using opened)
    refine shown.sharpen fun w nodes after ran name unrepeated => ⟨unrepeated.1, fun used => ?_⟩
    obtain ⟨node, _, made, ran⟩ := of_bind_ok ran
    cases ran
    cases chosen : selection.member id with
    | true => exact within id rfl chosen name used
    | false =>
        have listed : ∃ shown ∈ [node], shown.memberId? = some (e.program.memberId id) :=
          ⟨node, List.mem_singleton_self _, memberId_of_includeProp made⟩
        exact absurd (.member held chosen listed used) unrepeated.2

theorem opens_includeOwnIndex {type : TypeId} {selection : Program.Selection} {edges : List Node}
    {kind : IndexKind}
    (within : selection.index kind = true → ∀ name ∈ e.program.indexUses u type kind, free name) :
    Opens free (e.includeOwnIndex type edges kind) (e.Unrepeated u type selection) := by
  unfold includeOwnIndex
  split
  · exact opens_pure fun name opened => absurd opened.1 (Node.openAll_nil name)
  · rename_i value held
    split
    · exact opens_pure fun name opened => absurd opened.1 (Node.openAll_nil name)
    · have shown : Opens (· ∈ e.program.indexUses u type kind)
          (do return [← e.includeIndexMember type value kind]) OpenAll := by
        have member : Opens (· ∈ e.program.indexUses u type kind) (e.includeIndexMember type value kind)
            Open := by
          refine opens_lift_bind fun name _ => opens_bind ((opening.visit value).weaken ?_) fun node => ?_
          · intro name used
            rwa [Program.indexUses, held]
          · refine opens_pure fun name opened => Or.inr ?_
            rcases Node.open_index opened with key | opened
            · simp only [List.map_cons, List.map_nil, Node.openAll_cons, Node.openAll_nil,
                or_false] at key
              exact absurd (Node.open_parameter key) (Node.not_open_of_mentions (by simp))
            · exact opened
        exact opens_bind member fun node => opens_pure fun name opened => Or.inr (by simpa using opened)
      refine shown.sharpen fun w nodes after ran name unrepeated => ⟨unrepeated.1, fun used => ?_⟩
      obtain ⟨node, _, made, ran⟩ := of_bind_ok ran
      cases ran
      cases chosen : selection.index kind with
      | true => exact within chosen name used
      | false =>
          obtain ⟨key, _, -, made⟩ := of_bind_ok made
          obtain ⟨visited, _, -, made⟩ := of_bind_ok made
          cases made
          exact absurd (.index chosen ⟨_, List.mem_singleton_self _, rfl⟩ used) unrepeated.2

end Steps

end Engine

end TypeAtlas
