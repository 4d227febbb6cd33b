import TypeAtlas.Proofs.Extract.Levels
import TypeAtlas.Proofs.Extract.Orderly
import TypeAtlas.Proofs.Walk.Covering

/-!
The extractor goes from type to type in covering steps: a type parameter is declared in the scope of
the entry that mentions it, and every other name is registered before it is mentioned.
-/

namespace TypeAtlas

open Node (mentions mentionsAll)

namespace Engine

open Extract

def BasesRefer (e : Engine) : Prop :=
  ∀ declaration, ∀ clause ∈ (e.program.site declaration).heritage, ∀ site, some site ∈ clause.types →
    ∀ base, e.program.typeAt (some site) = .ok (some base) →
      (e.baseName site).getD "" = "" ∨
        ∀ w node after, e.visit base w = (.ok node, after) → ∃ r, node = .ref r

structure Covering (e : Engine) : Prop where
  visit : ∀ type, Covers [] (e.visit type) mentions
  visitNamed : ∀ type name, Covers [] (e.visitNamed type name) mentions
  visitInline : ∀ type, Covers [] (e.visitInline type) mentions
  bodyOfType : ∀ type, Covers [] (e.bodyOfType type) mentions
  bodyOfAlias : ∀ site, Covers [] (e.bodyOfAlias site) mentions
  bases : e.BasesRefer

variable {known : List String}

theorem covers_register (name : String) {body : Extract Node} (covers : Covers [] body mentions) :
    Covers known (register name body) fun _ => [name] := by
  have reserved : Covers [] (do Extract.reserve name; body) mentions :=
    covers_bind (covers_reserve name) fun _ => covers
  have entry : Covers known (inScope name do Extract.reserve name; Extract.set name (← body))
      fun _ => [name] := by
    rw [← bind_assoc]
    exact covers_entry name reserved
  have opened (w : Walk) : register name body w = if w.registry.has name = true then (.ok (), w)
      else (inScope name do Extract.reserve name; Extract.set name (← body)) w := by
    rw [register, bind_ok (isRegistered_apply name w)]
    split <;> rfl
  constructor
  · intro w
    rw [opened]
    split
    · exact Walk.Extends.refl w
    · exact entry.extended w
  · intro w value after ran covered inside knows
    rw [opened] at ran
    split at ran
    · rename_i present
      cases ran
      refine ⟨covered, ?_⟩
      intro mentioned member
      rw [List.mem_singleton] at member
      subst member
      exact Or.inl present
    · exact entry.covered w value after ran covered inside knows

section Steps

variable {e : Engine} (covering : e.Covering)
include covering

theorem covers_visitPresent (type : Option TypeId) : Covers known (e.visitPresent type) mentions :=
  covers_bind (covers_lift _) fun id => (covering.visit id).weaken

theorem covers_visitAll (types : List (Option TypeId)) :
    Covers known (e.visitAll types) mentionsAll :=
  covers_mapM fun type => covers_visitPresent covering type

omit covering in
theorem covers_normalizeArguments (type : TypeId) (params : Slots SiteId) (types : List Node)
    (name : String) (subset : mentionsAll types ⊆ known) :
    Covers known (e.normalizeArguments type params types name) mentionsAll := by
  refine covers_bind covers_get fun seen => ?_
  refine covers_bind (covers_lift _) fun ids => ?_
  refine covers_bind (covers_lift _) fun params => ?_
  apply covers_lift_of
  intro kept trimmed mentioned member
  obtain ⟨node, held, mentioned⟩ := List.mem_flatMap.mp member
  have bounded := List.IsPrefix.subset (prefix_of_trimDefaults ids _ trimmed) held
  have within : node ∈ types := by
    split at bounded
    · exact List.mem_of_mem_take bounded
    · exact bounded
  simp only [List.nil_append]
  exact subset (List.mem_flatMap.mpr ⟨node, within, mentioned⟩)

omit covering in
theorem covers_typeParameterRef (name : String) :
    Covers known (typeParameterRef name) fun ref => (Node.ref ref).mentions := by
  refine covers_bind (covers_declareLocal name) fun _ => ?_
  apply covers_pure
  simp

theorem covers_includeRef (type : TypeId) (name : String) (live : Option TypeId) :
    Covers known (e.includeRef type name live) mentions := by
  refine covers_bind (covers_visitAll covering _) fun types => ?_
  refine covers_bind (covers_normalizeArguments _ _ _ _ (by simp)) fun kept => ?_
  refine covers_bind (covers_resolve name kept live (by simp)) fun ref => ?_
  apply covers_pure
  simp

theorem covers_makeRef (type : Option TypeId) (name : String) :
    Covers known (e.makeRef type name) mentions := by
  have body : Covers [] (do
      let id ← present type
      let info := e.program.type id
      e.bodyOfType (if info.isReference then info.target.getD id else id)) mentions :=
    covers_bind (covers_lift _) fun id => (covering.bodyOfType _).weaken
  refine covers_bind (covers_register name body) fun _ => ?_
  exact covers_bind (covers_lift _) fun id => covers_includeRef covering id name none

theorem covers_ensureNamed (type : Option TypeId) (name : String) :
    Covers known (e.ensureNamed type name) fun _ => [] := by
  refine covers_bind (covers_isRegistered name) fun present => ?_
  split
  · exact covers_pure (by simp)
  · exact covers_map _ (covers_makeRef covering type name) (by simp)

omit covering in
theorem covers_importName (symbol : SymbolId) (origin : Origin) (scope : ImportScope) :
    Covers known (e.importName symbol origin scope) fun _ => [] := by
  cases scope with
  | global => exact covers_pure (by simp)
  | lib => exact covers_pure (by simp)
  | module_ =>
      have extended (w : Walk) := Walk.extends_bind w (origin.module?.getD "")
        (e.program.symbol symbol).name
      refine ⟨extended, ?_⟩
      intro w value after ran covered _ _
      cases ran
      exact ⟨covered.of_same_registry (extended w) (Walk.registry_bind w _ _), by simp⟩

omit covering e in
theorem covers_registerImport (name : String) {node : Node} (closed : node.mentions = []) :
    Covers known (registerImport name node) fun _ => [name] := by
  refine ⟨fun w => (orderly_registerImport name node w).grows.toExtends, ?_⟩
  intro w value after ran covered inside knows
  refine ⟨?_, ?_⟩
  · obtain ⟨seen, same, got, written⟩ := of_bind_ok ran
    cases got
    dsimp only at written
    split at written
    · exact ((covers_set closed).covered w value after written covered inside knows).1
    · cases written
      exact covered
  · intro mentioned member
    rw [List.mem_singleton] at member
    subst member
    exact Or.inl (has_of_registerImport ran)

omit covering in
theorem covers_bindImport (symbol : SymbolId) (origin : Origin) (scope : ImportScope) :
    Covers known (e.bindImport symbol origin scope) fun name => [name] := by
  refine covers_bind (covers_importName symbol origin scope) fun name => ?_
  refine covers_bind (covers_registerImport name (by simp)) fun _ => ?_
  apply covers_pure
  simp

omit covering in
theorem covers_externalName (symbol : Option SymbolId) :
    Covers known (e.externalName symbol) Option.toList := by
  unfold externalName
  dsimp only
  split
  · exact covers_pure (by simp)
  · refine covers_bind (covers_lift _) fun symbol => ?_
    split
    · exact covers_pure (by simp)
    · exact covers_map _ (covers_bindImport _ _ _) (by simp)

theorem covers_includeHidden (type : TypeId) :
    Covers known (e.includeHidden type) fun node => mentionsAll node.toList := by
  unfold includeHidden
  dsimp only
  split
  · exact covers_pure (by simp)
  · split
    · exact covers_pure (by simp)
    · split
      · exact covers_pure (by simp)
      · refine covers_bind (covers_emit _) fun _ => ?_
        refine covers_bind (covers_lift _) fun declared => ?_
        exact covers_some (covers_visitPresent covering declared)

theorem covers_includeExternal (type : TypeId) :
    Covers known (e.includeExternal type) fun node => mentionsAll node.toList := by
  unfold includeExternal
  dsimp only
  split
  · exact covers_pure (by simp)
  · split
    · exact covers_pure (by simp)
    · split
      · split
        · exact covers_includeHidden covering type
        · exact covers_pure (by simp)
      · split
        · exact covers_pure (by simp)
        · refine covers_bind (covers_bindImport _ _ _) fun name => ?_
          exact covers_some (covers_includeRef covering _ _ _)

theorem covers_makeAliasRef (type : TypeId) (name : String) :
    Covers known (e.makeAliasRef type name) mentions := by
  unfold makeAliasRef
  dsimp only
  split
  · rename_i site _ _
    have reference (known : List String) (name : String) (member : name ∈ known) : Covers known (do
        let types ← e.visitAll (e.program.type type).aliasArguments.slots
        let types ← e.normalizeArguments type (e.program.site site).typeParameters types name
        pure (Node.ref { name, types })) mentions := by
      refine covers_bind (covers_visitAll covering _) fun types => ?_
      refine covers_bind (covers_normalizeArguments _ _ _ _ (by simp)) fun kept => ?_
      apply covers_pure
      simp [member]
    refine covers_bind (covers_externalName _) fun bound => ?_
    split
    · rw [pure_bind]
      exact reference _ _ (by simp)
    · refine covers_bind (covers_register name (covering.bodyOfAlias _)) fun _ => ?_
      rw [pure_bind]
      exact reference _ name (by simp)
  · exact covers_diagnose _ _

theorem covers_includeMember (type : Option TypeId) :
    Covers known (e.includeMember type) fun member => (Node.member member).mentions := by
  refine covers_bind (covers_lift _) fun type => ?_
  refine covers_bind (covering.visitInline type).weaken fun value => ?_
  refine covers_bind (covers_lift _) fun comment => ?_
  apply covers_pure
  simp

theorem covers_includeTerminal (info : TypeInfo) (terminal : Terminal) :
    Covers known (e.includeTerminal info terminal) mentions := by
  cases terminal with
  | primitive kind => exact covers_pure (by simp)
  | literal =>
      unfold includeTerminal
      cases info.value with
      | none => exact covers_fail _ _
      | some value => exact covers_pure (by simp)
  | truth => exact covers_pure (by simp)
  | enumLiteral =>
      refine covers_bind (covers_lift _) fun comment => ?_
      refine covers_bind (covers_lift _) fun types => ?_
      refine covers_bind (covers_mapM fun type => covers_includeMember covering type) fun values => ?_
      apply covers_pure
      simp [Node.mentionsAll, List.flatMap_map]
  | enumeration =>
      refine covers_bind (covers_lift _) fun comment => ?_
      refine covers_bind (covers_lift _) fun types => ?_
      refine covers_bind (covers_mapM fun type => covers_includeMember covering type) fun values => ?_
      apply covers_pure
      simp [Node.mentionsAll, List.flatMap_map]
  | bigintLiteral => exact covers_pure (by simp)
  | conditional =>
      refine covers_bind (covers_visitPresent covering _) fun extended => ?_
      refine covers_bind (covers_visitPresent covering _) fun check => ?_
      refine covers_bind (covers_visitPresent covering _) fun primary => ?_
      refine covers_bind (covers_visitPresent covering _) fun alternate => ?_
      apply covers_pure
      intro name member
      simp at member ⊢
      grind
  | substitution =>
      refine covers_bind (covers_visitPresent covering _) fun base => ?_
      exact covers_pure (by simp)
  | nonPrimitive => exact covers_pure (by simp)

theorem covers_includeBasic (type : TypeId) :
    Covers known (e.includeBasic type) fun node => mentionsAll node.toList := by
  unfold includeBasic
  dsimp only
  split
  · exact covers_some (covers_includeTerminal covering _ _)
  · exact covers_pure (by simp)

theorem covers_keyofNode (operand : Option TypeId) : Covers known (e.keyofNode operand) mentions :=
  covers_bind (covers_visitPresent covering operand) fun node => covers_pure (by simp)

theorem covers_unionNode (types : List (Option TypeId)) :
    Covers known (e.unionNode types) mentions :=
  covers_bind (covers_visitAll covering types) fun nodes => covers_pure (by simp)

theorem covers_includeIndex (type : Option TypeId) :
    Covers known (e.includeIndex type) fun node => mentionsAll node.toList := by
  unfold includeIndex
  split
  · exact covers_pure (by simp)
  · split
    · exact covers_some (covers_keyofNode covering _)
    · exact covers_some (covering.visit _).weaken

theorem covers_includeReference (type : TypeId) :
    Covers known (e.includeReference type) mentions := by
  refine covers_bind (covers_includeExternal covering type) fun outside => ?_
  cases outside with
  | some node => exact covers_pure (by simp)
  | none =>
      refine covers_bind (covers_lift _) fun symbol => ?_
      refine covers_bind (covers_ensureNamed covering _ _) fun _ => ?_
      exact covers_includeRef covering _ _ _

theorem covers_includeCombinator (type : TypeId) :
    Covers known (e.includeCombinator type) fun node => mentionsAll node.toList := by
  unfold includeCombinator
  dsimp only
  split
  · exact covers_bind (covers_visitAll covering _) fun nodes => covers_pure (by simp)
  · split
    · exact covers_some (covers_includeReference covering type)
    · split
      · refine covers_bind (covers_lift _) fun types => ?_
        exact covers_some (covers_unionNode covering types)
      · split
        · refine covers_bind (covers_lift _) fun types => ?_
          exact covers_bind (covers_visitAll covering types) fun nodes => covers_pure (by simp)
        · split
          · refine covers_bind (covers_includeIndex covering _) fun index => ?_
            split
            · refine covers_bind (covers_some (covering.visit _).weaken) fun object => ?_
              apply covers_pure
              intro name member
              simp at member ⊢
              grind
            · rw [pure_bind]
              apply covers_pure
              simp
          · exact covers_pure (by simp)

theorem covers_includeWritten (site : Option SiteId) :
    Covers known (e.includeWritten site) fun node => mentionsAll node.toList := by
  unfold includeWritten
  dsimp only
  split
  · exact covers_pure (by simp)
  · split
    · refine covers_bind (covers_lift _) fun operand => ?_
      exact covers_some (covers_keyofNode covering operand)
    · split
      · refine covers_bind (covers_lift _) fun parts => ?_
        refine covers_bind (covers_mapM fun part => covers_lift _) fun types => ?_
        exact covers_some (covers_unionNode covering types)
      · exact covers_pure (by simp)

theorem covers_includeWrittenOrInline (site : Option SiteId) :
    Covers known (e.includeWrittenOrInline site) mentions := by
  refine covers_bind (covers_includeWritten covering site) fun written => ?_
  cases written with
  | some node => exact covers_pure (by simp)
  | none =>
      refine covers_bind (covers_lift _) fun type => ?_
      exact covers_bind (covers_lift _) fun type => (covering.visitInline type).weaken

theorem covers_includeConstraint (type : TypeId) :
    Covers known (e.includeConstraint type) fun node => mentionsAll node.toList := by
  unfold includeConstraint
  dsimp only
  split
  · split
    · refine covers_bind (covers_lift _) fun operand => ?_
      exact covers_some (covers_keyofNode covering operand)
    · refine covers_bind (covers_lift _) fun bound => ?_
      exact covers_some (covers_visitPresent covering bound)
  · split
    · exact covers_some (covering.visit _).weaken
    · exact covers_pure (by simp)

theorem covers_includeDefault (type : TypeId) :
    Covers known (e.includeDefault type) fun node => mentionsAll node.toList := by
  unfold includeDefault
  dsimp only
  split
  · refine covers_bind (covers_lift _) fun fallback => ?_
    exact covers_some (covers_visitPresent covering fallback)
  · exact covers_pure (by simp)

theorem covers_includeTypeParameter (type : TypeId) :
    Covers known (e.includeTypeParameter type) fun param =>
      mentionsAll (param.map Node.typeParameter).toList := by
  unfold includeTypeParameter
  split
  · exact covers_pure (by simp)
  · refine covers_bind (covers_typeParameterRef _) fun parameter => ?_
    refine covers_bind (covers_includeConstraint covering type) fun constraint => ?_
    refine covers_bind (covers_includeDefault covering type) fun default => ?_
    apply covers_pure
    intro name member
    simp at member ⊢
    grind

theorem covers_includeTypeParameters (params : Slots TypeId) :
    Covers known (e.includeTypeParameters params) fun types =>
      mentionsAll (types.map Node.typeParameter) := by
  have each (param : Option TypeId) : Covers [] (do e.includeTypeParameter (← present param))
      fun param => mentionsAll (param.map Node.typeParameter).toList :=
    covers_bind (covers_lift _) fun type => covers_includeTypeParameter covering type
  refine covers_bind (covers_mapM each) fun described => ?_
  apply covers_pure
  intro name member
  obtain ⟨node, inside, mentioned⟩ := List.mem_flatMap.mp member
  obtain ⟨param, filtered, rfl⟩ := List.mem_map.mp inside
  obtain ⟨slot, listed, same⟩ := List.mem_filterMap.mp filtered
  apply List.mem_append_left
  apply List.mem_flatMap.mpr
  refine ⟨slot, listed, ?_⟩
  rw [id] at same
  subst same
  simpa using mentioned

theorem covers_declaredTypeParameters (site : SiteId) :
    Covers known (e.declaredTypeParameters site) fun types =>
      mentionsAll (types.map Node.typeParameter) := by
  refine covers_bind (covers_lift _) fun written => ?_
  refine covers_bind (covers_mapM fun param => covers_lift _) fun params => ?_
  exact covers_includeTypeParameters covering _

/-- The base of a declaration is a reference, or nothing is registered for it. -/
theorem covers_includeBase {declaration : SiteId} {clause : HeritageClause}
    (held : clause ∈ (e.program.site declaration).heritage) {site : Option SiteId}
    (listed : site ∈ clause.types) : Covers known (e.includeBase site) mentions := by
  refine covers_bind_of (covers_lift _) fun base asked => ?_
  obtain ⟨_, _, asked⟩ := asked
  have recorded : e.program.typeAt site = .ok base := (Prod.mk.inj asked).1
  refine covers_bind_of (covers_visitPresent covering base) fun node visited => ?_
  split
  · exact covers_pure (by simp)
  · rename_i structural
    refine covers_bind_of (covers_lift _) fun place found => ?_
    obtain ⟨_, _, found⟩ := found
    obtain rfl : site = some place := of_present (Prod.mk.inj found).1
    split
    · exact covers_pure (by simp)
    · rename_i name written
      split
      · exact covers_pure (by simp)
      · rename_i nonempty
        exfalso
        obtain ⟨w, after, visited⟩ := visited
        obtain ⟨type, between, present, stepped⟩ := of_bind_ok visited
        obtain rfl : base = some type := of_present (Prod.mk.inj present).1
        rcases covering.bases declaration clause held place listed type recorded with empty | refers
        · simp [written] at empty
          simp [empty] at nonempty
        · obtain ⟨r, same⟩ := refers between node after stepped
          exact structural r same

theorem covers_includeClauses {declaration : SiteId} {clauses : List HeritageClause}
    (held : clauses ⊆ (e.program.site declaration).heritage) :
    Covers known (e.includeClauses clauses) fun heritage => mentionsAll heritage.edges := by
  induction clauses generalizing known with
  | nil => exact covers_pure (by simp [Heritage.edges])
  | cons clause rest ih =>
      have first : clause ∈ (e.program.site declaration).heritage := held (List.mem_cons_self ..)
      have items : Covers known (clause.types.mapM e.includeBase) mentionsAll :=
        covers_mapM_of fun site listed => covers_includeBase covering first listed
      refine covers_bind items fun items => ?_
      refine covers_bind (ih fun later member => held (List.mem_cons_of_mem _ member)) fun others => ?_
      cases clause.token <;>
      · apply covers_pure
        intro name member
        simp [Heritage.edges, mentionsAll] at member ⊢
        grind

theorem covers_includeHeritage (type : TypeId) :
    Covers known (e.includeHeritage type) fun heritage => mentionsAll heritage.edges := by
  unfold includeHeritage
  dsimp only
  split
  · split
    · exact covers_includeClauses covering (List.Subset.refl _)
    · exact covers_pure (by simp [Heritage.edges])
  · exact covers_pure (by simp [Heritage.edges])

theorem covers_includeAnnotation (site : Option SiteId) :
    Covers known (e.includeAnnotation site) mentions := by
  unfold includeAnnotation
  dsimp only
  split
  · refine covers_bind (covers_lift _) fun type => ?_
    exact covers_bind (covers_lift _) fun type => (covering.visitNamed type _).weaken
  · split
    · split
      · exact covers_diagnose _ _
      · refine covers_bind (covers_lift _) fun type => ?_
        exact covers_bind (covers_visitPresent covering type) fun node => covers_pure (by simp)
    · exact covers_includeWrittenOrInline covering site

omit covering e in
theorem mentions_of_read {name : String} {spread optional : Option Bool} {value : Node}
    {param : Node.Parameter Node}
    (read : ((fun spread optional => ({ name, spread, optional, value } : Node.Parameter Node)) <$>
      truth "spread" spread <*> truth "optional" optional).toExcept = .ok param) :
    (Node.parameter param).mentions = value.mentions := by
  cases spread with
  | none => cases optional <;> cases read
  | some spread =>
      cases optional with
      | none => cases read
      | some optional =>
          cases read
          simp

theorem covers_includeParameter (param : Option SymbolId) :
    Covers known (e.includeParameter param) fun param => (Node.parameter param).mentions := by
  refine covers_bind (covers_lift _) fun param => ?_
  dsimp only
  split
  · exact covers_diagnose _ _
  · split
    · exact covers_diagnose _ _
    · rename_i written _
      have value : Covers ([] ++ known) (e.includeAnnotation (some written)) mentions :=
        covers_includeAnnotation covering (some written)
      refine covers_bind value fun node => ?_
      apply covers_lift_of
      intro param read
      rw [mentions_of_read read]
      simp

theorem covers_includeSignature (signature : Option SignatureId) :
    Covers known (e.includeSignature signature) fun callable => (Node.function callable).mentions := by
  refine covers_bind (covers_lift _) fun id => ?_
  refine covers_bind (covers_includeTypeParameters covering _) fun types => ?_
  refine covers_bind (covers_lift _) fun params => ?_
  refine covers_bind (covers_mapM fun param => covers_includeParameter covering param) fun parameters => ?_
  refine covers_bind (covers_visitPresent covering _) fun returns => ?_
  apply covers_pure
  intro name member
  simp [mentionsAll, List.flatMap_map] at member ⊢
  grind

theorem covers_includeConstructors (type : TypeId) :
    Covers known (e.includeConstructors type) mentionsAll := by
  refine covers_bind (covers_lift _) fun sites => covers_mapM fun site => ?_
  refine covers_bind (covers_lift _) fun signature => ?_
  exact covers_bind (covers_includeSignature covering signature) fun callable => covers_pure (by simp)

theorem covers_includePropValue (prop : SymbolId) :
    Covers known (e.includePropValue prop) mentions := by
  unfold includePropValue
  dsimp only
  split
  · exact covers_diagnose _ _
  · split
    · refine covers_bind (covers_lift _) fun signature => ?_
      refine covers_bind (covers_includeSignature covering signature) fun callable => ?_
      exact covers_pure (List.subset_append_left _ _)
    · refine covers_bind (covers_includeWritten covering _) fun written => ?_
      split
      · exact covers_pure (by simp)
      · exact covers_bind (covers_lift _) fun type => covers_visitPresent covering type

theorem covers_includeProp (prop : SymbolId) : Covers known (e.includeProp prop) mentions := by
  refine covers_bind (covers_lift _) fun modifiers => ?_
  refine covers_bind (covers_lift _) fun comment => ?_
  exact covers_bind (covers_includePropValue covering prop) fun value => covers_pure (by simp)

theorem covers_includeOwnIndex (type : TypeId) (edges : List Node) (kind : IndexKind) :
    Covers known (e.includeOwnIndex type edges kind) mentionsAll := by
  unfold includeOwnIndex
  split
  · exact covers_pure (by simp)
  · split
    · exact covers_pure (by simp)
    · rename_i value _ _
      have member : Covers known (e.includeIndexMember type value kind) mentions := by
        refine covers_bind (covers_lift _) fun name => ?_
        refine covers_bind (covering.visit value).weaken fun value => ?_
        apply covers_pure
        cases kind <;> simp
      exact covers_bind member fun node => covers_pure (by simp)

theorem covers_includeOwn (inherited : List Int) (prop : Option SymbolId) :
    Covers known (e.includeOwn inherited prop) mentionsAll := by
  refine covers_bind (covers_lift _) fun prop => ?_
  split
  · exact covers_pure (by simp)
  · exact covers_bind (covers_includeProp covering prop) fun member => covers_pure (by simp)

theorem covers_includeShape (type : TypeId) (heritage : Heritage)
    (subset : mentionsAll heritage.bases ⊆ known) :
    Covers known (e.includeShape type heritage) fun shape => (Node.interface shape).mentions := by
  have call (signature : Option SignatureId) : Covers [] (do
      return Node.function (← e.includeSignature signature)) mentions :=
    covers_bind (covers_includeSignature covering signature) fun _ => covers_pure (by simp)
  refine covers_bind covers_get fun seen => ?_
  refine covers_bind (covers_lift _) fun inherited => ?_
  refine covers_bind (covers_lift _) fun properties => ?_
  refine covers_bind (covers_mapM (covers_includeOwn covering inherited)) fun props => ?_
  refine covers_bind (covers_includeOwnIndex covering _ _ _) fun numberIndex => ?_
  refine covers_bind (covers_includeOwnIndex covering _ _ _) fun stringIndex => ?_
  refine covers_bind (covers_lift _) fun signatures => ?_
  refine covers_bind (covers_mapM call) fun calls => ?_
  refine covers_bind (covers_lift _) fun comment => ?_
  refine covers_bind (covers_includeTypeParameters covering _) fun types => ?_
  apply covers_pure
  intro name member
  have bases := @subset name
  simp [mentionsAll] at member bases ⊢
  grind

theorem covers_includeStatic (member : Option SymbolId) :
    Covers known (e.includeStatic member) mentionsAll := by
  refine covers_bind (covers_lift _) fun member => ?_
  split
  · exact covers_bind (covers_includeProp covering _) fun node => covers_pure (by simp)
  · exact covers_pure (by simp)

theorem covers_includeClass (type : TypeId) : Covers known (e.includeClass type) mentions := by
  refine covers_bind (covers_includeHeritage covering type) fun heritage => ?_
  refine covers_bind (covers_includeShape covering type heritage ?_) fun shape => ?_
  · intro name member
    simp [Heritage.edges, member]
  have members (known : List String) (subset : mentionsAll heritage.implemented ⊆ known)
      (shaped : (Node.interface shape).mentions ⊆ known)
      (exported : List (Option SymbolId)) : Covers known (do
      let statics ← exported.mapM e.includeStatic
      let constructors ← e.includeConstructors type
      pure (Node.classShape { shape with props := shape.props ++ statics.flatten ++ constructors }
        heritage.implemented)) mentions := by
    refine covers_bind (covers_mapM (covers_includeStatic covering)) fun statics => ?_
    refine covers_bind (covers_includeConstructors covering type) fun constructors => ?_
    apply covers_pure
    intro name member
    have implemented := @subset name
    have inner := @shaped name
    simp [mentionsAll] at member implemented inner ⊢
    grind
  dsimp only
  split
  · refine covers_bind (covers_lift _) fun exported => members _ ?_ ?_ exported
    · intro name member
      simp [Heritage.edges, member]
    · exact List.subset_append_left _ _
  · rw [pure_bind]
    refine members _ ?_ ?_ []
    · intro name member
      simp [Heritage.edges, member]
    · exact List.subset_append_left _ _

theorem covers_includeMapped (type : TypeId) : Covers known (e.includeMapped type) mentions := by
  unfold includeMapped
  dsimp only
  split
  · split
    · refine covers_bind (covers_declareLocal _) fun _ => ?_
      refine covers_bind (covers_lift _) fun value => ?_
      refine covers_bind (covers_lift _) fun comment => ?_
      refine covers_bind (covers_includeConstraint covering _) fun constraint => ?_
      refine covers_bind (covers_visitPresent covering value) fun value => ?_
      refine covers_bind (covers_lift _) fun optional => ?_
      apply covers_pure
      intro name member
      simp at member ⊢
      grind
    · exact covers_diagnose _ _
  · exact covers_diagnose _ _

theorem covers_includeObject (type : TypeId) :
    Covers known (e.includeObject type) fun node => mentionsAll node.toList := by
  unfold includeObject
  dsimp only
  split
  · exact covers_pure (by simp)
  · split
    · exact covers_some (covers_includeMapped covering type)
    · split
      · exact covers_some (covers_includeClass covering type)
      · refine covers_bind (covers_includeHeritage covering type) fun heritage => ?_
        refine covers_bind (covers_includeShape covering type heritage ?_) fun shape => ?_
        · intro name member
          simp [Heritage.edges, member]
        · apply covers_pure
          simp only [Option.toList, Node.mentionsAll_cons, Node.mentionsAll_nil, List.append_nil]
          exact List.subset_append_left _ _

omit covering in
theorem covers_firstOf (type : TypeId) (describes : List (TypeId → Extract (Option Node)))
    (each : ∀ describe ∈ describes, Covers [] (describe type) fun node => mentionsAll node.toList) :
    Covers known (e.firstOf type describes) mentions := by
  induction describes generalizing known with
  | nil =>
      have counted : Covers known (modify fun w : Walk => { w with unidentified := w.unidentified + 1 })
          fun _ => [] := by
        have extended (w : Walk) : w.Extends { w with unidentified := w.unidentified + 1 } :=
          Walk.Grows.toExtends (Walk.grows_of_same rfl rfl rfl rfl Walk.Reachable.count)
        refine ⟨extended, ?_⟩
        intro w value after ran covered _ _
        cases ran
        exact ⟨covered.of_same_registry (extended w) rfl, by simp⟩
      refine covers_bind counted fun _ => ?_
      refine covers_bind (covers_emit _) fun _ => ?_
      exact covers_pure (by simp)
  | cons describe rest ih =>
      refine covers_bind (each describe (by simp)).weaken fun described => ?_
      cases described with
      | some node => exact covers_pure (by simp)
      | none => exact ih fun later member => each later (by simp [member])

theorem covers_includeNamed (type : TypeId) : Covers known (e.includeNamed type) mentions := by
  apply covers_firstOf
  simp only [List.mem_cons, List.not_mem_nil, or_false, forall_eq_or_imp, forall_eq]
  exact ⟨covers_includeBasic covering type, covers_includeObject covering type⟩

theorem covers_includeInline (type : TypeId) : Covers known (e.includeInline type) mentions := by
  apply covers_firstOf
  simp only [List.mem_cons, List.not_mem_nil, or_false, forall_eq_or_imp, forall_eq]
  exact ⟨covers_includeBasic covering type, covers_includeCombinator covering type,
    covers_includeHidden covering type, covers_includeObject covering type⟩

theorem covers_includeKnown (type : TypeId) (name : Option String) :
    Covers known (e.includeKnown type name) mentions := by
  unfold includeKnown
  dsimp only
  split
  · refine covers_bind (covers_typeParameterRef _) fun ref => ?_
    exact covers_pure (by simp)
  · split
    · exact covers_includeInline covering type
    · split
      · exact covers_includeInline covering type
      · split
        · exact covers_makeAliasRef covering type _
        · refine covers_bind (covers_includeExternal covering type) fun outside => ?_
          split
          · exact covers_pure (by simp)
          · split
            · exact covers_includeInline covering type
            · exact covers_makeRef covering _ _

theorem covers_includeType (type : TypeId) : Covers known (e.includeType type) mentions := by
  unfold includeType
  dsimp only
  split
  · exact covers_keyofNode covering _
  · exact covers_includeKnown covering type _

theorem covers_aliasBody (site : SiteId) : Covers known (e.aliasBody site) mentions := by
  refine covers_bind (covers_lift _) fun comment => ?_
  refine covers_bind (covers_declaredTypeParameters covering site) fun types => ?_
  refine covers_bind (covers_lift _) fun type => ?_
  refine covers_bind (covers_lift _) fun type => ?_
  refine covers_bind (covers_includeInline covering type) fun child => ?_
  apply covers_pure
  intro name member
  simp at member ⊢
  grind

end Steps

/-- A name that is used for a type: that of an alias, or that of a symbol which is not made up. -/
def Usable (e : Engine) (type : TypeId) (name : String) : Prop :=
  let info := e.program.type type
  info.alias?.isSome ∧ info.alias? ≠ info.symbol ∨
    info.isAnonymousObject = false ∧ e.isAnonymous name = false ∧
      info.symbol.map (fun symbol => (e.program.symbol symbol).name) = some name

def Referable (e : Engine) (type : TypeId) : Prop :=
  let info := e.program.type type
  info.keyofOperand? = none ∧
    ∃ name, e.nameOf info = some name ∧ name.isEmpty = false ∧ e.Usable type name

theorem ref_of_includeRef {e : Engine} {type : TypeId} {name : String} {live : Option TypeId}
    {w after : Walk} {node : Node} (ran : e.includeRef type name live w = (.ok node, after)) :
    ∃ r, node = .ref r := by
  obtain ⟨types, visited, _, ran⟩ := of_bind_ok ran
  obtain ⟨kept, normal, _, ran⟩ := of_bind_ok ran
  obtain ⟨r, resolved, _, ran⟩ := of_bind_ok ran
  cases ran
  exact ⟨r, rfl⟩

theorem ref_of_makeRef {e : Engine} {type : Option TypeId} {name : String} {w after : Walk}
    {node : Node} (ran : e.makeRef type name w = (.ok node, after)) : ∃ r, node = .ref r := by
  obtain ⟨_, registered, _, ran⟩ := of_bind_ok ran
  obtain ⟨id, same, _, ran⟩ := of_bind_ok ran
  exact ref_of_includeRef ran

theorem ref_of_makeAliasRef {e : Engine} {type : TypeId} {name : String} {w after : Walk}
    {node : Node} (ran : e.makeAliasRef type name w = (.ok node, after)) : ∃ r, node = .ref r := by
  unfold makeAliasRef at ran
  cases aliased : (e.program.type type).alias? with
  | none =>
      simp only [aliased] at ran
      cases ran
  | some symbol =>
      cases declared : e.program.firstDeclaration (some symbol) with
      | none =>
          simp only [aliased, declared] at ran
          cases ran
      | some site =>
          simp only [aliased, declared] at ran
          obtain ⟨bound, between, _, ran⟩ := of_bind_ok ran
          cases bound with
          | some bound =>
              obtain ⟨_, named, _, ran⟩ := of_bind_ok ran
              obtain ⟨types, visited, _, ran⟩ := of_bind_ok ran
              obtain ⟨kept, normal, _, ran⟩ := of_bind_ok ran
              cases ran
              exact ⟨_, rfl⟩
          | none =>
              obtain ⟨_, registered, _, ran⟩ := of_bind_ok ran
              obtain ⟨_, named, _, ran⟩ := of_bind_ok ran
              obtain ⟨types, visited, _, ran⟩ := of_bind_ok ran
              obtain ⟨kept, normal, _, ran⟩ := of_bind_ok ran
              cases ran
              exact ⟨_, rfl⟩

theorem ref_of_includeExternal {e : Engine} {type : TypeId} {name : String}
    (named : (e.program.type type).symbol.map (fun symbol => (e.program.symbol symbol).name) =
      some name)
    (usable : e.isAnonymous name = false) {w after : Walk} {node : Node}
    (ran : e.includeExternal type w = (.ok (some node), after)) : ∃ r, node = .ref r := by
  unfold includeExternal at ran
  cases held : (e.program.type type).symbol with
  | none =>
      rw [held] at named
      cases named
  | some symbol =>
      rw [held] at named
      cases named
      cases outside : (e.originOf (some symbol)).scope? with
      | none =>
          simp only [held, outside] at ran
          cases ran
      | some scope =>
          simp only [held, outside, usable, Bool.false_eq_true, if_false] at ran
          split at ran
          · cases ran
          · obtain ⟨bound, between, _, ran⟩ := of_bind_ok ran
            rw [map_eq] at ran
            obtain ⟨made, final, visited, ran⟩ := of_bind_ok ran
            cases ran
            exact ref_of_includeRef visited

theorem ref_of_includeKnown {e : Engine} {type : TypeId} {name : String}
    (nonempty : name.isEmpty = false) (usable : e.Usable type name) {w after : Walk} {node : Node}
    (ran : e.includeKnown type (some name) w = (.ok node, after)) : ∃ r, node = .ref r := by
  have titled (ran : e.includeTitled type (some name) w = (.ok node, after)) :
      ∃ r, node = .ref r := by
    rw [includeTitled, if_neg (by simp [nonempty])] at ran
    split at ran
    · exact ref_of_makeAliasRef ran
    · rename_i unaliased
      rcases usable with ⟨aliased, distinct⟩ | ⟨object, usable, own⟩
      · simp [aliased, distinct] at unaliased
      · obtain ⟨outside, between, asked, ran⟩ := of_bind_ok ran
        cases outside with
        | some made =>
            cases ran
            exact ref_of_includeExternal own usable asked
        | none =>
            simp only [usable, object, Bool.or_self, Bool.false_eq_true, if_false] at ran
            exact ref_of_makeRef ran
  cases parameter : (e.program.type type).isTypeParameter with
  | false =>
      rw [e.includeKnown_of_other _ (.inl parameter)] at ran
      exact titled ran
  | true =>
      cases held : (e.program.type type).symbol with
      | none =>
          rw [e.includeKnown_of_other _ (.inr held)] at ran
          exact titled ran
      | some symbol =>
          rw [e.includeKnown_of_parameter _ parameter held] at ran
          obtain ⟨r, declared, _, ran⟩ := of_bind_ok ran
          cases ran
          exact ⟨r, rfl⟩

theorem ref_of_includeType {e : Engine} {type : TypeId} (referable : e.Referable type)
    {w after : Walk} {node : Node} (ran : e.includeType type w = (.ok node, after)) :
    ∃ r, node = .ref r := by
  obtain ⟨plain, name, named, nonempty, usable⟩ := referable
  have known : e.includeKnown type (some name) w = (.ok node, after) := by
    simpa only [includeType, plain, named] using ran
  exact ref_of_includeKnown nonempty usable known

def BasesNamed (e : Engine) : Prop :=
  ∀ declaration, ∀ clause ∈ (e.program.site declaration).heritage, ∀ site, some site ∈ clause.types →
    ∀ base, e.program.typeAt (some site) = .ok (some base) →
      (e.baseName site).getD "" = "" ∨ e.Referable base

theorem referable_within {e : Engine} {type : TypeId} (referable : e.Referable type) (depth : Nat) :
    (e.within depth).Referable type := by
  cases depth <;> exact referable

theorem basesNamed_withEntries {e : Engine} (named : e.BasesNamed) (depth entries : Nat) :
    (e.withEntries depth entries).BasesNamed := by
  cases entries <;> exact named

theorem basesRefer_bare (p : Program) (settings : ExtractionSettings) (libraries : LibrarySettings) :
    BasesRefer { program := p, settings, libraries } := by
  intro declaration clause held site listed base recorded
  right
  intro w node after ran
  cases ran

theorem basesRefer_within {e : Engine} (bases : e.BasesRefer) (named : e.BasesNamed) (depth : Nat) :
    (e.within depth).BasesRefer := by
  cases depth with
  | zero => exact bases
  | succ depth =>
      intro declaration clause held site listed base recorded
      rcases named declaration clause held site listed base recorded with unwritten | referable
      · exact Or.inl unwritten
      · right
        intro w node after ran
        exact ref_of_includeType (referable_within referable depth) ran

/-- An engine that stops at once. -/
theorem covering_bare (p : Program) (settings : ExtractionSettings) (libraries : LibrarySettings) :
    Covering { program := p, settings, libraries } := by
  exact ⟨fun _ => covers_fail _ _, fun _ _ => covers_fail _ _, fun _ => covers_fail _ _,
    fun _ => covers_fail _ _, fun _ => covers_fail _ _, basesRefer_bare p settings libraries⟩

theorem covering_within {e : Engine} (covering : e.Covering) (named : e.BasesNamed) (depth : Nat) :
    (e.within depth).Covering := by
  induction depth with
  | zero => exact covering
  | succ depth ih =>
      exact ⟨fun type => covers_includeType ih type, fun type => covers_includeKnown ih type,
        fun type => covers_includeInline ih type, covering.bodyOfType, covering.bodyOfAlias,
        basesRefer_within covering.bases named (depth + 1)⟩

theorem covering_withEntries {e : Engine} (covering : e.Covering) (named : e.BasesNamed)
    (depth entries : Nat) : (e.withEntries depth entries).Covering := by
  induction entries with
  | zero => exact covering
  | succ entries ih =>
      have inner := covering_within ih (basesNamed_withEntries named depth entries) depth
      exact ⟨covering.visit, covering.visitNamed, covering.visitInline,
        fun type => covers_includeNamed inner type, fun site => covers_aliasBody inner site,
        covering.bases⟩

theorem covering_start {p : Program} {settings : ExtractionSettings} (libraries : LibrarySettings)
    (named : BasesNamed { program := p, settings, libraries }) :
    (start p settings libraries).Covering := by
  have covering := covering_withEntries (covering_bare p settings libraries) named
    (depthBound p) (entryBound p)
  exact covering_within covering (basesNamed_withEntries named _ _) _

end Engine

end TypeAtlas
