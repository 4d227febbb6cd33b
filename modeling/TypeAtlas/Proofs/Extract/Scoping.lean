import TypeAtlas.Proofs.Extract.Binders
import TypeAtlas.Proofs.Extract.Levels

/-!
The names that the nodes of types leave open: of shapes, of types that are written out and of types that
are known by a name. The engine of an extraction leaves open what a usage tells of it.
-/

namespace TypeAtlas

open Node (Open OpenAll)

variable {free : String → Prop}

namespace Engine

open Extract

section Steps

variable {e : Engine} {u : Usage} (opening : e.Opening u)
include opening

theorem opens_includeBase {site : Option SiteId} (within : ∀ name ∈ e.program.usesAt u site, free name) :
    Opens free (e.includeBase site) Open := by
  refine opens_lift_bind fun base told => ?_
  rw [Program.usesAt_of_typeAt told] at within
  refine opens_bind (opens_visitPresent opening within) fun node => ?_
  have kept {more : String → Prop} (node : Node) : Opens (fun name => more name ∨ node.Open name)
      (pure node) Open := opens_pure fun _ => Or.inr
  split
  · exact opens_pure fun name opened => Or.inr (Node.open_ref_live opened)
  · refine opens_lift_bind fun place _ => ?_
    split
    · exact kept node
    · rename_i name _
      split
      · exact kept node
      · refine opens_bind (opens_isRegistered name) fun known => ?_
        have reference {more : String → Prop} (registered : more name) :
            Opens more (pure (.ref { name, live := base } : Node)) Open := by
          refine opens_pure fun other opened => ?_
          rcases Node.open_ref opened with rfl | none
          · exact registered
          · exact absurd none (Node.openAll_nil other)
        cases known with
        | false => exact opens_bind (opens_set name node) fun _ => reference (Or.inr rfl)
        | true =>
            simp only [Bool.not_true, Bool.false_eq_true, if_false]
            exact reference (Or.inr ⟨trivial, rfl⟩)

theorem opens_includeClauses {clauses : List HeritageClause}
    (within : ∀ clause ∈ clauses, ∀ site ∈ clause.types, ∀ name ∈ e.program.usesAt u site, free name) :
    Opens free (e.includeClauses clauses) fun heritage => OpenAll heritage.edges := by
  induction clauses generalizing free with
  | nil => exact opens_pure fun name opened => absurd opened (Node.openAll_nil name)
  | cons clause rest ih =>
      have items : Opens free (clause.types.mapM e.includeBase) OpenAll :=
        opens_mapM fun site listed =>
          opens_includeBase opening (within clause (List.mem_cons_self ..) site listed)
      refine opens_bind items fun items => ?_
      refine opens_bind (ih fun later member site listed name used =>
        Or.inl (within later (List.mem_cons_of_mem _ member) site listed name used)) fun others => ?_
      cases clause.token with
      | bases =>
          refine opens_pure fun name opened => ?_
          simp only [Heritage.edges, Node.openAll_append] at opened ⊢
          grind
      | implemented =>
          refine opens_pure fun name opened => ?_
          simp only [Heritage.edges, Node.openAll_append] at opened ⊢
          grind

theorem opens_includeHeritage {type : TypeId}
    (within : ∀ name ∈ e.program.heritageUses u type, free name) :
    Opens free (e.includeHeritage type) fun heritage => OpenAll heritage.edges := by
  have nothing : Opens free (pure {}) fun heritage : Heritage => OpenAll heritage.edges :=
    opens_pure fun name opened => absurd opened (Node.openAll_nil name)
  unfold Program.heritageUses at within
  unfold includeHeritage
  dsimp only
  split
  · rename_i site declared
    simp only [declared] at within
    split
    · rename_i isShape
      rw [if_pos isShape] at within
      refine opens_includeClauses opening fun clause held place listed name used => within name ?_
      exact List.mem_flatMap.mpr ⟨clause, held, List.mem_flatMap.mpr ⟨place, listed, used⟩⟩
    · exact nothing
  · exact nothing

omit opening in
theorem described_of_includeShape {type : TypeId} {heritage : Heritage} {shape : Node.Shape Node}
    {w after : Walk} (ran : e.includeShape type heritage w = (.ok shape, after)) :
    shape.bases = heritage.bases ∧ shape.mapped = none ∧ ∃ before later,
      e.includeTypeParameters (e.program.type type).typeParameters before = (.ok shape.types, later) := by
  obtain ⟨seen, _, -, ran⟩ := of_bind_ok ran
  obtain ⟨inherited, _, -, ran⟩ := of_bind_ok ran
  obtain ⟨properties, _, -, ran⟩ := of_bind_ok ran
  obtain ⟨props, _, -, ran⟩ := of_bind_ok ran
  obtain ⟨numberIndex, _, -, ran⟩ := of_bind_ok ran
  obtain ⟨stringIndex, _, -, ran⟩ := of_bind_ok ran
  obtain ⟨signatures, _, -, ran⟩ := of_bind_ok ran
  obtain ⟨calls, _, -, ran⟩ := of_bind_ok ran
  obtain ⟨comment, _, -, ran⟩ := of_bind_ok ran
  obtain ⟨types, _, described, ran⟩ := of_bind_ok ran
  cases ran
  exact ⟨rfl, rfl, _, _, described⟩

def ShapeOpen (e : Engine) (u : Usage) (type : TypeId) (selection : Program.Selection)
    (shape : Node.Shape Node) (name : String) : Prop :=
  e.Unrepeated u type selection shape.props name ∨ OpenAll (shape.types.map Node.typeParameter) name

theorem opens_includeShape {type : TypeId} {heritage : Heritage} {selection : Program.Selection}
    (members : ∀ id, some id ∈ (e.program.type type).properties.slots → selection.member id = true →
      ∀ name ∈ e.program.memberUses u id, free name)
    (indexes : ∀ kind, selection.index kind = true →
      ∀ name ∈ e.program.indexUses u type kind, free name)
    (calls : ∀ name ∈ e.program.callUses u (e.program.type type).callSignatures.slots, free name)
    (bounds : ∀ name ∈ e.program.boundUses u (e.program.type type).typeParameters.slots, free name) :
    Opens free (e.includeShape type heritage) (e.ShapeOpen u type selection) := by
  refine opens_bind opens_get fun seen => ?_
  refine opens_lift_bind fun inherited _ => opens_lift_bind fun properties listed => ?_
  have own : ∀ prop ∈ properties, Opens free (e.includeOwn inherited prop)
      (e.Unrepeated u type selection) := by
    intro prop held
    rw [← Build.slots_of_each listed] at held
    refine opens_includeOwn opening held ?_
    rintro id rfl chosen
    exact members id held chosen
  refine opens_bind ((opens_mapM own).weaken fun _ => Or.inl) fun props => ?_
  refine opens_bind ((opens_includeOwnIndex opening (indexes .number)).weaken
    fun _ known => Or.inl (Or.inl known)) fun numberIndex => ?_
  refine opens_bind ((opens_includeOwnIndex opening (indexes .string)).weaken
    fun _ known => Or.inl (Or.inl (Or.inl known))) fun stringIndex => ?_
  refine opens_lift_bind fun signatures called => ?_
  have call : ∀ signature ∈ signatures, Opens free (do
      return Node.function (← e.includeSignature signature)) Open := by
    rintro signature held
    refine opens_bind (opens_includeSignature opening ?_) fun callable => opens_pure fun _ => Or.inr
    rintro id rfl name used
    refine calls name (List.mem_flatMap.mpr ⟨id, ?_, used⟩)
    rw [Build.slots_of_each called]
    exact List.reduceOption_mem_iff.mpr held
  refine opens_bind ((opens_mapM call).weaken
    fun _ known => Or.inl (Or.inl (Or.inl (Or.inl known)))) fun calls => ?_
  refine opens_lift_bind fun comment _ => ?_
  refine opens_bind ((opens_includeTypeParameters opening bounds).weaken
    fun _ known => Or.inl (Or.inl (Or.inl (Or.inl (Or.inl known))))) fun types => ?_
  refine opens_pure fun name opened => ?_
  rcases opened with ⟨opened, unrepeated⟩ | opened
  · have alone {nodes : List Node} (subset : nodes ⊆ props.flatten ++ numberIndex ++ stringIndex ++ calls)
        (opened : OpenAll nodes name) : e.Unrepeated u type selection nodes name :=
      ⟨opened, fun repeated => unrepeated (repeated.mono subset)⟩
    simp only [Node.openAll_append] at opened
    rcases opened with ((opened | opened) | opened) | opened
    · obtain ⟨nodes, listed, opened⟩ := among_flatten opened
      have subset : nodes ⊆ props.flatten ++ numberIndex ++ stringIndex ++ calls := fun node held =>
        List.mem_append_left _ (List.mem_append_left _ (List.mem_append_left _
          (List.mem_flatten.mpr ⟨nodes, listed, held⟩)))
      exact Or.inl (Or.inl (Or.inl (Or.inl (Or.inr ⟨nodes, listed, alone subset opened⟩))))
    · exact Or.inl (Or.inl (Or.inl (Or.inr (alone (fun node held => by simp [held]) opened))))
    · exact Or.inl (Or.inl (Or.inr (alone (fun node held => by simp [held]) opened)))
    · exact Or.inl (Or.inr opened)
  · exact Or.inr opened

omit opening in
theorem bound_or_of_objectUses {type : TypeId} {selection : Program.Selection}
    (unmapped : (e.program.type type).isMapped = false)
    (within : ∀ name ∈ e.program.objectUses u type selection, free name) (name : String)
    (used : name ∈ e.program.frameUses u type ∨
      (∃ id, some id ∈ (e.program.type type).properties.slots ∧ selection.member id = true ∧
        name ∈ e.program.memberUses u id) ∨
      ∃ kind, selection.index kind = true ∧ name ∈ e.program.indexUses u type kind) :
    name ∈ e.program.parameterNames (e.program.type type).typeParameters.slots ∨ free name := by
  by_cases bound : name ∈ e.program.parameterNames (e.program.type type).typeParameters.slots
  · exact Or.inl bound
  · refine Or.inr (within name ?_)
    rw [Program.objectUses, if_neg (by simp [unmapped])]
    refine List.mem_filter.mpr ⟨?_, by simpa using bound⟩
    rcases used with used | ⟨id, held, chosen, used⟩ | ⟨kind, chosen, used⟩
    · exact List.mem_append_left _ (List.mem_append_left _ used)
    · refine List.mem_append_left _ (List.mem_append_right _ (List.mem_flatMap.mpr ⟨id, ?_, used⟩))
      exact List.mem_filter.mpr ⟨List.reduceOption_mem_iff.mpr held, chosen⟩
    · refine List.mem_append_right _ (List.mem_flatMap.mpr ⟨kind, ?_, used⟩)
      exact List.mem_filter.mpr ⟨by cases kind <;> simp, chosen⟩

def EntryOpen (e : Engine) (u : Usage) (type : TypeId) (selection : Program.Selection) (node : Node)
    (name : String) : Prop :=
  node.Open name ∧ ¬ e.program.Repeats u type selection node.members name

theorem opens_shapeWithin {type : TypeId} {heritage : Heritage} {selection : Program.Selection}
    (unmapped : (e.program.type type).isMapped = false)
    (within : ∀ name ∈ e.program.objectUses u type selection, free name) :
    Opens (fun name => name ∈ e.program.parameterNames (e.program.type type).typeParameters.slots ∨
      free name) (e.includeShape type heritage) (e.ShapeOpen u type selection) := by
  have known := bound_or_of_objectUses unmapped within
  refine opens_includeShape opening ?_ ?_ ?_ ?_
  · exact fun id held chosen name used => known name (Or.inr (Or.inl ⟨id, held, chosen, used⟩))
  · exact fun kind chosen name used => known name (Or.inr (Or.inr ⟨kind, chosen, used⟩))
  · exact fun name used => known name (Or.inl (by simp [Program.frameUses, used]))
  · exact fun name used => known name (Or.inl (by simp [Program.frameUses, used]))

theorem opens_heritageWithin {type : TypeId} {selection : Program.Selection}
    (unmapped : (e.program.type type).isMapped = false)
    (within : ∀ name ∈ e.program.objectUses u type selection, free name) :
    Opens (fun name => name ∈ e.program.parameterNames (e.program.type type).typeParameters.slots ∨
      free name) (e.includeHeritage type) fun heritage => OpenAll heritage.edges :=
  opens_includeHeritage opening fun name used => bound_or_of_objectUses unmapped within name
    (Or.inl (by simp [Program.frameUses, used]))

theorem opens_includeInterface {type : TypeId} {selection : Program.Selection}
    (unmapped : (e.program.type type).isMapped = false)
    (within : ∀ name ∈ e.program.objectUses u type selection, free name) :
    Opens free (do
      let heritage ← e.includeHeritage type
      return Node.interface (← e.includeShape type heritage)) (e.EntryOpen u type selection) := by
  refine Opens.bound (e.program.parameterNames (e.program.type type).typeParameters.slots) ?_ ?_
  · refine opens_bind (opens_heritageWithin opening unmapped within) fun heritage => ?_
    refine opens_bind_of ((opens_shapeWithin opening unmapped within).weaken fun _ => Or.inl)
      fun shape asked => opens_pure ?_
    obtain ⟨w, after, ran⟩ := asked
    obtain ⟨bases, unmapped, -⟩ := described_of_includeShape ran
    rintro name ⟨opened, unrepeated⟩
    obtain ⟨-, opened | opened | opened | opened⟩ := Node.open_interface opened
    · rw [bases] at opened
      exact Or.inl (Or.inr (by simp [Heritage.edges, opened]))
    · exact Or.inr (Or.inl ⟨opened, unrepeated⟩)
    · exact Or.inr (Or.inr opened)
    · simp [unmapped] at opened
  · rintro w node after ran name ⟨opened, -⟩
    obtain ⟨heritage, _, -, ran⟩ := of_bind_ok ran
    obtain ⟨shape, _, shaped, ran⟩ := of_bind_ok ran
    cases ran
    obtain ⟨-, -, _, _, described⟩ := described_of_includeShape shaped
    exact not_mem_parameterNames described (Node.open_interface opened).1

omit opening in
theorem described_of_includeClass {type : TypeId} {node : Node} {w after : Walk}
    (ran : e.includeClass type w = (.ok node, after)) {name : String} (opened : node.Open name) :
    name ∉ e.program.parameterNames (e.program.type type).typeParameters.slots := by
  obtain ⟨_, _, shape, _, _, _, _, _, -, shaped, -, -, -, rfl⟩ := of_includeClass_ok ran
  obtain ⟨-, -, _, _, described⟩ := described_of_includeShape shaped
  exact not_mem_parameterNames described (Node.open_classShape opened).1

theorem opens_includeClass {type : TypeId} {selection : Program.Selection}
    (unmapped : (e.program.type type).isMapped = false) (isClass : (e.program.type type).isClass = true)
    (within : ∀ name ∈ e.program.objectUses u type selection, free name) :
    Opens free (e.includeClass type) (e.EntryOpen u type selection) := by
  let params := (e.program.type type).typeParameters
  have known := bound_or_of_objectUses unmapped within
  have completed (heritage : Heritage) {shape : Node.Shape Node}
      (bases : shape.bases = heritage.bases) (unmapped : shape.mapped = none)
      {exported : List (Option SymbolId)} (listed : exported =
        (e.program.type type).symbol.elim [] fun symbol => (e.program.symbol symbol).exports.slots) :
      Opens (fun name => ((name ∈ e.program.parameterNames params.slots ∨ free name) ∨
          OpenAll heritage.edges name) ∨ e.ShapeOpen u type selection shape name) (do
        let statics ← exported.mapM e.includeStatic
        let constructors ← e.includeConstructors type
        pure (Node.classShape { shape with props := shape.props ++ statics.flatten ++ constructors }
          heritage.implemented)) (e.EntryOpen u type selection) := by
    refine opens_bind (opens_includeStatics opening listed fun name used => Or.inl (Or.inl
      (known name (Or.inl (by simp [Program.frameUses, isClass, used]))))) fun statics => ?_
    refine opens_bind (opens_includeConstructors opening fun name used => Or.inl (Or.inl (Or.inl
      (known name (Or.inl (by simp [Program.frameUses, isClass, used])))))) fun constructors => ?_
    refine opens_pure ?_
    rintro name ⟨opened, unrepeated⟩
    obtain ⟨-, opened | opened | opened | opened | opened⟩ := Node.open_classShape opened
    · rw [bases] at opened
      exact Or.inl (Or.inl (Or.inl (Or.inr (by simp [Heritage.edges, opened]))))
    · exact Or.inl (Or.inl (Or.inl (Or.inr (by simp [Heritage.edges, opened]))))
    · simp only [Node.openAll_append] at opened
      rcases opened with (opened | opened) | opened
      · refine Or.inl (Or.inl (Or.inr (Or.inl ⟨opened, fun repeated => unrepeated (repeated.mono ?_)⟩)))
        exact fun node held => by simp [Node.members, held]
      · exact Or.inl (Or.inr opened)
      · exact Or.inr opened
    · exact Or.inl (Or.inl (Or.inr (Or.inr opened)))
    · simp [unmapped] at opened
  refine Opens.bound (e.program.parameterNames params.slots) ?_ ?_
  · refine opens_bind (opens_heritageWithin opening unmapped within) fun heritage => ?_
    refine opens_bind_of ((opens_shapeWithin opening unmapped within).weaken fun _ => Or.inl)
      fun shape asked => ?_
    obtain ⟨w, after, ran⟩ := asked
    obtain ⟨bases, unmapped, -⟩ := described_of_includeShape ran
    dsimp only
    split
    · rename_i symbol named
      refine opens_lift_bind fun exported listed => completed heritage bases unmapped ?_
      rw [named, Option.elim_some, Build.slots_of_each listed]
    · rename_i unnamed
      rw [pure_bind]
      exact completed heritage bases unmapped (by rw [unnamed, Option.elim_none])
  · exact fun w node after ran name opened => described_of_includeClass ran opened.1

theorem opens_includeMapped {type : TypeId} (within : ∀ name ∈ e.program.mappedUses u type, free name) :
    Opens free (e.includeMapped type) Open := by
  have alone {m : Node.Mapped Node} {comment : Option String} {name : String}
      (opened : (Node.interface { comment, mapped := some m }).Open name) : (Node.mapped m).Open name := by
    obtain ⟨-, opened | opened | opened | opened⟩ := Node.open_interface opened
    · exact absurd opened (Node.openAll_nil name)
    · exact absurd opened (Node.openAll_nil name)
    · exact absurd opened (Node.openAll_nil name)
    · simpa using opened
  unfold Program.mappedUses at within
  unfold includeMapped
  dsimp only
  split
  · rename_i key site held declared
    simp only [held, declared] at within
    split
    · rename_i keySymbol written named placed
      let keyName := (e.program.symbol keySymbol).name
      have known (name : String) (used : name ∈ e.program.constraintUses u key ++
          e.program.usesAt u (e.program.site site).type) : name ∈ [keyName] ∨ free name := by
        by_cases same : name = keyName
        · exact Or.inl (List.mem_singleton.mpr same)
        · refine Or.inr (within name (List.mem_filter.mpr ⟨used, ?_⟩))
          simpa [Program.parameterName?, named] using Ne.symm same
      refine Opens.bound [keyName] ?_ ?_
      · refine opens_bind (opens_declareLocal _) fun _ => opens_lift_bind fun value told => ?_
        refine opens_lift_bind fun comment _ => ?_
        refine opens_bind (opens_includeConstraint opening fun name used =>
          Or.inl (known name (List.mem_append_left _ used))) fun constraint => ?_
        refine opens_bind (opens_visitPresent opening fun name used =>
          Or.inl (Or.inl (known name (List.mem_append_right _ ?_)))) fun value => ?_
        · rwa [placed, Program.usesAt_of_typeWritten told]
        · refine opens_lift_bind fun optional _ => opens_pure fun name opened => ?_
          exact (Node.open_mapped (alone opened)).2.imp_left Or.inr
      · intro w node after ran name opened
        obtain ⟨_, _, -, ran⟩ := of_bind_ok ran
        obtain ⟨value, _, -, ran⟩ := of_bind_ok ran
        obtain ⟨comment, _, -, ran⟩ := of_bind_ok ran
        obtain ⟨constraint, _, -, ran⟩ := of_bind_ok ran
        obtain ⟨value, _, -, ran⟩ := of_bind_ok ran
        obtain ⟨optional, _, -, ran⟩ := of_bind_ok ran
        cases ran
        exact fun same => (Node.open_mapped (alone opened)).1 (List.mem_singleton.mp same)
    · exact opens_diagnose _ _
  · exact opens_diagnose _ _

def DescribedOpen (e : Engine) (u : Usage) (type : TypeId) (selection : Program.Selection)
    (described : Option Node) (name : String) : Prop :=
  ∃ node, described = some node ∧ e.EntryOpen u type selection node name

theorem opens_includeObject {type : TypeId} {selection : Program.Selection}
    (within : (e.program.type type).isObject = true →
      ∀ name ∈ e.program.objectUses u type selection, free name) :
    Opens free (e.includeObject type) (e.DescribedOpen u type selection) := by
  have described {step : Extract Node} (opens : Opens free step (e.EntryOpen u type selection)) :
      Opens free (some <$> step) (e.DescribedOpen u type selection) := by
    refine opens_map some opens ?_
    rintro node name ⟨_, ⟨⟩, opened⟩
    exact opened
  unfold includeObject
  dsimp only
  split
  · exact opens_pure nofun
  · rename_i isObject
    replace within := within (by simpa using isObject)
    split
    · rename_i isMapped
      rw [Program.objectUses, if_pos isMapped] at within
      exact described ((opens_includeMapped opening within).narrow fun _ _ opened => opened.1)
    · rename_i unmapped
      rw [Bool.not_eq_true] at unmapped
      split
      · rename_i isClass
        exact described (opens_includeClass opening unmapped isClass within)
      · have shaped := described (opens_includeInterface opening unmapped within)
        simpa only [map_eq, bind_assoc, pure_bind] using shaped

omit opening in
theorem opens_unidentified (type : TypeId) (names : Node → String → Prop)
    (closed : ∀ name, ¬ names .unidentified name) : Opens free (e.unidentified type) names := by
  have counted : Opens free (modify fun w : Walk => { w with unidentified := w.unidentified + 1 })
      silent := opens_of_registry fun _ => rfl
  refine opens_bind counted fun _ => opens_bind (opens_emit _) fun _ => opens_pure fun name opened => ?_
  exact absurd opened (closed name)

omit opening in
/-- The first description that applies is taken, and a later one only where the first does not apply. -/
theorem opens_firstOf {type : TypeId} {describe : TypeId → Extract (Option Node)}
    {rest : List (TypeId → Extract (Option Node))} {names : Node → String → Prop}
    (first : Opens free (describe type) fun described name =>
      ∃ node, described = some node ∧ names node name)
    (others : (∃ w after, describe type w = (.ok none, after)) → Opens free (e.firstOf type rest) names) :
    Opens free (e.firstOf type (describe :: rest)) names := by
  refine opens_bind_of first fun described asked => ?_
  cases described with
  | some node => exact opens_pure fun name opened => Or.inr ⟨node, rfl, opened⟩
  | none => exact (others asked).weaken fun _ => Or.inl

omit opening in
theorem described_of_toList {described : Option Node} {name : String}
    (opened : ∃ node, described = some node ∧ node.Open name) : OpenAll described.toList name := by
  obtain ⟨node, rfl, opened⟩ := opened
  simpa using opened

theorem opens_includeNamed {type : TypeId} {selection : Program.Selection}
    (terminal : ∀ name ∈ e.program.terminalUses u type, free name)
    (object : (e.program.type type).isObject = true →
      ∀ name ∈ e.program.objectUses u type selection, free name) :
    Opens free (e.includeNamed type) (e.EntryOpen u type selection) := by
  have closed (name : String) : ¬ e.EntryOpen u type selection .unidentified name :=
    fun opened => Node.not_open_of_mentions (by simp) opened.1
  refine opens_firstOf ((opens_includeBasic opening terminal).narrow ?_) fun _ => ?_
  · rintro described name ⟨node, rfl, opened⟩
    exact described_of_toList ⟨node, rfl, opened.1⟩
  · exact opens_firstOf (opens_includeObject opening object) fun _ => opens_unidentified type _ closed

end Steps

section Told

variable {e : Engine} {u : Usage} (opening : e.Opening u) (tells : e.Tells u)
include opening tells

omit opening tells in
/-- What is told as a combination of others is not described otherwise. -/
theorem not_isCombined {type : TypeId} {w after : Walk}
    (ran : e.includeCombinator type w = (.ok none, after)) : e.isCombined type = false := by
  unfold includeCombinator at ran
  dsimp only at ran
  split at ran
  · obtain ⟨_, _, -, ran⟩ := of_bind_ok ran
    cases ran
  · rename_i notTuple
    split at ran
    · exact absurd ran some_map_ne_none
    · rename_i notReference
      split at ran
      · obtain ⟨_, _, -, ran⟩ := of_bind_ok ran
        exact absurd ran some_map_ne_none
      · rename_i notUnion
        split at ran
        · obtain ⟨_, _, -, ran⟩ := of_bind_ok ran
          obtain ⟨_, _, -, ran⟩ := of_bind_ok ran
          cases ran
        · rename_i notIntersection
          split at ran
          · obtain ⟨_, _, -, ran⟩ := of_bind_ok ran
            cases held : (e.program.type type).objectType with
            | none =>
                simp only [held] at ran
                cases ran
            | some holder =>
                simp only [held] at ran
                obtain ⟨_, _, -, ran⟩ := of_bind_ok ran
                cases ran
          · rename_i notIndexed
            simp only [Bool.not_eq_true] at notTuple notReference notUnion notIntersection notIndexed
            simp only [isCombined, notTuple, notReference, notUnion, notIntersection, notIndexed,
              Bool.or_false]

theorem opens_includeInline (type : TypeId) :
    Opens (· ∈ u.inline type) (e.includeInline type) Open := by
  have within : ∀ name ∈ e.writtenUses u type, name ∈ u.inline type := fun name used =>
    tells.inline type used
  have terminal : ∀ name ∈ e.program.terminalUses u type, name ∈ u.inline type := fun name used =>
    within name (by simp [writtenUses, used])
  have hidden : ∀ name ∈ e.hiddenUses u type, name ∈ u.inline type := fun name used =>
    within name (by simp [writtenUses, used])
  have listed {step : Extract (Option Node)}
      (opens : Opens (· ∈ u.inline type) step fun node => OpenAll node.toList) :
      Opens (· ∈ u.inline type) step fun described name =>
        ∃ node, described = some node ∧ node.Open name :=
    opens.narrow fun _ _ => described_of_toList
  refine opens_firstOf (listed (opens_includeBasic opening terminal)) fun _ => ?_
  refine opens_firstOf (listed (opens_includeCombinator opening tells hidden ?_)) fun asked => ?_
  · intro combined name used
    refine within name ?_
    rw [writtenUses, if_pos combined]
    exact List.mem_append_right _ used
  · obtain ⟨_, _, ran⟩ := asked
    have object : (e.program.type type).isObject = true →
        ∀ name ∈ e.program.objectUses u type .all, name ∈ u.inline type := by
      intro isObject name used
      refine within name ?_
      simp only [writtenUses, not_isCombined ran, isObject]
      simp [used]
    refine opens_firstOf (listed (opens_includeHidden opening hidden)) fun _ => ?_
    refine opens_firstOf ((opens_includeObject opening object).narrow ?_) fun _ => ?_
    · rintro described name ⟨node, same, opened⟩
      exact ⟨node, same, opened, Program.not_repeats_all⟩
    · exact opens_unidentified type _ fun name => Node.not_open_of_mentions (by simp)

theorem opens_includeKnown {type : TypeId} {name : Option String} (known : e.Known type name) :
    Opens (· ∈ u.named type) (e.includeKnown type name) Open := by
  have inline (writtenOut : e.isWrittenOut type name = true) :
      Opens (· ∈ u.named type) (e.includeInline type) Open :=
    (opens_includeInline opening tells type).weaken (tells.writtenOut type name known writtenOut)
  unfold includeKnown
  dsimp only
  split
  · rename_i symbol isParameter held
    have parameter : Opens (· ∈ u.named type) (typeParameterRef (e.program.symbol symbol).name)
        fun r => (Node.ref r).Open := by
      refine opens_bind (opens_declareLocal _) fun _ => opens_pure fun other opened => ?_
      rcases Node.open_ref opened with rfl | none
      · exact Or.inl (tells.parameter type symbol isParameter held)
      · exact absurd none (Node.openAll_nil other)
    exact opens_bind parameter fun r => opens_pure fun _ => Or.inr
  · cases name with
    | none => exact inline (by simp [isWrittenOut])
    | some name =>
        dsimp only
        split
        · rename_i empty
          exact inline (by simp [isWrittenOut, empty])
        · split
          · rename_i aliased
            exact opens_makeAliasRef opening name (tells.aliasArguments type aliased)
          · rename_i plain
            have unaliased : e.isAliased type = false := by simpa [isAliased] using plain
            have arguments := tells.arguments type unaliased
            refine opens_bind (opens_includeExternal opening (tells.hidden type unaliased) arguments)
              fun outside => ?_
            split
            · exact opens_pure fun other opened => Or.inr (by simpa using opened)
            · split
              · rename_i anonymous
                refine (inline ?_).weaken fun _ => Or.inl
                simpa [isWrittenOut, unaliased] using Or.inr anonymous
              · refine (opens_makeRef opening name ?_).weaken fun _ => Or.inl
                rintro _ ⟨⟩
                exact arguments

theorem opens_includeType (type : TypeId) : Opens (· ∈ u.named type) (e.includeType type) Open := by
  unfold includeType
  dsimp only
  split
  · rename_i operand known
    exact opens_keyofNode opening (tells.keyof type operand known)
  · exact opens_includeKnown opening tells .named

def aliasUses (e : Engine) (u : Usage) (site : SiteId) : List String :=
  (e.program.boundUses u (e.program.declaredParameters site) ++
    (e.program.siteAnswers (some site)).type.join.elim [] u.inline).filter
      (· ∉ e.program.parameterNames (e.program.declaredParameters site))

theorem opens_aliasBody {site : SiteId} (within : ∀ name ∈ e.aliasUses u site, free name) :
    Opens free (e.aliasBody site) Open := by
  let params := e.program.declaredParameters site
  have known (name : String) (used : name ∈ e.program.boundUses u params ++
      (e.program.siteAnswers (some site)).type.join.elim [] u.inline) :
      name ∈ e.program.parameterNames params ∨ free name := by
    by_cases bound : name ∈ e.program.parameterNames params
    · exact Or.inl bound
    · exact Or.inr (within name (List.mem_filter.mpr ⟨used, by simpa using bound⟩))
  refine Opens.bound (e.program.parameterNames params) ?_ ?_
  · refine opens_lift_bind fun comment _ => ?_
    refine opens_bind (opens_declaredTypeParameters opening fun name used =>
      known name (List.mem_append_left _ used)) fun types => ?_
    refine opens_lift_bind fun type told => opens_lift_bind fun id found => ?_
    obtain rfl := of_present found
    refine opens_bind ((opens_includeInline opening tells id).weaken fun name used =>
      Or.inl (known name (List.mem_append_right _ ?_))) fun child => opens_pure fun name opened => ?_
    · rwa [Program.siteAnswers_of_typeAt told, Option.join_some]
    · exact (Node.open_aliasOf opened).2.2.imp_left Or.inr
  · intro w node after ran name opened
    obtain ⟨comment, _, -, ran⟩ := of_bind_ok ran
    obtain ⟨types, _, described, ran⟩ := of_bind_ok ran
    obtain ⟨type, _, -, ran⟩ := of_bind_ok ran
    obtain ⟨id, _, -, ran⟩ := of_bind_ok ran
    obtain ⟨child, _, -, ran⟩ := of_bind_ok ran
    cases ran
    exact not_mem_parameterNames (declaredTypeParameters_eq described) (Node.open_aliasOf opened).1

omit opening tells in
theorem ref_of_parameter {type : TypeId} {symbol : SymbolId}
    (isParameter : (e.program.type type).isTypeParameter = true)
    (notKeyof : (e.program.type type).isKeyof = false)
    (held : (e.program.type type).symbol = some symbol) {w after : Walk} {node : Node}
    (ran : e.includeType type w = (.ok node, after)) :
    node = .ref { name := (e.program.symbol symbol).name } := by
  have operand : (e.program.type type).keyofOperand? = none := by
    simpa [TypeInfo.isKeyof] using notKeyof
  simp only [includeType, operand, includeKnown, isParameter, held] at ran
  obtain ⟨r, _, declared, ran⟩ := of_bind_ok ran
  obtain ⟨_, _, -, declared⟩ := of_bind_ok declared
  cases declared
  cases ran
  rfl

end Told

section Closing

variable {u : Usage}

theorem hiddenUses_going (e : Engine) (g : Going) (type : TypeId) :
    (e.going g).hiddenUses u type = e.hiddenUses u type := by
  simp only [hiddenUses, going_program, going_settings, going_originOf, going_isAnonymous,
    going_containerFrom]

/-- A usage tells of a program, whatever the ways to go on are. -/
theorem Tells.going {e : Engine} (tells : e.Tells u) (g : Going) : (e.going g).Tells u where
  parameter := tells.parameter
  keyof := tells.keyof
  arguments := tells.arguments
  aliasArguments := tells.aliasArguments
  hidden type unaliased := by
    rw [hiddenUses_going]
    exact tells.hidden type unaliased
  writtenOut type name known := tells.writtenOut type name <| match known with
    | .named => .named
    | .written reference denoted => .written reference denoted
  inline type := by
    have same : (e.going g).writtenUses u type = e.writtenUses u type := by
      simp only [writtenUses, hiddenUses_going, going_program]
      rfl
    rw [same]
    exact tells.inline type

theorem Tells.of_same {e b : Engine} (tells : b.Tells u) (program : e.program = b.program)
    (settings : e.settings = b.settings) (libraries : e.libraries = b.libraries) : e.Tells u := by
  have same : e = b.going e.ways := by
    obtain ⟨_, _, _, _, _, _, _, _⟩ := e
    obtain rfl := program
    obtain rfl := settings
    obtain rfl := libraries
    rfl
  rw [same]
  exact tells.going _

theorem opening_bare (p : Program) (settings : ExtractionSettings) (libraries : LibrarySettings) :
    Opening { program := p, settings, libraries } u where
  visit _ := opens_fail _ _
  visitNamed _ _ _ _ := opens_fail _ _
  visitInline _ := opens_fail _ _
  bodyOfType _ := opens_fail _ _
  bodyOfAlias _ := opens_fail _ _
  parameter _ _ _ _ _ _ _ _ ran := by cases ran

theorem opening_within {e : Engine} (opening : e.Opening u) (tells : e.Tells u) (depth : Nat) :
    (e.within depth).Opening u := by
  induction depth with
  | zero => exact opening
  | succ depth ih =>
      have program : (e.within depth).program = e.program := program_within e depth
      have told : (e.within depth).Tells u := tells.of_same program (by simp) (by simp)
      refine
        { opening with
          visit := opens_includeType ih told
          visitInline := opens_includeInline ih told
          visitNamed := ?_
          parameter := ?_ }
      · intro site type reference denoted
        change e.program.isReferenceSite (some site) = true at reference
        change e.program.typeAt (some site) = .ok (some type) at denoted
        change Opens _ ((e.within depth).includeKnown type (e.program.site site).name) Open
        rw [← program] at reference denoted ⊢
        exact opens_includeKnown ih told (.written reference denoted)
      · intro type symbol isParameter notKeyof held w node after ran
        change (e.program.type type).isTypeParameter = true at isParameter
        change (e.program.type type).isKeyof = false at notKeyof
        change (e.program.type type).symbol = some symbol at held
        change node = .ref { name := (e.program.symbol symbol).name }
        rw [← program] at isParameter notKeyof held ⊢
        exact ref_of_parameter isParameter notKeyof held ran

theorem opening_withEntries {e : Engine} (opening : e.Opening u) (tells : e.Tells u)
    (depth entries : Nat) : (e.withEntries depth entries).Opening u := by
  induction entries with
  | zero => exact opening
  | succ entries ih =>
      have told : (e.withEntries depth entries).Tells u := tells.of_same (by simp) (by simp) (by simp)
      have inner := opening_within ih told depth
      have insideTold : ((e.withEntries depth entries).within depth).Tells u :=
        told.of_same (by simp) (by simp) (by simp)
      have body (type : TypeId) : Opens (fun _ => True)
          (((e.withEntries depth entries).within depth).includeNamed type)
          (((e.withEntries depth entries).within depth).EntryOpen u type .all) :=
        opens_includeNamed inner (fun _ _ => trivial) fun _ _ _ => trivial
      exact
        { opening with
          bodyOfType := fun type => (body type).narrow fun _ _ opened => ⟨opened, Program.not_repeats_all⟩
          bodyOfAlias := fun site => opens_aliasBody inner insideTold fun _ _ => trivial }

end Closing

end Engine

end TypeAtlas
