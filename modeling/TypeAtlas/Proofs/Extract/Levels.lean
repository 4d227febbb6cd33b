import TypeAtlas.Proofs.Extract.Pairs
import TypeAtlas.Proofs.Walk.Growth

/-!
Levels do not matter as long as there are enough of them. A step refines another if it does what that
one does wherever that one does not run out of levels. An engine that goes further into a type, or that
may begin more entries, refines one that goes less far: each function of the engine only passes on what
the ways to go on do.
-/

namespace TypeAtlas.Extract

variable {α β : Type}

def Refines (step deeper : Extract α) : Prop :=
  ∀ w, (step w).1 ≠ .error .tooDeep → deeper w = step w

theorem Refines.refl (step : Extract α) : Refines step step := fun _ _ => rfl

theorem Refines.trans {step deeper deepest : Extract α} (first : Refines step deeper)
    (second : Refines deeper deepest) : Refines step deepest := by
  intro w ends
  have same := first w ends
  rw [second w (by rwa [same]), same]

/-- A step that has no levels to go is refined by any. -/
theorem refines_of_stuck {step deeper : Extract α} (stuck : step = fail .tooDeep) :
    Refines step deeper := by
  intro w ends
  rw [stuck] at ends
  exact absurd rfl ends

/-- The second step is only of interest for the values that the first can have. -/
theorem refines_bind_of {step deeper : Extract α} {next further : α → Extract β}
    (first : Refines step deeper)
    (rest : ∀ w value after, step w = (.ok value, after) → Refines (next value) (further value)) :
    Refines (step >>= next) (deeper >>= further) := by
  intro w ends
  rcases ran : step w with ⟨fault | value, after⟩
  · rw [bind_error ran] at ends ⊢
    refine bind_error ?_
    rw [first w, ran]
    rw [ran]
    rintro ⟨⟩
    exact ends rfl
  · rw [bind_ok ran] at ends ⊢
    have same : deeper w = (.ok value, after) := by
      rw [first w, ran]
      rw [ran]
      nofun
    rw [bind_ok same]
    exact rest w value after ran after ends

theorem refines_bind {step deeper : Extract α} {next further : α → Extract β}
    (first : Refines step deeper) (rest : ∀ value, Refines (next value) (further value)) :
    Refines (step >>= next) (deeper >>= further) :=
  refines_bind_of first fun _ value _ _ => rest value

theorem refines_inScope (name : String) {step deeper : Extract α} (inner : Refines step deeper) :
    Refines (inScope name step) (inScope name deeper) := by
  intro w ends
  rw [inScope_apply] at ends
  rw [inScope_apply, inScope_apply, inner w.openScope ends]

/-- Two steps that refine to one agree where neither runs out of levels. -/
theorem Refines.agree {step other deepest : Extract α} (first : Refines step deepest)
    (second : Refines other deepest) {w : Walk} (ends : (step w).1 ≠ .error .tooDeep)
    (otherEnds : (other w).1 ≠ .error .tooDeep) : step w = other w :=
  (first w ends).symm.trans (second w otherEnds)

end TypeAtlas.Extract

namespace TypeAtlas

open Extract

structure Going.Deepens (g h : Going) : Prop where
  visit : ∀ type, Refines (g.visit type) (h.visit type)
  visitNamed : ∀ type name, Refines (g.visitNamed type name) (h.visitNamed type name)
  visitInline : ∀ type, Refines (g.visitInline type) (h.visitInline type)
  bodyOfType : ∀ type, Refines (g.bodyOfType type) (h.bodyOfType type)
  bodyOfAlias : ∀ site, Refines (g.bodyOfAlias site) (h.bodyOfAlias site)

namespace Engine

variable (e : Engine) {g h : Going}

section Functions

variable (deepens : g.Deepens h)
include deepens

theorem pairs_refines : e.Pairs g h Refines where
  bind_of first rest := refines_bind_of first rest
  lift _ := Refines.refl _
  emit _ := Refines.refl _
  declareLocal _ := Refines.refl _
  count := Refines.refl _
  visit := deepens.visit
  visitInline := deepens.visitInline
  visitNamed _ type _ _ := deepens.visitNamed type _

theorem refines_includeRef (type : TypeId) (name : String) (live : Option TypeId) :
    Refines ((e.going g).includeRef type name live) ((e.going h).includeRef type name live) := by
  simp only [includeRef, going_program, going_normalizeArguments]
  exact refines_bind ((e.pairs_refines deepens).visitAll _) fun _ => Refines.refl _

omit deepens in
theorem refines_register (name : String) {body deeper : Extract Node} (inner : Refines body deeper) :
    Refines (register name body) (register name deeper) := by
  refine refines_bind (Refines.refl _) fun registered => ?_
  refine Follows.ite (fun _ => Refines.refl _) fun _ => refines_inScope name ?_
  exact refines_bind (Refines.refl _) fun _ => refines_bind inner fun node => Refines.refl _

theorem refines_makeRef (type : Option TypeId) (name : String) :
    Refines ((e.going g).makeRef type name) ((e.going h).makeRef type name) := by
  refine refines_bind (refines_register name ?_) fun _ => ?_
  · exact refines_bind (Refines.refl _) fun id => deepens.bodyOfType _
  · exact refines_bind (Refines.refl _) fun id => e.refines_includeRef deepens id name none

theorem refines_ensureNamed (type : Option TypeId) (name : String) :
    Refines ((e.going g).ensureNamed type name) ((e.going h).ensureNamed type name) := by
  refine refines_bind (Refines.refl _) fun registered => ?_
  refine Follows.ite (fun _ => Refines.refl _) fun _ => ?_
  exact (e.pairs_refines deepens).map _ (e.refines_makeRef deepens type name)

theorem refines_includeExternal (type : TypeId) :
    Refines ((e.going g).includeExternal type) ((e.going h).includeExternal type) := by
  have pairs := e.pairs_refines deepens
  simp only [includeExternal, going_program, going_originOf, going_isAnonymous]
  cases (e.program.type type).symbol with
  | none => exact Refines.refl _
  | some symbol =>
      dsimp only
      cases (e.originOf (some symbol)).scope? with
      | none => exact Refines.refl _
      | some scope =>
          refine Follows.ite (fun _ => Follows.ite (fun _ => ?_) fun _ => Refines.refl _) fun _ =>
            Follows.ite (fun _ => Refines.refl _) fun _ => refines_bind (Refines.refl _) fun name => ?_
          · exact pairs.includeHidden type
          · exact pairs.map _ (e.refines_includeRef deepens type name _)

theorem refines_makeAliasRef (type : TypeId) (name : String) :
    Refines ((e.going g).makeAliasRef type name) ((e.going h).makeAliasRef type name) := by
  simp only [makeAliasRef, going_program, going_normalizeArguments]
  cases (e.program.type type).alias? with
  | none => exact Refines.refl _
  | some symbol =>
      cases e.program.firstDeclaration (some symbol) with
      | none => exact Refines.refl _
      | some site =>
          have finish (name : String) := refines_bind
            ((e.pairs_refines deepens).visitAll (e.program.type type).aliasArguments.slots) fun types =>
              Refines.refl (do
                let types ← e.normalizeArguments type (e.program.site site).typeParameters types name
                pure (Node.ref { name, types }))
          refine refines_bind (Refines.refl _) fun bound => ?_
          cases bound with
          | some bound => exact refines_bind (Refines.refl _) finish
          | none => exact refines_bind (refines_register name (deepens.bodyOfAlias site)) fun _ =>
              refines_bind (Refines.refl _) finish

theorem refines_includeReference (type : TypeId) :
    Refines ((e.going g).includeReference type) ((e.going h).includeReference type) := by
  refine refines_bind (e.refines_includeExternal deepens type) fun outside => ?_
  cases outside with
  | some node => exact Refines.refl _
  | none =>
      refine refines_bind (Refines.refl _) fun symbol => ?_
      refine refines_bind (e.refines_ensureNamed deepens _ _) fun _ => ?_
      exact e.refines_includeRef deepens _ _ _

theorem refines_includeBase (site : Option SiteId) :
    Refines ((e.going g).includeBase site) ((e.going h).includeBase site) :=
  refines_bind (Refines.refl _) fun base =>
    refines_bind ((e.pairs_refines deepens).visitPresent base) fun _ => Refines.refl _

theorem refines_includeHeritage (type : TypeId) :
    Refines ((e.going g).includeHeritage type) ((e.going h).includeHeritage type) :=
  (e.pairs_refines deepens).includeHeritage type fun _ _ _ site _ => e.refines_includeBase deepens site

theorem refines_includeShape (type : TypeId) (heritage : Heritage) :
    Refines ((e.going g).includeShape type heritage) ((e.going h).includeShape type heritage) := by
  simp only [includeShape_eq, going_program, going_inheritedIds]
  refine refines_bind (Refines.refl _) fun w => refines_bind (Refines.refl _) fun inherited => ?_
  refine refines_bind (Refines.refl _) fun listed => ?_
  exact (e.pairs_refines deepens).shapeOf type heritage inherited listed

theorem refines_includeObject (type : TypeId) :
    Refines ((e.going g).includeObject type) ((e.going h).includeObject type) := by
  have pairs := e.pairs_refines deepens
  simp only [includeObject, going_program]
  refine Follows.ite (fun _ => Refines.refl _) fun _ => Follows.ite (fun _ => ?_) fun _ =>
    Follows.ite (fun _ => ?_) fun _ => ?_
  · exact pairs.map _ (pairs.includeMapped type)
  · refine pairs.map _ (refines_bind (e.refines_includeHeritage deepens type) fun heritage => ?_)
    exact refines_bind (e.refines_includeShape deepens type heritage) fun shape =>
      pairs.classOf type heritage shape
  · refine refines_bind (e.refines_includeHeritage deepens type) fun heritage => ?_
    exact refines_bind (e.refines_includeShape deepens type heritage) fun shape => Refines.refl _

theorem courses_refines : e.Courses g h Refines :=
  { e.pairs_refines deepens with
    reference := fun type _ => e.refines_includeReference deepens type
    object := fun type _ => e.refines_includeObject deepens type }

theorem refines_includeKnown (type : TypeId) (name : Option String) :
    Refines ((e.going g).includeKnown type name) ((e.going h).includeKnown type name) :=
  (e.courses_refines deepens).includeKnown type name (e.refines_includeExternal deepens type)
    (fun given _ => e.refines_makeAliasRef deepens type given)
    fun given _ _ _ _ _ => e.refines_makeRef deepens (some type) given

end Functions

def ways (e : Engine) : Going :=
  ⟨e.visit, e.visitNamed, e.visitInline, e.bodyOfType, e.bodyOfAlias⟩

structure Deepens (e deeper : Engine) : Prop where
  going : deeper = e.going deeper.ways
  ways : e.ways.Deepens deeper.ways

namespace Deepens

variable {e} {deeper : Engine} (deepens : e.Deepens deeper)
include deepens

theorem includeType (type : TypeId) : Refines (e.includeType type) (deeper.includeType type) := by
  rw [deepens.going]
  exact (e.courses_refines deepens.ways).includeType (e.refines_includeKnown deepens.ways type _)

theorem includeKnown (type : TypeId) (name : Option String) :
    Refines (e.includeKnown type name) (deeper.includeKnown type name) := by
  rw [deepens.going]
  exact e.refines_includeKnown deepens.ways type name

theorem includeInline (type : TypeId) : Refines (e.includeInline type) (deeper.includeInline type) := by
  rw [deepens.going]
  exact (e.courses_refines deepens.ways).includeInline type

theorem includeNamed (type : TypeId) : Refines (e.includeNamed type) (deeper.includeNamed type) := by
  rw [deepens.going]
  exact (e.pairs_refines deepens.ways).includeNamed (e.refines_includeObject deepens.ways type)

theorem makeAliasRef (type : TypeId) (name : String) :
    Refines (e.makeAliasRef type name) (deeper.makeAliasRef type name) := by
  rw [deepens.going]
  exact e.refines_makeAliasRef deepens.ways type name

theorem declaredTypeParameters (site : SiteId) :
    Refines (e.declaredTypeParameters site) (deeper.declaredTypeParameters site) := by
  rw [deepens.going]
  exact (e.pairs_refines deepens.ways).declaredTypeParameters site

theorem unionNode (types : List (Option TypeId)) :
    Refines (e.unionNode types) (deeper.unionNode types) := by
  rw [deepens.going]
  exact (e.pairs_refines deepens.ways).unionNode types

theorem aliasBody (site : SiteId) : Refines (e.aliasBody site) (deeper.aliasBody site) := by
  rw [deepens.going]
  exact (e.courses_refines deepens.ways).aliasBody site

end Deepens

/-- An engine that gets nowhere. -/
structure Bare (e : Engine) : Prop where
  visit : ∀ type, e.visit type = .fail .tooDeep
  visitNamed : ∀ type name, e.visitNamed type name = .fail .tooDeep
  visitInline : ∀ type, e.visitInline type = .fail .tooDeep

theorem ways_within (e : Engine) (levels : Nat) :
    (e.within levels).bodyOfType = e.bodyOfType ∧ (e.within levels).bodyOfAlias = e.bodyOfAlias := by
  cases levels <;> exact ⟨rfl, rfl⟩

theorem going_within {deeper : Engine} (same : deeper = e.going deeper.ways) (levels more : Nat) :
    deeper.within more = (e.within levels).going (deeper.within more).ways := by
  rw [same]
  cases levels <;> cases more <;> rfl

theorem deepens_within {e deeper : Engine} (bare : e.Bare) (same : deeper = e.going deeper.ways)
    (bodyOfType : ∀ type, Refines (e.bodyOfType type) (deeper.bodyOfType type))
    (bodyOfAlias : ∀ site, Refines (e.bodyOfAlias site) (deeper.bodyOfAlias site))
    {levels more : Nat} (le : levels ≤ more) : (e.within levels).Deepens (deeper.within more) := by
  induction levels generalizing more with
  | zero =>
      refine ⟨e.going_within same 0 more, fun type => refines_of_stuck (bare.visit type),
        fun type name => refines_of_stuck (bare.visitNamed type name),
        fun type => refines_of_stuck (bare.visitInline type), ?_, ?_⟩
      · change ∀ type, Refines (e.bodyOfType type) ((deeper.within more).bodyOfType type)
        rwa [(deeper.ways_within more).1]
      · change ∀ site, Refines (e.bodyOfAlias site) ((deeper.within more).bodyOfAlias site)
        rwa [(deeper.ways_within more).2]
  | succ levels ih =>
      obtain ⟨more, rfl⟩ : ∃ fewer, more = fewer + 1 := ⟨more - 1, by omega⟩
      have inner := ih (Nat.le_of_succ_le_succ le)
      exact ⟨e.going_within same (levels + 1) (more + 1), inner.includeType, inner.includeKnown,
        inner.includeInline, bodyOfType, bodyOfAlias⟩

theorem deepens_withEntries {e : Engine} (bare : e.Bare)
    (typeless : ∀ type, e.bodyOfType type = .fail .tooDeep)
    (aliasless : ∀ site, e.bodyOfAlias site = .fail .tooDeep) {depth deeper entries more : Nat}
    (le : depth ≤ deeper) (fewer : entries ≤ more) :
    (e.withEntries depth entries).Bare ∧
      e.withEntries deeper more =
        (e.withEntries depth entries).going (e.withEntries deeper more).ways ∧
      (∀ type, Refines ((e.withEntries depth entries).bodyOfType type)
        ((e.withEntries deeper more).bodyOfType type)) ∧
      ∀ site, Refines ((e.withEntries depth entries).bodyOfAlias site)
        ((e.withEntries deeper more).bodyOfAlias site) := by
  induction entries generalizing more with
  | zero =>
      exact ⟨bare, by cases more <;> rfl, fun type => refines_of_stuck (typeless type),
        fun site => refines_of_stuck (aliasless site)⟩
  | succ entries ih =>
      obtain ⟨more, rfl⟩ : ∃ fewer, more = fewer + 1 := ⟨more - 1, by omega⟩
      obtain ⟨inner, same, bodyOfType, bodyOfAlias⟩ := ih (Nat.le_of_succ_le_succ fewer)
      have deepens := deepens_within inner same bodyOfType bodyOfAlias le
      exact ⟨⟨bare.visit, bare.visitNamed, bare.visitInline⟩, rfl, deepens.includeNamed,
        deepens.aliasBody⟩

def reaching (p : Program) (settings : ExtractionSettings) (libraries : LibrarySettings)
    (depth entries levels : Nat) : Engine :=
  let bare : Engine := { program := p, settings, libraries }
  (bare.withEntries depth entries).within levels

@[simp] theorem program_reaching (p : Program) (settings : ExtractionSettings)
    (libraries : LibrarySettings) (depth entries levels : Nat) :
    (reaching p settings libraries depth entries levels).program = p := by
  cases levels <;> cases entries <;> rfl

@[simp] theorem settings_reaching (p : Program) (settings : ExtractionSettings)
    (libraries : LibrarySettings) (depth entries levels : Nat) :
    (reaching p settings libraries depth entries levels).settings = settings := by
  cases levels <;> cases entries <;> rfl

@[simp] theorem libraries_reaching (p : Program) (settings : ExtractionSettings)
    (libraries : LibrarySettings) (depth entries levels : Nat) :
    (reaching p settings libraries depth entries levels).libraries = libraries := by
  cases levels <;> cases entries <;> rfl

/-- With more levels and entries, an engine does what it does with fewer, unless it runs out of them
there. -/
theorem deepens_reaching (p : Program) (settings : ExtractionSettings) (libraries : LibrarySettings)
    {depth deeper entries more levels further : Nat} (le : depth ≤ deeper) (fewer : entries ≤ more)
    (shorter : levels ≤ further) :
    (reaching p settings libraries depth entries levels).Deepens
      (reaching p settings libraries deeper more further) := by
  obtain ⟨bare, same, bodyOfType, bodyOfAlias⟩ :=
    deepens_withEntries (e := { program := p, settings, libraries })
      ⟨fun _ => rfl, fun _ _ => rfl, fun _ => rfl⟩ (fun _ => rfl) (fun _ => rfl) le fewer
  exact deepens_within bare same bodyOfType bodyOfAlias shorter

/-- An engine without levels gets nowhere. -/
theorem bare_reaching (p : Program) (settings : ExtractionSettings) (libraries : LibrarySettings)
    (depth entries : Nat) : (reaching p settings libraries depth entries 0).Bare :=
  (deepens_withEntries (e := { program := p, settings, libraries })
    ⟨fun _ => rfl, fun _ _ => rfl, fun _ => rfl⟩ (fun _ => rfl) (fun _ => rfl) (Nat.le_refl depth)
    (Nat.le_refl entries)).1

section Outcomes

variable (p : Program) (settings : ExtractionSettings) (libraries : LibrarySettings)

/-- With levels and entries enough, the step that the engine takes from the walk comes to this. -/
def ComesTo {α : Type} (step : Engine → Extract α) (w : Walk) (outcome : Except Fault α × Walk) : Prop :=
  outcome.1 ≠ .error .tooDeep ∧
    ∃ depth entries levels, step (reaching p settings libraries depth entries levels) w = outcome

variable {p settings libraries}

theorem ComesTo.follow {α : Type} {step other : Engine → Extract α} {w : Walk}
    {outcome : Except Fault α × Walk} (comes : ComesTo p settings libraries step w outcome)
    (follows : ∀ depth entries levels,
      (step (reaching p settings libraries depth entries levels) w).1 ≠ .error .tooDeep →
        ∃ deeper more further, other (reaching p settings libraries deeper more further) w =
          step (reaching p settings libraries depth entries levels) w) :
    ComesTo p settings libraries other w outcome := by
  obtain ⟨ends, depth, entries, levels, rfl⟩ := comes
  obtain ⟨deeper, more, further, same⟩ := follows depth entries levels ends
  exact ⟨ends, deeper, more, further, same⟩

end Outcomes

end Engine

end TypeAtlas
