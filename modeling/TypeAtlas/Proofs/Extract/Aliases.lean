import TypeAtlas.Proofs.Extract.Positions

/-!
An alias has one entry, whether it is first met by a reference or as an export. The one way describes
the type that stands at its declaration, the other what is written on the right; the type was written
there before it knew the name of the alias, so that the two come to the same.
-/

namespace TypeAtlas

open Extract

/-- What stands on the right of an alias is neither a `keyof` nor an enumeration, which is the only
union with a symbol. -/
structure Program.Unfolds (p : Program) (type : TypeId) : Prop where
  plain : (p.type type).keyofOperand? = none
  union : (p.type type).isUnion = true → (p.type type).symbol = none

namespace Engine

variable {p : Program} {settings : ExtractionSettings} {libraries : LibrarySettings}

/-- A type that is written without a name is written out where it stands, or one level further in. -/
theorem includeAnnotation_of_parts (spelled : p.Spelled) {written : SiteId} {type : TypeId}
    (isWritten : (p.site written).kind.isWritten = true)
    (unnamed : (p.site written).kind ≠ .typeReference)
    (certain : (p.site written).kind ≠ .inferType)
    (stands : (p.site written).answers.type = some (some type)) (unfolds : p.Unfolds type) :
    (∀ e : Engine, e.program = p → e.includeAnnotation (some written) = e.includeInline type) ∨
      ∀ e : Engine, e.program = p → e.includeAnnotation (some written) = e.visitInline type := by
  have spells := spelled.spells written isWritten type stands
  cases kind : (p.site written).kind with
  | typeReference => exact absurd kind unnamed
  | inferType => exact absurd kind certain
  | keyofOperator =>
      obtain ⟨operand, child, keyof, -⟩ := spells.keyof kind
      rw [unfolds.plain] at keyof
      cases keyof
  | unionType =>
      obtain ⟨-, united, other, children, types, below, listed, -, answers⟩ := spells.union kind
      left
      rintro e rfl
      rw [includeAnnotation_of_unnamed unnamed certain, includeWrittenOrInline,
        includeWritten_of_union kind below answers,
        includeInline_of_union spelled rfl (unfolds.union united) united other listed]
      simp
  | typeNode =>
      right
      rintro e rfl
      rw [includeAnnotation_of_unnamed unnamed certain]
      exact includeWrittenOrInline_of_plain stands
        (includeWritten_of_other (by simp [kind]) (by simp [kind]))
  | _ =>
      rw [kind] at isWritten
      cases isWritten

def writtenAlias (e : Engine) (site written : SiteId) : Extract Node := do
  let comment ← e.program.comment (e.program.site site).symbol
  let types ← e.declaredTypeParameters site
  let child ← e.includeAnnotation (some written)
  pure (.aliasOf types child comment)

def entry (name : String) (body : Extract Node) : Extract Unit :=
  inScope name do
    Extract.reserve name
    Extract.set name (← body)

theorem register_of_free {name : String} {body : Extract Node} {w : Walk}
    (free : w.registry.has name = false) : register name body w = entry name body w := by
  rw [register, bind_ok (isRegistered_apply name w), free]
  rfl

theorem refines_entry (name : String) {body deeper : Extract Node} (inner : Refines body deeper) :
    Refines (entry name body) (entry name deeper) :=
  refines_inScope name (refines_bind (Refines.refl _) fun _ =>
    refines_bind inner fun _ => Refines.refl _)

theorem includeExportedAlias_of_named (e : Engine) {site written : SiteId} {name : String}
    (called : (e.program.site site).name = some name) (nonEmpty : name ≠ "")
    (right : (e.program.site site).type = some written) :
    e.includeExportedAlias site = entry name (e.writtenAlias site written) := by
  have declared : e.declaredName site = pure name := by
    simp [declaredName, called, Option.filter, nonEmpty]
  simp only [includeExportedAlias, declared, right, pure_bind, exportedAlias, entry, writtenAlias,
    bind_assoc]

section Entries

variable {site written : SiteId} {type : TypeId}
  (stands : p.typeAt (some site) = .ok (some type))
  (right : (∀ e : Engine, e.program = p → e.includeAnnotation (some written) = e.includeInline type) ∨
    ∀ e : Engine, e.program = p → e.includeAnnotation (some written) = e.visitInline type)
include stands right

omit right in
theorem aliasBody_of_stands {e : Engine} (program : e.program = p) :
    e.aliasBody site = (do
      let comment ← e.program.comment (e.program.site site).symbol
      let types ← e.declaredTypeParameters site
      let child ← e.includeInline type
      pure (.aliasOf types child comment)) := by
  subst program
  simp only [aliasBody, stands]
  rfl

theorem refines_writtenAlias {depth deeper entries more levels further : Nat} (le : depth ≤ deeper)
    (fewer : entries ≤ more) (shorter : levels ≤ further) :
    Refines ((reaching p settings libraries depth entries levels).writtenAlias site written)
      ((reaching p settings libraries deeper more further).aliasBody site) := by
  have deepens := deepens_reaching p settings libraries le fewer shorter
  rw [aliasBody_of_stands stands (program_reaching ..), writtenAlias, program_reaching,
    program_reaching]
  refine refines_bind (Refines.refl _) fun comment => ?_
  refine refines_bind (deepens.declaredTypeParameters site) fun types => ?_
  refine refines_bind ?_ fun child => Refines.refl _
  rcases right with inline | visited
  · rw [inline _ (program_reaching ..)]
    exact deepens.includeInline type
  · rw [visited _ (program_reaching ..)]
    cases levels with
    | zero => exact refines_of_stuck ((bare_reaching p settings libraries depth entries).visitInline type)
    | succ levels =>
        exact (deepens_reaching p settings libraries le fewer (by omega)).includeInline type

theorem refines_aliasBody_written {depth deeper entries more levels further : Nat} (le : depth ≤ deeper)
    (fewer : entries ≤ more) (shorter : levels < further) :
    Refines ((reaching p settings libraries depth entries levels).aliasBody site)
      ((reaching p settings libraries deeper more further).writtenAlias site written) := by
  have deepens := deepens_reaching p settings libraries le fewer (Nat.le_of_lt shorter)
  rw [aliasBody_of_stands stands (program_reaching ..), writtenAlias, program_reaching,
    program_reaching]
  refine refines_bind (Refines.refl _) fun comment => ?_
  refine refines_bind (deepens.declaredTypeParameters site) fun types => ?_
  refine refines_bind ?_ fun child => Refines.refl _
  rcases right with inline | visited
  · rw [inline _ (program_reaching ..)]
    exact deepens.includeInline type
  · rw [visited _ (program_reaching ..)]
    obtain ⟨further, rfl⟩ : ∃ fewer, further = fewer + 1 := ⟨further - 1, by omega⟩
    exact (deepens_reaching p settings libraries le fewer (by omega)).includeInline type

end Entries

theorem has_of_entry {name : String} {body : Extract Node} {w after : Walk}
    (ran : entry name body w = (.ok (), after)) : after.registry.has name = true := by
  obtain ⟨final, inner, rfl⟩ := of_inScope_ok ran
  obtain ⟨-, reserved, -, filled⟩ := of_bind_ok inner
  obtain ⟨node, between, -, written⟩ := of_bind_ok filled
  cases written
  rw [Walk.registry_closeScope]
  exact Registry.has_set_self between.registry name node

/-- A reference to a local alias without an entry begins the entry, and then finds it. -/
theorem makeAliasRef_of_free {e : Engine} {type : TypeId} {named : SymbolId} {site : SiteId}
    {name : String} (aliased : (e.program.type type).alias? = some named)
    (declared : e.program.firstDeclaration (some named) = some site)
    (inside : (e.originOf (some named)).scope? = none) {w : Walk}
    (free : w.registry.has name = false) :
    e.makeAliasRef type name w = (do
      entry name (e.bodyOfAlias site)
      e.makeAliasRef type name) w := by
  let rest : Extract Node := do
    let types ← e.visitAll (e.program.type type).aliasArguments.slots
    let types ← e.normalizeArguments type (e.program.site site).typeParameters types name
    return .ref { name, types }
  have opened : e.makeAliasRef type name = (do
      register name (e.bodyOfAlias site)
      rest) := by
    simp [makeAliasRef, aliased, declared, externalName, inside, rest]
  rw [opened, bind_apply, bind_apply, register_of_free free]
  rcases ran : entry name (e.bodyOfAlias site) w with ⟨fault | done, after⟩
  · rfl
  · have skipped : register name (e.bodyOfAlias site) after = (.ok (), after) := by
      rw [register, bind_ok (isRegistered_apply name after), has_of_entry ran]
      rfl
    change rest after = (register name (e.bodyOfAlias site) >>= fun _ => rest) after
    rw [bind_ok skipped]

/-- The entry of an alias that a reference begins is the one that an export begins, with levels enough. -/
theorem entry_agrees {site written : SiteId} {type : TypeId}
    (stands : p.typeAt (some site) = .ok (some type))
    (right : (∀ e : Engine, e.program = p → e.includeAnnotation (some written) = e.includeInline type) ∨
      ∀ e : Engine, e.program = p → e.includeAnnotation (some written) = e.visitInline type)
    (name : String) (depth entries levels : Nat) :
    let e := reaching p settings libraries depth entries levels
    let deeper := reaching p settings libraries (depth + levels + 1) (entries + 1) (depth + levels + 1)
    Refines (entry name (e.bodyOfAlias site)) (entry name (deeper.writtenAlias site written)) ∧
      Refines (entry name (e.writtenAlias site written)) (entry name (deeper.bodyOfAlias site)) := by
  -- the body of an entry starts with all levels again
  have body (depth entries levels : Nat) :
      (reaching p settings libraries depth (entries + 1) levels).bodyOfAlias site =
        (reaching p settings libraries depth entries depth).aliasBody site := by
    cases levels <;> rfl
  dsimp only
  constructor
  · cases entries with
    | zero =>
        refine refines_entry name (refines_of_stuck ?_)
        cases levels <;> rfl
    | succ entries =>
        rw [body]
        exact refines_entry name
          (refines_aliasBody_written stands right (by omega) (by omega) (by omega))
  · rw [body]
    exact refines_entry name (refines_writtenAlias stands right (by omega) (by omega) (by omega))

end Engine

open Engine in
/-- A local alias of a built program that its type remembers has the same entry, whether it is first met
by a reference or as an export. -/
theorem Program.Built.oneEntry {p : Program} {allowed : Call → Program → Prop}
    (built : Program.Built allowed p) {settings : ExtractionSettings} {libraries : LibrarySettings}
    {type : TypeId} {named : SymbolId} (remembers : (p.type type).alias? = some named)
    (titled : (p.symbol named).name ≠ "") {site : SiteId}
    (declared : p.firstDeclaration (some named) = some site)
    (inside : (libraries.originOf (p.fileOf site)).scope? = none) {aliased : TypeId}
    (stands : p.typeAt (some site) = .ok (some aliased)) (unfolds : p.Unfolds aliased) {w : Walk}
    (free : w.registry.has (p.symbol named).name = false) (outcome : Except Fault Node × Walk) :
    ComesTo p settings libraries (·.makeAliasRef type (p.symbol named).name) w outcome ↔
      ComesTo p settings libraries
        (fun e => do
          e.includeExportedAlias site
          e.makeAliasRef type (p.symbol named).name) w outcome := by
  have spelled := spelled_of_built built
  obtain ⟨ages, live⟩ := live_of_built ⟨False, False⟩ built fun _ _ _ => ⟨nofun, nofun⟩
  obtain ⟨place, written, other, flagged, declarations, -, right, answer, isWritten, unnamed, answered,
    known⟩ := (spelled.formed type).aliased named remembers
  obtain rfl : place = site := by
    simpa [Program.firstDeclaration, declarations, Slots.first?, Slots.slots, Slots.of] using declared
  obtain rfl : other = aliased := by
    rw [(asked_of_answer answer).1] at stands
    simpa using stands
  have certain : (p.site written).kind ≠ .inferType := by
    intro inferred
    have listed := (spelled.spells written isWritten other answered).inferred inferred
    rw [((live.types other).parameter (live.inferred other listed)).1] at known
    cases known
  have parts := includeAnnotation_of_parts spelled isWritten unnamed certain answered unfolds
  have called : (p.site place).name = some (p.symbol named).name :=
    (live.symbols named).titled place (.inl ⟨by simp [Symbol.isTitled, flagged], declared⟩)
  have exported (depth entries levels : Nat) :
      (reaching p settings libraries depth entries levels).includeExportedAlias place =
        entry (p.symbol named).name
          ((reaching p settings libraries depth entries levels).writtenAlias place written) :=
    includeExportedAlias_of_named _ (by rw [program_reaching, called]) titled
      (by rw [program_reaching, right])
  have referred (depth entries levels : Nat) :
      (reaching p settings libraries depth entries levels).makeAliasRef type (p.symbol named).name w =
        (do
          entry (p.symbol named).name
            ((reaching p settings libraries depth entries levels).bodyOfAlias place)
          (reaching p settings libraries depth entries levels).makeAliasRef type
            (p.symbol named).name) w :=
    makeAliasRef_of_free (by rw [program_reaching, remembers]) (by rw [program_reaching, declared])
      (by simpa [originOf, declared] using inside) free
  have deepens (depth entries levels : Nat) :=
    (deepens_reaching p settings libraries (Nat.le_add_right depth (levels + 1))
      (Nat.le_succ entries) (show levels ≤ depth + levels + 1 by omega)).makeAliasRef type
      (p.symbol named).name
  constructor
  · intro comes
    refine comes.follow fun depth entries levels ends =>
      ⟨depth + levels + 1, entries + 1, depth + levels + 1, ?_⟩
    rw [referred] at ends ⊢
    rw [exported]
    exact refines_bind (entry_agrees stands parts _ depth entries levels).1
      (fun _ => deepens depth entries levels) w ends
  · intro comes
    refine comes.follow fun depth entries levels ends =>
      ⟨depth + levels + 1, entries + 1, depth + levels + 1, ?_⟩
    rw [exported] at ends ⊢
    rw [referred]
    exact refines_bind (entry_agrees stands parts _ depth entries levels).2
      (fun _ => deepens depth entries levels) w ends

open Engine in
theorem oneEntry_placed : ∃ outcome,
    ComesTo placedProgram {} {} (·.makeAliasRef ⟨15⟩ "Point") {} outcome ∧
      ComesTo placedProgram {} {}
        (fun e => do
          e.includeExportedAlias ⟨4⟩
          e.makeAliasRef ⟨15⟩ "Point") {} outcome := by
  have built : placedProgram.Built fun _ _ => True := built_of_specs (by decide +kernel)
  have remembers : (placedProgram.type ⟨15⟩).alias? = some ⟨3⟩ := by decide +kernel
  have name : (placedProgram.symbol ⟨3⟩).name = "Point" := by decide +kernel
  have declared : placedProgram.firstDeclaration (some ⟨3⟩) = some ⟨4⟩ := by decide +kernel
  have stands : placedProgram.typeAt (some ⟨4⟩) = .ok (some ⟨15⟩) :=
    (Program.asked_of_answer (by decide +kernel)).1
  have unfolds : placedProgram.Unfolds ⟨15⟩ := ⟨by decide +kernel, by decide +kernel⟩
  let result := (reaching placedProgram {} {} 8 4 8).makeAliasRef ⟨15⟩ "Point" {}
  have comes : ComesTo placedProgram {} {} (·.makeAliasRef ⟨15⟩ "Point") {} result := by
    refine ⟨fun failed => ?_, 8, 4, 8, rfl⟩
    have referred : refersTo "Point" result.1 = true := by decide +kernel
    rw [failed] at referred
    cases referred
  have inside : (({} : LibrarySettings).originOf (placedProgram.fileOf ⟨4⟩)).scope? = none := by
    decide +kernel
  have free : ({} : Walk).registry.has (placedProgram.symbol ⟨3⟩).name = false := by decide +kernel
  rw [← name] at comes ⊢
  refine ⟨result, comes, Iff.mp ?_ comes⟩
  exact built.oneEntry remembers (by decide +kernel) declared inside stands unfolds free result

def aliased? (w : Walk) (name : String) : Option Node :=
  match w.registry.get? name with
  | some (.aliasOf _ child _) => some child
  | _ => none

/-- A `keyof` is not found on the right of an alias that is first met by a reference, and is found when
the alias is an export. -/
theorem entry_of_keyed_differs : keyedProgram.Built (fun _ _ => True) ∧
    (match (Engine.start keyedProgram {} {}).makeAliasRef ⟨16⟩ "Key" {} with
      | (.ok _, w) => match aliased? w "Key" with
        | some .unidentified => true
        | _ => false
      | _ => false) = true ∧
    (match (Engine.start keyedProgram {} {}).includeExportedAlias ⟨4⟩ {} with
      | (.ok _, w) => match aliased? w "Key" with
        | some (.prefixed word _) => word == "keyof"
        | _ => false
      | _ => false) = true :=
  ⟨built_of_specs (by decide +kernel), by decide +kernel, by decide +kernel⟩

end TypeAtlas
