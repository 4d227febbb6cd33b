import TypeAtlas.Proofs.Builder.SpellingCall
import TypeAtlas.Proofs.Extract.Isolation
import TypeAtlas.Proofs.Extract.Levels

/-!
A type has one node wherever it stands. A parameter is described from what is written there, a property
from what is written when that is a `keyof` or a union, and a result from the type alone; what is
written goes with the type, so that the three come to the same.
-/

namespace TypeAtlas

open Extract

/-- Whatever a type is known by is also what it is written by: no alias stands for a `keyof` or has no
name, and a type whose name is not written is an object with a name that the compiler made up. -/
structure ExtractionSettings.Recognizes (settings : ExtractionSettings) (p : Program) (type : TypeId) :
    Prop where
  aliased : ∀ named, (p.type type).alias? = some named →
    (p.type type).keyofOperand? = none ∧ (p.symbol named).name ≠ ""
  unwritten : (p.type type).alias? = none → p.ownName? (p.type type) = none →
    ∀ symbol, (p.type type).symbol = some symbol → (p.type type).flags = [.object] ∧
      settings.anonymousStart.toList.isPrefixOf (p.symbol symbol).name.toList = true

/-- A type is written at a place, under its alias if it has one. -/
structure Program.Writes (p : Program) (site : SiteId) (type : TypeId) : Prop where
  written : (p.site site).kind.isWritten = true
  stands : p.typeAt (some site) = .ok (some type)
  aliased : (p.type type).alias?.isSome = true → (p.site site).kind = .typeReference

theorem Program.asked_of_answer {p : Program} {site : SiteId} {type : Option TypeId}
    (answer : (p.site site).answers.type = some type) :
    p.typeAt (some site) = .ok type ∧ p.typeWritten (some site) = .ok type := by
  simp only [typeAt, typeWritten, recordedType, siteAnswers, answer, and_self]

/-- A property, which is no method, with its type as it is written at a place. -/
structure Program.Field (p : Program) (prop : SymbolId) (site : SiteId) (type : TypeId) : Prop where
  plain : (p.symbol prop).hasFlag .method = false
  declared : ∃ place, p.firstDeclaration (some prop) = some place ∧
    p.isMethodSite (some place) = false ∧ (p.site place).type = some site ∧
    p.valueTypeAt prop place = .ok (some type)

namespace Engine

variable (e : Engine)

theorem lift_bind_of_ok {α β : Type} {asked : Except Fault α} {value : α} (found : asked = .ok value)
    (next : α → Extract β) : (liftM asked >>= next) = next value := by
  rw [found]
  rfl

section Anonymous

/-- A type that is written in place may stand for one that is declared around it, or not, whatever the
walk. -/
theorem includeHidden_decides (type : TypeId) : e.includeHidden type = pure none ∨
    ∃ step, e.includeHidden type = some <$> step := by
  simp only [includeHidden]
  cases (e.program.type type).symbol with
  | none => exact .inl rfl
  | some symbol =>
      dsimp only
      split
      · exact .inl rfl
      · cases e.containerFrom e.settings.maxHops
          ((e.program.firstDeclaration (some symbol)).bind fun id => (e.program.site id).parent) with
        | none => exact .inl rfl
        | some container =>
            right
            refine ⟨do
              emit (hiddenResolved (e.program.symbol container).name)
              let declared ← e.program.declaredType container
              e.visitPresent declared, ?_⟩
            simp only [map_bind]

variable {type : TypeId} {symbol : SymbolId} (held : (e.program.type type).symbol = some symbol)
  (anonymous : e.isAnonymous (e.program.symbol symbol).name = true)
include held anonymous

theorem includeExternal_of_anonymous : e.includeExternal type = e.includeHidden type := by
  simp only [includeExternal, includeHidden, held, anonymous]
  cases (e.originOf (some symbol)).scope? with
  | none => simp
  | some scope => cases scope <;> simp

theorem includeInline_of_hidden (object : (e.program.type type).flags = [.object])
    (untupled : e.program.isTuple (e.program.type type) = false) {step : Extract Node}
    (hidden : e.includeHidden type = some <$> step) : e.includeInline type = step := by
  have unmarked (flag : TypeFlag) (other : flag ≠ .object) :
      (e.program.type type).hasFlag flag = false := by
    rw [TypeInfo.hasFlag, object]
    simpa using other
  have basic : e.includeBasic type = pure none := by
    simp only [includeBasic, object]
    rfl
  have combinator : e.includeCombinator type = pure none ∨
      e.includeCombinator type = some <$> step := by
    simp only [includeCombinator, untupled, TypeInfo.isUnion, TypeInfo.isIntersection,
      TypeInfo.isIndexedAccess, unmarked .union (by decide), unmarked .intersection (by decide),
      unmarked .indexedAccess (by decide)]
    cases (e.program.type type).isReference with
    | false => simp
    | true =>
        right
        simp [held, includeReference, e.includeExternal_of_anonymous held anonymous, hidden]
  have chosen (others : List (TypeId → Extract (Option Node))) :
      e.firstOf type (e.includeHidden :: others) = step := by
    simp [firstOf, hidden]
  rw [includeInline, firstOf, basic, pure_bind]
  rcases combinator with other | reference
  · rw [firstOf, other, pure_bind]
    exact chosen _
  · simp [firstOf, reference]

theorem includeTitled_of_anonymous (object : (e.program.type type).flags = [.object])
    (untupled : e.program.isTuple (e.program.type type) = false)
    (unaliased : (e.program.type type).alias? = none) :
    e.includeTitled type (some (e.program.symbol symbol).name) = e.includeInline type := by
  simp only [includeTitled, unaliased, anonymous]
  split
  · rfl
  · rw [if_neg (by simp), e.includeExternal_of_anonymous held anonymous]
    rcases e.includeHidden_decides type with none | ⟨step, hidden⟩
    · simp [none]
    · rw [e.includeInline_of_hidden held anonymous object untupled hidden, hidden]
      simp

end Anonymous

section Known

variable {p : Program} (spelled : p.Spelled) {type : TypeId}
include spelled

/-- A tuple has no symbol. -/
theorem untupled_of_symbol {symbol : SymbolId} (held : (p.type type).symbol = some symbol) :
    p.isTuple (p.type type) = false := by
  unfold Program.isTuple
  cases known : (p.type type).target with
  | none => simp
  | some target =>
      have same := ((spelled.formed type).target (by simp [held]) target known).2
      cases tuple : (p.type target).hasObjectFlag .tuple with
      | false => simp [tuple]
      | true =>
          rw [(spelled.formed target).tuple tuple, held] at same
          cases same

variable {e : Engine} (program : e.program = p)
include program

/-- A union without a symbol has its members as its node. -/
theorem includeInline_of_union (bare : (p.type type).symbol = none)
    (united : (p.type type).hasFlag .union = true) (other : (p.type type).hasFlag .boolean = false)
    {types : List (Option TypeId)} (listed : (p.type type).types = some types) :
    e.includeInline type = e.unionNode types := by
  have single : (p.type type).flags = [.union] :=
    ((spelled.formed type).unnamed bare united).resolve_right (by simp [other])
  subst program
  have basic : e.includeBasic type = pure none := by
    simp only [includeBasic, single]
    rfl
  have unmarked : (e.program.type type).isReference = false := by
    rw [TypeInfo.isReference, TypeInfo.isObject, TypeInfo.hasFlag, single]
    rfl
  have combinator : e.includeCombinator type = some <$> e.unionNode types := by
    simp only [includeCombinator, Program.isTuple, unmarked, listed]
    simp [TypeInfo.isUnion, united, Slots.each]
    rfl
  rw [includeInline, firstOf, basic, pure_bind, firstOf, combinator]
  simp

variable (recognizes : e.settings.Recognizes p type) (unaliased : (p.type type).alias? = none)
  (unnamed : p.ownName? (p.type type) = none)
include recognizes unaliased unnamed

/-- A type without a name to be written by is written out. -/
theorem includeType_of_unwritten (plain : (p.type type).keyofOperand? = none) :
    e.includeType type = e.includeInline type := by
  subst program
  simp only [includeType, plain, nameOf, unaliased, Option.map_none]
  cases held : (e.program.type type).symbol with
  | none => exact e.includeKnown_of_other none (.inr held)
  | some symbol =>
      obtain ⟨object, madeUp⟩ := recognizes.unwritten unaliased unnamed symbol held
      have anonymous : e.isAnonymous (e.program.symbol symbol).name = true := by
        rw [isAnonymous, madeUp, Bool.or_true]
      have other : (e.program.type type).isTypeParameter = false := by
        rw [TypeInfo.isTypeParameter, TypeInfo.hasFlag, object]
        rfl
      rw [Option.map_some, e.includeKnown_of_other _ (.inl other)]
      exact e.includeTitled_of_anonymous held anonymous object (untupled_of_symbol spelled held)
        unaliased

theorem includeType_of_union (plain : (p.type type).keyofOperand? = none)
    (united : (p.type type).hasFlag .union = true) (other : (p.type type).hasFlag .boolean = false)
    {types : List (Option TypeId)} (listed : (p.type type).types = some types) :
    e.includeType type = e.unionNode types := by
  rw [includeType_of_unwritten spelled program recognizes unaliased unnamed plain]
  refine includeInline_of_union spelled program ?_ united other listed
  cases held : (p.type type).symbol with
  | none => rfl
  | some symbol =>
      have object := (recognizes.unwritten unaliased unnamed symbol held).1
      rw [TypeInfo.hasFlag, object] at united
      cases united

end Known

theorem symbol_of_ownName? {p : Program} {t : TypeInfo} {name : String}
    (own : p.ownName? t = some name) : ∃ symbol, t.symbol = some symbol ∧ (p.symbol symbol).name = name := by
  unfold Program.ownName? Build.writtenName? at own
  dsimp only at own
  cases held : t.symbol with
  | none =>
      rw [held] at own
      cases own
  | some symbol =>
      rw [held] at own
      dsimp only at own
      refine ⟨symbol, rfl, ?_⟩
      split at own
      · cases own
      · split at own
        · exact Option.some_inj.mp own
        · cases own

theorem includeType_of_named {p : Program} {type : TypeId} {e : Engine} (program : e.program = p)
    (recognizes : e.settings.Recognizes p type)
    (keyof : (p.type type).hasFlag .index = true → (p.type type).symbol = none) {name : Option String}
    (titled : (∃ named, (p.type type).alias? = some named ∧ name = some (p.symbol named).name) ∨
      (p.type type).alias? = none ∧ ∃ own, p.ownName? (p.type type) = some own ∧ name = some own) :
    e.includeType type = e.includeKnown type name := by
  subst program
  rcases titled with ⟨named, aliased, rfl⟩ | ⟨unaliased, own, written, rfl⟩
  · obtain ⟨plain, called⟩ := recognizes.aliased named aliased
    simp [includeType, plain, nameOf, aliased, called]
  · obtain ⟨symbol, held, rfl⟩ := symbol_of_ownName? written
    have plain : (e.program.type type).keyofOperand? = none := by
      rw [TypeInfo.keyofOperand?]
      split
      · rename_i flagged
        rw [keyof flagged] at held
        cases held
      · rfl
    simp only [includeType, plain, nameOf, unaliased, held]
    rfl

theorem typesWritten {p : Program} {children : List SiteId} {types : List (Option TypeId)}
    (answers : children.map (fun child => (p.site child).answers.type) = types.map some) :
    (children.map some).mapM p.typeWritten = .ok types := by
  induction children generalizing types with
  | nil =>
      cases types with
      | nil => rfl
      | cons type rest => cases answers
  | cons child others ih =>
      cases types with
      | nil => cases answers
      | cons type rest =>
          obtain ⟨first, answers⟩ := List.cons.inj answers
          have first : (p.site child).answers.type = some type := first
          rw [List.map_cons, List.mapM_cons, ih answers, (Program.asked_of_answer first).2]
          rfl

section Kinds

variable {e : Engine} {site : SiteId}

theorem includeWritten_of_keyof (kind : (e.program.site site).kind = .keyofOperator) :
    e.includeWritten (some site) = (do
      let operand ← e.program.typeWritten (e.program.site site).type
      some <$> e.keyofNode operand) := by
  simp [includeWritten, Program.isKeyofSite, Program.hasKind, kind]

theorem includeWritten_of_union (kind : (e.program.site site).kind = .unionType)
    {children : List SiteId} (below : (e.program.site site).types = Slots.of children)
    {types : List (Option TypeId)}
    (answers : children.map (fun child => (e.program.site child).answers.type) = types.map some) :
    e.includeWritten (some site) = some <$> e.unionNode types := by
  have opened : e.includeWritten (some site) = (do
      let parts ← (e.program.site site).types.each
      let types ← (parts.mapM e.program.typeWritten : Except Fault (List (Option TypeId)))
      some <$> e.unionNode types) := by
    simp [includeWritten, Program.isKeyofSite, Program.isUnionSite, Program.hasKind, kind, mapM_lift]
  rw [opened, below]
  exact (lift_bind_of_ok rfl _).trans (lift_bind_of_ok (typesWritten answers) _)

theorem includeWritten_of_other (notKeyof : (e.program.site site).kind ≠ .keyofOperator)
    (notUnion : (e.program.site site).kind ≠ .unionType) : e.includeWritten (some site) = pure none := by
  simp [includeWritten, Program.isKeyofSite, Program.isUnionSite, Program.hasKind, notKeyof, notUnion]

/-- Where no name and no variable is written, the place is told from its kind. -/
theorem includeAnnotation_of_unnamed (unnamed : (e.program.site site).kind ≠ .typeReference)
    (certain : (e.program.site site).kind ≠ .inferType) :
    e.includeAnnotation (some site) = e.includeWrittenOrInline (some site) := by
  simp [Program.isReferenceSite, Program.isInferSite, Program.hasKind, includeAnnotation, unnamed,
    certain]

/-- Where neither a `keyof` nor a union is written, the type that stands there is written out. -/
theorem includeWrittenOrInline_of_plain {type : TypeId}
    (answer : (e.program.site site).answers.type = some (some type))
    (plain : e.includeWritten (some site) = pure none) :
    e.includeWrittenOrInline (some site) = e.visitInline type := by
  rw [includeWrittenOrInline, plain, pure_bind]
  exact (lift_bind_of_ok (Program.asked_of_answer answer).2 _).trans (lift_bind_of_ok rfl _)

end Kinds

section Places

variable {p : Program} (spelled : p.Spelled) {site : SiteId} {type : TypeId} (writes : p.Writes site type)
include writes

theorem answer_of_writes : (p.site site).answers.type = some (some type) := by
  have stands := writes.stands
  simp only [Program.typeAt, Program.recordedType, Program.siteAnswers] at stands
  split at stands
  · rename_i known
    rw [known, Except.ok.inj stands]
  · cases stands

include spelled

/-- Where a type is not written by a name, it has no alias and no name to be written by. -/
theorem unnamed_of_writes (other : (p.site site).kind ≠ .typeReference) (genuine : type ∉ p.inferred) :
    (p.type type).alias? = none ∧ p.ownName? (p.type type) = none := by
  have spells := spelled.spells site writes.written type (answer_of_writes writes)
  refine ⟨?_, spells.untitled (fun inferred => genuine (spells.inferred inferred)) other⟩
  cases aliased : (p.type type).alias? with
  | none => rfl
  | some named => exact absurd (writes.aliased (by rw [aliased]; rfl)) other

variable {e : Engine} (program : e.program = p) (recognizes : e.settings.Recognizes p type)
  (genuine : type ∉ p.inferred)
include program recognizes genuine

theorem includeWritten_of_writes : e.includeWritten (some site) = some <$> e.includeType type ∨
    e.includeWritten (some site) = pure none ∧
      ((p.site site).kind = .typeReference ∨ (p.site site).kind = .typeNode) := by
  have spells := spelled.spells site writes.written type (answer_of_writes writes)
  subst program
  cases kind : (e.program.site site).kind with
  | typeReference =>
      exact .inr ⟨includeWritten_of_other (by simp [kind]) (by simp [kind]), .inl rfl⟩
  | typeNode => exact .inr ⟨includeWritten_of_other (by simp [kind]) (by simp [kind]), .inr rfl⟩
  | inferType => exact absurd (spells.inferred kind) genuine
  | keyofOperator =>
      left
      obtain ⟨operand, child, keyof, below, -, answer⟩ := spells.keyof kind
      rw [includeWritten_of_keyof kind, below, lift_bind_of_ok (Program.asked_of_answer answer).2]
      simp only [includeType, keyof]
  | unionType =>
      left
      obtain ⟨plain, united, other, children, types, below, listed, -, answers⟩ := spells.union kind
      obtain ⟨unaliased, unnamed⟩ := unnamed_of_writes spelled writes (by simp [kind]) genuine
      rw [includeType_of_union spelled rfl recognizes unaliased unnamed plain united other listed,
        includeWritten_of_union kind below answers]
  | _ =>
      have written := writes.written
      rw [kind] at written
      cases written

variable {manner : Manner} {ages : Ages} {i : Nat} (fits : TypeFits manner ages p i (p.type type))
include fits

omit program recognizes genuine in
/-- A type that is written by a name is written by that of its alias, or has none and is written by
its own. -/
theorem titled_of_writes (kind : (p.site site).kind = .typeReference) :
    (∃ named, (p.type type).alias? = some named ∧ (p.site site).name = some (p.symbol named).name) ∨
      (p.type type).alias? = none ∧
        ∃ own, p.ownName? (p.type type) = some own ∧ (p.site site).name = some own := by
  have spells := spelled.spells site writes.written type (answer_of_writes writes)
  refine (spells.titled kind).imp_right ?_
  rintro ⟨own, written, name⟩
  refine ⟨?_, own, written, name⟩
  cases aliased : (p.type type).alias? with
  | none => rfl
  | some named =>
      obtain ⟨symbol, held, -⟩ := symbol_of_ownName? written
      have madeUp := (fits.aliased named aliased).2 symbol held
      unfold Program.ownName? Build.writtenName? at written
      dsimp only at written
      rw [held] at written
      dsimp only at written
      rw [if_pos madeUp] at written
      cases written

theorem includeAnnotation_of_writes :
    e.includeAnnotation (some site) = e.includeType type ∨
      (e.includeAnnotation (some site) = e.visitInline type ∧ ∀ other : Engine, other.program = p →
        other.settings = e.settings → other.includeType type = other.includeInline type) ∨
      ∃ name, e.includeAnnotation (some site) = e.visitNamed type name ∧ ∀ other : Engine,
        other.program = p → other.settings = e.settings →
          other.includeType type = other.includeKnown type name := by
  have spells := spelled.spells site writes.written type (answer_of_writes writes)
  by_cases kind : (p.site site).kind = .typeReference
  · refine .inr (.inr ⟨(p.site site).name, ?_, ?_⟩)
    · subst program
      have reference : e.program.isReferenceSite (some site) = true := by
        simp [Program.isReferenceSite, Program.hasKind, kind]
      simp only [reference, includeAnnotation, if_true]
      exact (lift_bind_of_ok writes.stands _).trans (lift_bind_of_ok rfl _)
    · intro other same settings
      exact includeType_of_named same (settings ▸ recognizes) fits.keyof
        (titled_of_writes spelled writes fits kind)
  · have written := includeWritten_of_writes spelled writes program recognizes genuine
    obtain ⟨unaliased, unnamed⟩ := unnamed_of_writes spelled writes kind genuine
    have certain : (p.site site).kind ≠ .inferType := fun inferred => genuine (spells.inferred inferred)
    subst program
    rw [includeAnnotation_of_unnamed kind certain]
    rcases written with written | ⟨written, other⟩
    · left
      rw [includeWrittenOrInline, written]
      simp
    · right
      left
      have plain := (spells.plain (other.resolve_left kind)).1
      exact ⟨includeWrittenOrInline_of_plain (answer_of_writes writes) written,
        fun other same settings => includeType_of_unwritten spelled same (settings ▸ recognizes)
          unaliased unnamed plain⟩

def writtenOr (e : Engine) (site : Option SiteId) (other : Extract Node) : Extract Node := do
  match ← e.includeWritten site with
  | some node => pure node
  | none => other

omit fits in
theorem includePropValue_of_writes {prop : SymbolId} (field : p.Field prop site type) :
    e.includePropValue prop = e.includeType type ∨ e.includePropValue prop = e.visit type := by
  obtain ⟨place, declared, notMethod, typed, value⟩ := field.declared
  have written := includeWritten_of_writes spelled writes program recognizes genuine
  subst program
  have direct : e.includePropValue prop = e.writtenOr (some site)
      (do e.visitPresent (← e.program.valueTypeAt prop place)) := by
    simp only [includePropValue, declared, notMethod, field.plain, typed, Bool.or_self]
    rfl
  rw [direct]
  rcases written with written | ⟨written, -⟩
  · left
    simp [writtenOr, written]
  · right
    rw [writtenOr, written, pure_bind]
    exact (lift_bind_of_ok value _).trans (lift_bind_of_ok rfl _)

end Places

section Positions

variable {p : Program} {settings : ExtractionSettings} {libraries : LibrarySettings}

def Renders (p : Program) (settings : ExtractionSettings) (libraries : LibrarySettings)
    (type : TypeId) (step : Engine → Extract Node) : Prop :=
  ∀ depth entries levels, let e := reaching p settings libraries depth entries levels
    step e = e.includeType type ∨ step e = e.visit type

theorem comesTo_of_renders {type : TypeId} {step : Engine → Extract Node}
    (renders : Renders p settings libraries type step) {w : Walk}
    {outcome : Except Fault Node × Walk} :
    ComesTo p settings libraries step w outcome ↔
      ComesTo p settings libraries (·.includeType type) w outcome := by
  constructor
  · intro comes
    refine comes.follow fun depth entries levels ends => ?_
    rcases renders depth entries levels with here | further
    · exact ⟨depth, entries, levels, by rw [here]⟩
    · cases levels with
      | zero =>
          rw [further, (bare_reaching p settings libraries depth entries).visit] at ends
          exact absurd rfl ends
      | succ levels =>
          refine ⟨depth, entries, levels, ?_⟩
          rw [further]
          rfl
  · intro comes
    refine comes.follow fun depth entries levels ends => ⟨depth, entries, levels + 1, ?_⟩
    rcases renders depth entries (levels + 1) with here | further
    · rw [here]
      exact (deepens_reaching p settings libraries (Nat.le_refl _) (Nat.le_refl _)
        (Nat.le_succ levels)).includeType type w ends
    · rw [further]
      rfl

variable {site : SiteId} {type : TypeId} (spelled : p.Spelled) (writes : p.Writes site type)
  (recognizes : settings.Recognizes p type) (genuine : type ∉ p.inferred)
include spelled writes recognizes genuine

theorem renders_annotation {manner : Manner} {ages : Ages} {i : Nat}
    (fits : TypeFits manner ages p i (p.type type)) :
    Renders p settings libraries type (fun e => e.includeAnnotation (some site)) := by
  intro depth entries levels
  dsimp only
  have program := program_reaching p settings libraries depth entries
  have same := settings_reaching p settings libraries depth entries
  have bare := bare_reaching p settings libraries depth entries
  rcases includeAnnotation_of_writes spelled writes (program levels) ((same levels).symm ▸ recognizes)
    genuine fits with here | ⟨inline, written⟩ | ⟨name, known, titled⟩
  · exact .inl here
  · right
    rw [inline]
    cases levels with
    | zero => exact (bare.visitInline type).trans (bare.visit type).symm
    | succ levels =>
        exact (written _ (program levels) ((same levels).trans (same (levels + 1)).symm)).symm
  · right
    rw [known]
    cases levels with
    | zero => exact (bare.visitNamed type name).trans (bare.visit type).symm
    | succ levels =>
        exact (titled _ (program levels) ((same levels).trans (same (levels + 1)).symm)).symm

theorem renders_propValue {prop : SymbolId} (field : p.Field prop site type) :
    Renders p settings libraries type (·.includePropValue prop) := by
  intro depth entries levels
  exact includePropValue_of_writes spelled writes (program_reaching ..)
    ((settings_reaching p settings libraries depth entries levels).symm ▸ recognizes) genuine field

end Positions

theorem renders_visitPresent {p : Program} {settings : ExtractionSettings}
    {libraries : LibrarySettings} (type : TypeId) :
    Renders p settings libraries type (·.visitPresent (some type)) :=
  fun _ _ _ => .inr (lift_bind_of_ok rfl _)

end Engine

open Engine in
/-- In a built program a type that is known as it is written has one node as the type of a parameter, as
that of a property and as a result. -/
theorem Program.Built.oneNode {p : Program} {allowed : Call → Program → Prop}
    (built : Program.Built allowed p) {settings : ExtractionSettings} {libraries : LibrarySettings}
    {type : TypeId} (recognizes : settings.Recognizes p type) (genuine : type ∉ p.inferred)
    {parameter : SiteId} (taken : p.Writes parameter type) {site : SiteId}
    (writes : p.Writes site type) {prop : SymbolId} (field : p.Field prop site type)
    (w : Walk) (outcome : Except Fault Node × Walk) :
    (ComesTo p settings libraries (fun e => e.includeAnnotation (some parameter)) w outcome ↔
      ComesTo p settings libraries (·.visitPresent (some type)) w outcome) ∧
    (ComesTo p settings libraries (·.includePropValue prop) w outcome ↔
      ComesTo p settings libraries (·.visitPresent (some type)) w outcome) := by
  have spelled := spelled_of_built built
  obtain ⟨ages, live⟩ := live_of_built ⟨False, False⟩ built fun _ _ _ => ⟨nofun, nofun⟩
  have result : ComesTo p settings libraries (·.visitPresent (some type)) w outcome ↔
      ComesTo p settings libraries (·.includeType type) w outcome :=
    comesTo_of_renders (renders_visitPresent type)
  refine ⟨Iff.trans (comesTo_of_renders ?_) result.symm, Iff.trans (comesTo_of_renders ?_) result.symm⟩
  · exact renders_annotation spelled taken recognizes genuine (live.types type)
  · exact renders_propValue spelled writes recognizes genuine field

def placedProgram : Program :=
  (Program.start "src/index.ts").takes
    [.objectLiteral [("x", .plain (some Program.numberType))] [] none none,
     .aliasType { name := "Point" } (some ⟨15⟩) [],
     .interface { header := { name := "Shape" }
                  members :=
                    [("at", .plain (some ⟨15⟩)),
                     ("move", .method { parameters := [{ name := "to", type := some ⟨15⟩ }],
                                        returns := some ⟨15⟩ })] }]

def refersTo (name : String) : Except Fault Node → Bool
  | .ok (.ref r) => r.name == name
  | _ => false

open Engine in
theorem oneNode_placed : ∃ outcome,
    ComesTo placedProgram {} {} (fun e => e.includeAnnotation (some ⟨11⟩)) {} outcome ∧
      ComesTo placedProgram {} {} (·.includePropValue ⟨5⟩) {} outcome ∧
        ComesTo placedProgram {} {} (·.visitPresent (some ⟨15⟩)) {} outcome := by
  have built : placedProgram.Built fun _ _ => True := built_of_specs (by decide +kernel)
  have named : (placedProgram.type ⟨15⟩).alias? = some ⟨3⟩ := by decide +kernel
  have recognizes : ({} : ExtractionSettings).Recognizes placedProgram ⟨15⟩ := by
    refine ⟨fun other held => ?_, fun unaliased => ?_⟩
    · rw [named] at held
      cases held
      decide +kernel
    · rw [named] at unaliased
      cases unaliased
  have taken : placedProgram.Writes ⟨11⟩ ⟨15⟩ :=
    ⟨by decide +kernel, (Program.asked_of_answer (by decide +kernel)).1, fun _ => by decide +kernel⟩
  have writes : placedProgram.Writes ⟨8⟩ ⟨15⟩ :=
    ⟨by decide +kernel, (Program.asked_of_answer (by decide +kernel)).1, fun _ => by decide +kernel⟩
  have value : (placedProgram.symbol ⟨5⟩).answers.value = some (some ⟨15⟩) := by decide +kernel
  have field : placedProgram.Field ⟨5⟩ ⟨8⟩ ⟨15⟩ := by
    refine ⟨by decide +kernel, ⟨7⟩, by decide +kernel, by decide +kernel, by decide +kernel, ?_⟩
    rw [Program.valueTypeAt, Program.symbolAnswers, value]
    rfl
  let result := (reaching placedProgram {} {} 8 4 8).visitPresent (some ⟨15⟩) {}
  have comes : ComesTo placedProgram {} {} (·.visitPresent (some ⟨15⟩)) {} result := by
    refine ⟨fun failed => ?_, 8, 4, 8, rfl⟩
    have referred : refersTo "Point" result.1 = true := by decide +kernel
    rw [failed] at referred
    cases referred
  obtain ⟨parameter, property⟩ := built.oneNode recognizes (by decide +kernel) taken writes field {} result
  exact ⟨result, parameter.mpr comes, property.mpr comes, comes⟩

def keyedProgram : Program :=
  (Program.start "src/index.ts").takes
    [.interface { header := { name := "Item" }
                  members := [("id", .plain (some Program.numberType))] },
     .keyof (some ⟨15⟩),
     .aliasType { name := "Key" } (some ⟨16⟩) [],
     .function { name := "read" } { parameters := [{ name := "key", type := some ⟨16⟩ }],
                                    returns := some ⟨16⟩ }]

def memberProgram : Program :=
  (Program.start "src/index.ts").takes
    [.enumeration { header := { name := "Level" }, members := [("low", some (.int 0))] },
     .function { name := "lower" } { parameters := [{ name := "level", type := some ⟨15⟩ }],
                                     returns := some ⟨15⟩ }]

def signature? (x : Extraction) (name : String) : Option (List Node × Node) :=
  match Table.get? x.graph.entries name with
  | some (.function callable) => some (callable.parameters.map (·.value), callable.returns)
  | _ => none

/-- As a parameter a `keyof` goes by its alias, and as a result it is written out. A member of an
enumeration is written out as a parameter and has an entry of its own as a result. -/
theorem extractModule_tells_positions :
    (keyedProgram.Built (fun _ _ => True) ∧
      (match extractModule keyedProgram {} with
        | (.ok x, _) => match signature? x "read" with
          | some ([.ref r], .prefixed word _) => r.name == "Key" && word == "keyof"
          | _ => false
        | _ => false) = true) ∧
    (memberProgram.Built (fun _ _ => True) ∧
      (match extractModule memberProgram {} with
        | (.ok x, _) => match signature? x "lower" with
          | some ([.literal (.int value)], .ref r) => value == 0 && r.name == "low"
          | _ => false
        | _ => false) = true) :=
  ⟨⟨built_of_specs (by decide +kernel), by decide +kernel⟩,
    ⟨built_of_specs (by decide +kernel), by decide +kernel⟩⟩

end TypeAtlas
