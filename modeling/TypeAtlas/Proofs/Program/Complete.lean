import TypeAtlas.Extract.Shape
import TypeAtlas.Proofs.Builder.FinishedCall
import TypeAtlas.Proofs.Builder.SpellingCall

/-!
Programs that answer. Where nothing is left open, every question is answered that goes from one record
to the next, and lists have no gaps on the way.
-/

namespace TypeAtlas

variable {α β : Type}

def Told (asked : Except Fault α) (about : α → Prop) : Prop := ∃ value, asked = .ok value ∧ about value

theorem told_ok {about : α → Prop} {value : α} (known : about value) : Told (.ok value) about :=
  ⟨value, rfl, known⟩

theorem told_bind {asked : Except Fault α} {next : α → Except Fault β} {about : α → Prop}
    {more : β → Prop} (first : Told asked about) (rest : ∀ value, about value → Told (next value) more) :
    Told (asked >>= next) more := by
  obtain ⟨value, rfl, known⟩ := first
  exact rest value known

theorem told_mapM {f : α → Except Fault β} {items : List α} {about : β → Prop}
    (each : ∀ item ∈ items, Told (f item) about) :
    Told (items.mapM f) fun values => ∀ value ∈ values, about value := by
  induction items with
  | nil => exact told_ok (by simp)
  | cons item rest ih =>
      rw [List.mapM_cons]
      refine told_bind (each item (List.mem_cons_self ..)) fun first known => ?_
      refine told_bind (ih fun later member => each later (List.mem_cons_of_mem _ member)) ?_
      intro others all
      refine told_ok fun value member => ?_
      rcases List.mem_cons.mp member with rfl | member
      · exact known
      · exact all value member

theorem told_all {f : α → Except Fault β} {items : List α}
    (each : ∀ item ∈ items, Told (f item) fun _ => True) : Told (items.mapM f) fun _ => True :=
  (told_mapM each).imp fun _ told => ⟨told.1, trivial⟩

theorem told_present {held : Option α} (given : held ≠ none) :
    Told (present held) fun value => held = some value := by
  obtain ⟨value, rfl⟩ := Option.ne_none_iff_exists'.mp given
  exact told_ok rfl

theorem told_each {slots : Slots α} (full : slots.Full) : Told slots.each (· = slots.slots) :=
  ⟨_, full.each, rfl⟩

theorem told_joined (separator : String) {slots : Slots String} (full : slots.Full) :
    Told (slots.joined separator) fun _ => True := by
  refine told_bind (told_each full) fun parts same => ?_
  subst same
  refine told_bind (told_all fun part member => ?_) fun texts _ => told_ok trivial
  obtain ⟨text, rfl⟩ := exists_of_mem full.whole member
  exact told_ok trivial

structure Program.Complete (p : Program) : Prop where
  whole : p.Whole
  done : ∀ item, p.Done item
  spelled : p.Spelled
  fits : ∃ manner ages now, p.Fits manner ages now

theorem complete_of_built {p : Program}
    (built : p.Built fun call p => call.Regular p ∧ call.Disciplined p) : p.Complete := by
  obtain ⟨whole, done⟩ := finished_of_built built
  obtain ⟨ages, live⟩ := live_of_built ⟨False, False⟩ built fun _ _ _ => ⟨nofun, nofun⟩
  exact ⟨whole, done, spelled_of_built built, _, ages, _, live.toFits⟩

namespace Program

variable {p : Program} (complete : p.Complete)
include complete

theorem stands_of_answered {site : SiteId} (answered : p.Answered site) :
    ∃ type, (p.site site).answers.type = some (some type) := by
  obtain ⟨answer, told⟩ := Option.ne_none_iff_exists'.mp answered
  cases answer with
  | none => exact absurd told (complete.whole.sites site).answer
  | some type => exact ⟨type, told⟩

theorem told_recordedType (query : String) {site : SiteId} (answered : p.Answered site) :
    Told (p.recordedType query (some site)) (· ≠ none) := by
  obtain ⟨type, told⟩ := stands_of_answered complete answered
  refine ⟨some type, ?_, nofun⟩
  rw [recordedType, siteAnswers, told]

theorem told_typeAt {site : SiteId} (answered : p.Answered site) :
    Told (p.typeAt (some site)) (· ≠ none) := told_recordedType complete _ answered

theorem told_typeWritten {site : SiteId} (answered : p.Answered site) :
    Told (p.typeWritten (some site)) (· ≠ none) := told_recordedType complete _ answered

theorem told_operand (query : String) {site : SiteId} (answered : p.Answered site)
    (operator : p.isKeyofSite (some site) = true) :
    Told (p.recordedType query (p.site site).type) (· ≠ none) := by
  obtain ⟨type, told⟩ := stands_of_answered complete answered
  have kind : (p.site site).kind = .keyofOperator := by simpa [isKeyofSite, hasKind] using operator
  obtain ⟨operand, child, -, below, -, answer⟩ :=
    (complete.spelled.spells site (by rw [kind]; rfl) type told).keyof kind
  rw [below]
  refine told_recordedType complete query ?_
  rw [Answered, answer]
  rintro ⟨⟩

theorem told_parts {site : SiteId} (answered : p.Answered site)
    (union : p.isUnionSite (some site) = true) : Told (p.site site).types.each fun parts =>
      ∀ part ∈ parts, ∃ id, part = some id ∧ p.Answered id := by
  obtain ⟨type, told⟩ := stands_of_answered complete answered
  have kind : (p.site site).kind = .unionType := by simpa [isUnionSite, hasKind] using union
  obtain ⟨-, -, -, children, types, below, -, -, answers⟩ :=
    (complete.spelled.spells site (by rw [kind]; rfl) type told).union kind
  rw [below]
  refine told_ok fun part member => ?_
  obtain ⟨child, inside, rfl⟩ := List.mem_map.mp member
  refine ⟨child, rfl, ?_⟩
  have answer : (p.site child).answers.type ∈ types.map some := by
    rw [← answers]
    exact List.mem_map_of_mem inside
  obtain ⟨type, -, same⟩ := List.mem_map.mp answer
  rw [Answered, ← same]
  rintro ⟨⟩

theorem told_declaredType {symbol : SymbolId} (declares : (p.symbol symbol).declaresType = true) :
    Told (p.declaredType (some symbol)) fun type => ∃ id, type = some id ∧
      (p.symbol symbol).answers.declared = some (some id) := by
  obtain ⟨answer, told⟩ := Option.ne_none_iff_exists'.mp ((complete.done (.symbol symbol)).declared declares)
  cases answer with
  | none => exact absurd told (complete.whole.symbols symbol).declared
  | some type =>
      refine ⟨some type, ?_, type, rfl, told⟩
      rw [declaredType, symbolAnswers, told]

theorem told_signatureOf {site : SiteId} (signed : p.Signed site) :
    Told (p.signatureOf (some site)) fun signature =>
      ∃ id, signature = some id ∧ id.index < p.signatures.size := by
  obtain ⟨manner, ages, now, fits⟩ := complete.fits
  obtain ⟨answer, told⟩ := Option.ne_none_iff_exists'.mp signed
  cases answer with
  | none => exact absurd told (complete.whole.sites site).signature
  | some signature =>
      refine ⟨some signature, ?_, signature, rfl, ((fits.sites site).signature signature told).1⟩
      rw [signatureOf, siteAnswers, told]

theorem told_comment (symbol : Option SymbolId) : Told (p.comment symbol) fun _ => True := by
  cases symbol with
  | none => exact told_ok trivial
  | some id =>
      have full := (complete.whole.symbols id).documentation
      refine told_bind (told_each full) fun lines _ => ?_
      split
      · exact told_ok trivial
      · obtain ⟨text, told, -⟩ := told_joined "\n" full
        rw [told]
        exact told_ok trivial

theorem told_modifiersOf (symbol : Option SymbolId) : Told (p.modifiersOf symbol) fun _ => True := by
  unfold modifiersOf
  split
  · exact told_joined _ (complete.whole.sites _).modifiers
  · exact told_ok trivial

theorem told_keyName (index : Option IndexId) : Told (p.keyName index) fun _ => True := by
  unfold keyName
  dsimp only
  split
  · exact told_ok trivial
  · rename_i site _
    have full := (complete.whole.sites site).parameters
    split
    · exact told_ok trivial
    · rename_i first rest listed
      refine told_bind (told_present ?_) fun key _ => told_ok trivial
      rintro rfl
      apply full.whole
      rw [listed]
      exact List.mem_cons_self ..

theorem told_constructorsOf (t : TypeInfo) : Told (p.constructorsOf t) fun sites =>
    ∀ site ∈ sites, ∃ id, site = some id ∧ p.Signed id := by
  unfold constructorsOf
  split
  · rename_i held found
    obtain ⟨symbol, -, found⟩ := Option.bind_eq_some_iff.mp found
    obtain ⟨holder, sites, rfl, -, declared, signed⟩ :=
      (complete.whole.symbols symbol).constructors held found
    refine told_bind (told_present nofun) fun other same => ?_
    cases same
    rw [declared]
    refine told_ok fun slot member => ?_
    obtain ⟨site, inside, rfl⟩ := List.mem_map.mp member
    exact ⟨site, rfl, signed site inside⟩
  · exact told_ok (by simp)

theorem told_valueTypeAt (symbol : SymbolId) {site : SiteId} (typed : (p.site site).type ≠ none) :
    Told (p.valueTypeAt (some symbol) (some site)) (· ≠ none) := by
  unfold valueTypeAt
  split
  · rename_i type told
    refine told_ok ?_
    rintro rfl
    exact (complete.whole.symbols symbol).value told
  · refine told_bind (told_present nofun) fun place same => ?_
    cases same
    obtain ⟨written, held⟩ := Option.ne_none_iff_exists'.mp typed
    obtain ⟨type, told⟩ := stands_of_answered complete ((complete.whole.sites site).type written held)
    simp only [held, Option.bind_some, told]
    exact told_ok nofun

end Program

namespace Engine

variable {e : Engine} (complete : e.program.Complete)
include complete

theorem told_defaultTypeId {param : Option SiteId} (given : param ≠ none) :
    Told (e.defaultTypeId param) fun _ => True := by
  refine told_bind (told_present given) fun param _ => ?_
  dsimp only
  split
  · exact told_ok trivial
  · rename_i fallback held
    have answered := (complete.whole.sites _).default fallback held
    refine told_bind (Program.told_typeAt complete answered) fun type known => ?_
    exact told_bind (told_present known) fun id _ => told_ok trivial

theorem told_trimDefaults (argumentIds : List Int) {params : List (Option SiteId)}
    (given : none ∉ params) (types : List Node) :
    Told (e.trimDefaults argumentIds params types) fun _ => True := by
  induction params generalizing types with
  | nil => exact told_ok trivial
  | cons param earlier ih =>
      have known : param ≠ none := fun gap => given (gap ▸ List.mem_cons_self ..)
      refine told_bind (told_defaultTypeId complete known) fun default _ => ?_
      split
      · split
        · exact ih (fun later => given (List.mem_cons_of_mem _ later)) types.dropLast
        · exact told_ok trivial
      · exact told_ok trivial

theorem told_argumentIds (type : TypeId) :
    Told (e.argumentIds (e.program.type type)) fun _ => True := by
  have whole := complete.whole.types type
  refine told_all fun argument member => ?_
  have given : argument ≠ none := by
    rintro rfl
    split at member
    · exact whole.arguments member
    · exact whole.aliasArguments member
  exact told_bind (told_present given) fun id _ => told_ok trivial

theorem told_livePropIds (live : Option TypeId) : Told (e.livePropIds live) fun _ => True := by
  cases live with
  | none => exact told_ok trivial
  | some type =>
      have full := (complete.whole.types type).properties
      refine told_bind (told_each full) fun properties same => ?_
      subst same
      refine told_all fun prop member => ?_
      obtain ⟨id, rfl⟩ := exists_of_mem full.whole member
      exact told_ok trivial

theorem told_inheritedIdsFrom (registry : Registry) (fuel : Nat) (edges : List Node)
    (seen : List String) : Told (e.inheritedIdsFrom registry fuel edges seen) fun _ => True := by
  induction fuel generalizing edges seen with
  | zero => exact told_ok trivial
  | succ fuel ih =>
      have rest (name : String) (rest next : List Node) (ids : List Int) : Told (do
          let others ← e.inheritedIdsFrom registry fuel (next ++ rest) (name :: seen)
          pure (ids ++ others)) fun _ => True :=
        told_bind (ih (next ++ rest) (name :: seen)) fun others _ => told_ok trivial
      cases edges with
      | nil => exact told_ok trivial
      | cons edge later =>
          cases edge with
          | ref edge =>
              rw [inheritedIdsFrom]
              split
              · exact ih later seen
              · split
                · exact rest edge.name later _ _
                · exact rest edge.name later _ _
                · refine told_bind (told_livePropIds complete edge.live) fun ids _ => ?_
                  exact rest edge.name later [] ids
          | _ => exact ih later seen

theorem told_inheritedIds (registry : Registry) (edges : List Node) :
    Told (e.inheritedIds registry edges) fun _ => True :=
  told_inheritedIdsFrom complete registry _ edges []

end Engine

end TypeAtlas
