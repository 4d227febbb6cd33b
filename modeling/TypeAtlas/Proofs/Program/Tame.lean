import TypeAtlas.Extract.Walk
import TypeAtlas.Program.Builder.Written
import TypeAtlas.Proofs.Builder.Call
import TypeAtlas.Proofs.Program.Fits
import TypeAtlas.Proofs.Program.Shallow

/-!
Programs in which going from type to type ends. Types that go by a name are referred to and not gone
into; any other type is made of older ones. A type is near when it is of the former kind or old enough
to be gone into with the levels that are left.
-/

namespace TypeAtlas

open Build

namespace Program

/-- Interfaces and classes have names that are not taken for made-up ones. -/
def NominalsNamed (p : Program) (settings : ExtractionSettings) : Prop :=
  ∀ symbol, (p.symbol symbol).isNominal = true →
    Engine.isAnonymous { program := p, settings, libraries := {} } (p.symbol symbol).name = false

theorem nominalsNamed_of_forall {p : Program} {settings : ExtractionSettings}
    (each : ∀ s ∈ p.symbols.toList, s.isNominal = true →
      Engine.isAnonymous { program := p, settings, libraries := {} } s.name = false) :
    p.NominalsNamed settings :=
  p.symbol_of_forall (fun s => s.isNominal = true → Engine.isAnonymous _ s.name = false)
    nofun each

/-- Interfaces and classes are not called like something the compiler made up. -/
def NominalsGiven (p : Program) : Prop :=
  ∀ symbol, (p.symbol symbol).isNominal = true → isSynthesized (p.symbol symbol).name = false

theorem nominalsGiven_of_forall {p : Program}
    (each : ∀ s ∈ p.symbols.toList, s.isNominal = true → isSynthesized s.name = false) :
    p.NominalsGiven :=
  p.symbol_of_forall (fun s => s.isNominal = true → isSynthesized s.name = false) nofun each

def names (p : Program) : List String :=
  p.symbols.toList.map Symbol.name ++ p.sites.toList.filterMap Site.name

theorem mem_names_of_symbol {p : Program} {symbol : SymbolId}
    (nonempty : (p.symbol symbol).name.isEmpty = false) : (p.symbol symbol).name ∈ p.names := by
  rcases getD_mem p.symbols symbol.index with absent | there
  · rw [Program.symbol, absent] at nonempty
    cases nonempty
  · exact List.mem_append_left _ (List.mem_map.mpr ⟨_, there, rfl⟩)

theorem mem_names_of_inside {p : Program} {symbol : SymbolId}
    (inside : symbol.index < p.symbols.size) : (p.symbol symbol).name ∈ p.names := by
  apply List.mem_append_left
  apply List.mem_map.mpr
  refine ⟨p.symbol symbol, ?_, rfl⟩
  rw [Program.symbol, Array.getD_eq_getD_getElem?, Array.getElem?_eq_getElem inside, Option.getD_some,
    Array.mem_toList_iff]
  exact Array.getElem_mem inside

theorem mem_names_of_site {p : Program} {site : SiteId} {name : String}
    (held : (p.site site).name = some name) : name ∈ p.names := by
  rcases getD_mem p.sites site.index with absent | there
  · rw [Program.site, absent] at held
    cases held
  · exact List.mem_append_right _ (List.mem_filterMap.mpr ⟨_, there, held⟩)

theorem length_names_le (p : Program) : p.names.length ≤ p.symbols.size + p.sites.size := by
  rw [names, List.length_append, List.length_map, Array.length_toList]
  exact Nat.add_le_add_left (List.length_filterMap_le _ _) _

variable {manner : Manner} {ages : Ages} {settings : ExtractionSettings} {k : Nat} {p : Program}

/-- The places around a place, from its parent on. -/
inductive Around (p : Program) (inner : SiteId) : SiteId → Prop
  | parent {outer : SiteId} : (p.site inner).parent = some outer → Around p inner outer
  | further {between outer : SiteId} : Around p inner between →
      (p.site between).parent = some outer → Around p inner outer

/-- A constructor or function type that is written inside an alias comes after the alias. -/
def AliasesFirst (p : Program) : Prop :=
  ∀ inner outer, p.isHiddenDeclaration (some inner) = true → p.Around inner outer →
    (p.site outer).kind = .typeAlias → outer.index < inner.index

/-- Where the aliases come first of all, they come before what is inside them. -/
theorem aliasesFirst_of_forall {p : Program}
    (each : ∀ outer < p.sites.size, (p.site ⟨outer⟩).kind = .typeAlias →
      ∀ inner < p.sites.size, p.isHiddenDeclaration (some ⟨inner⟩) = true → outer < inner) :
    p.AliasesFirst := by
  intro inner outer hidden _ aliased
  have inside (site : SiteId) (there : (p.site site).kind ≠ (default : Site).kind) :
      site.index < p.sites.size := by
    apply Nat.lt_of_not_le
    intro outside
    rw [p.site_of_size_le outside] at there
    exact there rfl
  refine each outer.index (inside outer ?_) aliased inner.index (inside inner ?_) hidden
  · rw [aliased]
    nofun
  · intro same
    rw [isHiddenDeclaration, hasKind, Option.any_some, same] at hidden
    cases hidden

structure Tame (manner : Manner) (ages : Ages) (settings : ExtractionSettings) (p : Program) : Prop
    extends p.Live manner ages p.types.size where
  disciplined : manner.disciplined
  named : p.NominalsNamed settings
  given : p.NominalsGiven
  aliases : p.AliasesFirst

def Near (manner : Manner) (ages : Ages) (p : Program) (k : Nat) (type : TypeId) : Prop :=
  (p.type type).isNominal = true ∨ (p.type type).isTypeParameter = true ∨
    ∃ i, i < k ∧ TypeFits manner ages p i (p.type type)

theorem typeFits_default (i : Nat) : TypeFits manner ages p i default := by
  refine typeFits_unnamed (by constructor <;> rfl) rfl (fun flagged => by cases flagged) rfl rfl ?_
  intro part held
  have empty : (default : TypeInfo).parts = List.replicate 10 none := rfl
  rw [empty] at held
  cases (List.mem_replicate.mp held).2

theorem typeAt_of_typeWritten {site : Option SiteId} {type : Option TypeId}
    (recorded : p.typeWritten site = .ok type) : p.typeAt site = .ok type := by
  unfold typeWritten typeAt recordedType at *
  split at recorded
  · exact recorded
  · cases recorded

theorem answer_of_declaredType {symbol : SymbolId} {type : Option TypeId}
    (declares : p.declaredType (some symbol) = .ok type) :
    (p.symbol symbol).answers.declared = some type := by
  unfold declaredType at declares
  split at declares
  · rename_i known
    cases declares
    exact known
  · cases declares

theorem answer_of_signatureOf {site : SiteId} {signature : Option SignatureId}
    (recorded : p.signatureOf (some site) = .ok signature) :
    (p.site site).answers.signature = some signature := by
  unfold signatureOf at recorded
  split at recorded
  · rename_i known
    cases recorded
    exact known
  · cases recorded

section Tame

variable (tame : p.Tame manner ages settings)
include tame

theorem near_of_lt {type : TypeId} (older : type.index < k) : p.Near manner ages k type :=
  Or.inr (Or.inr ⟨type.index, older, tame.types type⟩)

theorem near_of_full (full : p.types.size ≤ k) (type : TypeId) : p.Near manner ages k type := by
  by_cases inside : type.index < p.types.size
  · exact near_of_lt tame (Nat.lt_of_lt_of_le inside full)
  · right
    right
    rw [p.type_of_size_le (Nat.le_of_not_lt inside)]
    refine ⟨0, Nat.lt_of_lt_of_le ?_ full, typeFits_default 0⟩
    exact Nat.lt_of_le_of_lt (Nat.zero_le _) tame.founded

theorem typeFits_of_full (full : p.types.size ≤ k) (type : TypeId) :
    TypeFits manner ages p k (p.type type) := by
  by_cases inside : type.index < p.types.size
  · exact (tame.types type).later (Nat.le_trans (Nat.le_of_lt inside) full)
  · rw [p.type_of_size_le (Nat.le_of_not_lt inside)]
    exact typeFits_default k

theorem older_of_written {site : SiteId} (written : ages.WrittenBy p k site) {type : TypeId}
    (recorded : p.typeAt (some site) = .ok (some type)) : type.index < k :=
  Nat.lt_of_lt_of_le ((tame.sites site).denotes written.2 type (answer_of_typeAt recorded)) written.1.2

/-- Nothing is known of no place. -/
theorem place_of_typeAt {site : Option SiteId} {type : Option TypeId}
    (recorded : p.typeAt site = .ok type) : ∃ place, site = some place := by
  cases site with
  | some place => exact ⟨place, rfl⟩
  | none =>
      rw [typeAt, recordedType, siteAnswers, tame.nowhere] at recorded
      cases recorded

theorem name_of_nominal {type : TypeId} (nominal : (p.type type).isNominal = true) :
    ∃ symbol, (p.type type).symbol = some symbol ∧ (p.symbol symbol).isNominal = true ∧
      (p.type type).alias? = none ∧ isSynthesized (p.symbol symbol).name = false := by
  obtain ⟨-, -, -, -, -, symbol, held, known⟩ := (tame.types type).nominal nominal
  have given := tame.given symbol known
  refine ⟨symbol, held, known, ?_, given⟩
  cases aliased : (p.type type).alias? with
  | none => rfl
  | some other =>
      have synthesized := ((tame.types type).aliased other aliased).2 symbol held
      rw [given] at synthesized
      cases synthesized

/-- A type that is told by another flag is neither. -/
theorem structural_of_flag {type : TypeId} {flag : TypeFlag} (other : flag ≠ .object)
    (flagged : (p.type type).hasFlag flag = true) : (p.type type).isNominal = false := by
  cases nominal : (p.type type).isNominal with
  | false => rfl
  | true =>
      rw [TypeInfo.hasFlag, ((tame.types type).nominal nominal).1] at flagged
      simp [other] at flagged

end Tame

structure Legible (manner : Manner) (ages : Ages) (p : Program) (k : Nat) (site : SiteId) : Prop where
  child : ∀ child, (p.site site).type = some child → ∀ type, p.typeAt (some child) = .ok (some type) →
    p.Near manner ages k type
  parts : ∀ part, some part ∈ (p.site site).types.slots → ∀ type,
    p.typeAt (some part) = .ok (some type) → p.Near manner ages k type

section Legible

variable (tame : p.Tame manner ages settings) {site : SiteId}
include tame

theorem legible_of_age (young : ages.site site ≤ k) (kind : (p.site site).kind ≠ .mappedType) :
    p.Legible manner ages k site where
  child child held type recorded := by
    have written := ((tame.sites site).type kind child held).later young
    exact near_of_lt tame (older_of_written tame written recorded)
  parts part held type recorded := by
    have written := ((tame.sites site).types part held).later young
    exact near_of_lt tame (older_of_written tame written recorded)

theorem legible_of_full (full : p.types.size ≤ k) : p.Legible manner ages k site :=
  ⟨fun _ _ type _ => near_of_full tame full type, fun _ _ type _ => near_of_full tame full type⟩

end Legible

structure Presentable (manner : Manner) (ages : Ages) (p : Program) (k : Nat) (prop : SymbolId) :
    Prop where
  young : ages.symbol prop ≤ k
  written : ∀ site, p.firstDeclaration (some prop) = some site → ∀ child,
    (p.site site).type = some child → ∀ type, p.typeAt (some child) = .ok (some type) →
      p.Near manner ages k type
  legible : ∀ site, p.firstDeclaration (some prop) = some site → ∀ child,
    (p.site site).type = some child → p.Legible manner ages k child
  value : (p.symbol prop).hasFlag .method = false → ∀ type,
    (p.symbol prop).answers.value = some (some type) → p.Near manner ages k type

theorem Presentable.near_of_valueTypeAt {prop : SymbolId} {site : SiteId} {type : TypeId}
    (presentable : p.Presentable manner ages k prop)
    (first : p.firstDeclaration (some prop) = some site)
    (property : (p.symbol prop).hasFlag .method = false)
    (recorded : p.valueTypeAt (some prop) (some site) = .ok (some type)) : p.Near manner ages k type := by
  unfold valueTypeAt at recorded
  split at recorded
  · rename_i value held
    cases recorded
    exact presentable.value property type held
  · obtain ⟨place, found, recorded⟩ := of_except_bind_ok recorded
    obtain rfl := Option.some.inj (of_present found)
    dsimp only at recorded
    split at recorded
    · rename_i answer held
      cases recorded
      obtain ⟨child, below, answer⟩ := Option.bind_eq_some_iff.mp held
      apply presentable.written site first child below type
      rw [typeAt, recordedType, siteAnswers, answer]
    · cases recorded

section Presentable

variable (tame : p.Tame manner ages settings) {prop : SymbolId}
include tame

theorem written_of_member (member : (p.symbol prop).isMember = true) {site child : SiteId}
    (first : p.firstDeclaration (some prop) = some site) (held : (p.site site).type = some child) :
    ages.WrittenBy p (ages.symbol prop) child := by
  have value := (tame.symbols prop).member member site first
  have kind : (p.site site).kind ≠ .mappedType := by
    intro kind
    rw [kind] at value
    cases value
  exact ((tame.sites site).type kind child held).later ((tame.symbols prop).first site first).1.2

theorem presentable_of_member (young : ages.symbol prop ≤ k)
    (member : (p.symbol prop).isMember = true) : p.Presentable manner ages k prop where
  young := young
  written site first child held type recorded := by
    have written := (written_of_member tame member first held).later young
    exact near_of_lt tame (older_of_written tame written recorded)
  legible site first child held := by
    have written := (written_of_member tame member first held).later young
    refine legible_of_age tame written.1.2 ?_
    intro kind
    have isWritten := written.2
    rw [kind] at isWritten
    cases isWritten
  value method type held := by
    have property : (p.symbol prop).hasFlag .property = true := by
      rw [Symbol.isMember, method, Bool.or_false] at member
      exact member
    exact near_of_lt tame (Nat.lt_of_lt_of_le ((tame.symbols prop).value property type held) young)

theorem presentable_of_full (full : p.types.size ≤ k) : p.Presentable manner ages k prop where
  young := Nat.le_trans (tame.symbol prop) full
  written _ _ _ _ type _ := near_of_full tame full type
  legible _ _ _ _ := legible_of_full tame full
  value _ type _ := near_of_full tame full type

end Presentable

end Program

end TypeAtlas
