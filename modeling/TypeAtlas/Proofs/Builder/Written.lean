import TypeAtlas.Proofs.Builder.Basic

/-!
Written types keep a program fitting. What is written for a type is made by the call in progress, and
the types it mentions were there before.
-/

namespace TypeAtlas

variable {manner : Manner} {ages : Ages} {now age : Nat} {p q : Program}

theorem SiteFits.withDenoted {s : Site} (fits : SiteFits manner ages p age s) {type : TypeId}
    (older : type.index < age) (other : s.kind ≠ .expressionWithTypeArguments)
    (referred : s.kind = .typeReference → (p.type type).isNominal = true → p.Titled type s.name)
    (plain : s.kind = .typeNode → (p.type type).isNominal = true → p.Titled type none)
    (inferred : s.kind = .inferType → (p.type type).isTypeParameter = true) :
    SiteFits manner ages p age
      { s with answers := { s.answers with type := some (some type) } } :=
  { fits with
    denotes := by
      intro _ other held
      cases held
      exact older
    referred := by
      intro kind other held
      cases held
      exact referred kind
    plain := by
      intro kind other held
      cases held
      exact plain kind
    inferred := by
      intro kind other held
      cases held
      exact inferred kind
    base := fun kind => absurd kind other }

namespace Build

open Program

def Given (now : Nat) (types : List (Option TypeId)) : Prop :=
  ∀ type, some type ∈ types → type.index < now

theorem Given.mono {types more : List (Option TypeId)} (given : Given now more) (fewer : types ⊆ more) :
    Given now types :=
  fun type member => given type (fewer member)

theorem Given.head {type : Option TypeId} {types : List (Option TypeId)}
    (given : Given now (type :: types)) : Given now [type] :=
  given.mono (by simp)

theorem Given.of_some {type : TypeId} (given : Given now [some type]) : type.index < now :=
  given type (by simp)

theorem given_of_lt {type : TypeId} (older : type.index < now) : Given now [some type] := by
  intro other member
  rw [List.mem_singleton] at member
  cases member
  exact older

theorem first?_of_first {slots : Slots SiteId} {place : SiteId} (read : slots.first = .ok (some place)) :
    slots.first? = some place := by
  cases slots with
  | none => cases read
  | some items =>
      cases items with
      | nil => cases read
      | cons item rest =>
          cases read
          rfl

theorem slots_of_each {α : Type} {slots : Slots α} {items : List (Option α)}
    (read : slots.each = .ok items) : slots.slots = items := by
  cases slots with
  | none => cases read
  | some held =>
      cases read
      rfl

section Steps

variable (live : p.Live manner ages now)
include live

theorem kind_of_declarationOf {type : TypeId} (parameter : (p.type type).isTypeParameter = true)
    {declared : Option SiteId}
    (asked : (do
      let symbol ← present (p.type (← present (some type))).symbol
      (p.symbol symbol).declarations.first : Except Fault (Option SiteId)) = .ok declared)
    {place : SiteId} (held : declared = some place) : (p.site place).kind = .typeParameter := by
  obtain ⟨_, symbol, has, flagged⟩ := (live.types type).parameter parameter
  obtain ⟨first, found, kind⟩ := (live.symbols symbol).parameter flagged
  rw [held] at asked
  simp only [present, has, bind, Except.bind] at asked
  rw [first?_of_first asked] at found
  cases found
  exact kind

theorem given_types {type : TypeId} (older : type.index < now) {types : List (Option TypeId)}
    (listed : (p.type type).types.each = .ok types) : Given now types := by
  intro member inList
  refine Nat.lt_trans ((live.types type).parts member ?_) older
  rw [← slots_of_each listed] at inList
  simp [TypeInfo.parts, inList]

theorem titled_of_writtenName {type : TypeId} (nominal : (p.type type).isNominal = true) :
    p.Titled type (writtenName? p (p.type type)) := by
  have fits := live.types type
  obtain ⟨flags, _, _, _, _, symbol, held, _⟩ := fits.nominal nominal
  refine ⟨symbol, held, (fits.symbol symbol held).1.1, ?_⟩
  intro plain
  cases aliased : (p.type type).alias? with
  | some named =>
      rw [(fits.aliased named aliased).2 symbol held] at plain
      cases plain
  | none => simp [writtenName?, aliased, held, plain, TypeInfo.hasFlag, flags]

theorem keeps_denote {type : TypeId} (older : type.index < now) (liveQ : q.Live manner ages now)
    (before : p.Before q) {site : SiteId} (inside : site.index < q.sites.size)
    (made : ages.site site = now) {kind : SiteKind} (same : (q.site site).kind = kind)
    (written : kind.isWritten = true)
    (titled : kind = .typeReference → (q.site site).name = writtenName? p (p.type type))
    (plain : kind = .typeNode → writtenName? p (p.type type) = none)
    (inferred : kind = .inferType → type ∈ p.inferred) :
    Keeps manner ages now q (do bindSite site type; pure site) fun r site =>
      ages.WrittenBy r now site := by
  have there : type.index < p.types.size := Nat.lt_of_lt_of_le older live.bound
  have named (nominal : (q.type type).isNominal = true) :
      q.Titled type (writtenName? p (p.type type)) := by
    rw [(before.type type there).isNominal] at nominal
    exact before.titled there (titled_of_writtenName live nominal)
  refine keeps_bind (keeps_bindSite liveQ ((liveQ.sites site).withDenoted ?_ ?_ ?_ ?_ ?_)) ?_
  · rw [made]
    exact older
  · rw [same]
    rintro rfl
    cases written
  · rw [same]
    intro reference nominal
    rw [titled reference]
    exact named nominal
  · rw [same]
    intro node nominal
    rw [← plain node]
    exact named nominal
  · rw [same]
    intro infer
    exact before.isTypeParameter (live.inferred type (inferred infer))
  · intro _ r liveR after _
    apply keeps_pure liveR
    refine ⟨⟨Nat.lt_of_lt_of_le inside after.sites, Nat.le_of_eq made⟩, ?_⟩
    rw [(after.site site inside).kind, same]
    exact written

end Steps

theorem keeps_written (fuel : Nat) :
    (∀ {p type} parent, p.Live manner ages now → Given now [type] →
      Keeps manner ages now p (writtenFrom fuel type parent) fun q site => ages.WrittenBy q now site) ∧
    (∀ {p types} parent, p.Live manner ages now → Given now types →
      Keeps manner ages now p (writtenEach fuel types parent) fun q sites =>
        ∀ site ∈ sites, ages.WrittenBy q now site) := by
  induction fuel with
  | zero => exact ⟨fun _ live _ => keeps_throw live _, fun _ live _ => keeps_throw live _⟩
  | succ fuel ih =>
      constructor
      · intro p type parent live given
        unfold writtenFrom
        apply keeps_get_bind
        refine keeps_lift_bind live fun id found => ?_
        obtain rfl : type = some id := of_present found
        have older : id.index < now := given.of_some
        have begin {kind : SiteKind} {name : Option String} := keeps_newSite live
          (siteFits_fresh kind name parent
            none (some false) (some false) (some []))
        dsimp only
        split
        · rename_i inferred
          refine keeps_bind begin ?_
          rintro site q liveQ before ⟨inside, made, held, -⟩
          refine keeps_ask_bind liveQ fun declared asked => ?_
          refine keeps_bind (keeps_setSite liveQ ⟨rfl, rfl, fun _ _ held => held⟩
            { liveQ.sites site with
              inferredAt := fun _ place same => kind_of_declarationOf liveQ
                (before.isTypeParameter (live.inferred id inferred)) asked same }) ?_
          intro _ r liveR after same
          rw [pure_bind]
          have kind : (r.site site).kind = .inferType := by rw [same inside, held]
          exact keeps_denote live older liveR (before.trans after)
            (Nat.lt_of_lt_of_le inside after.sites) made kind rfl nofun nofun fun _ => inferred
        · split
          · rename_i name titled
            refine keeps_bind begin ?_
            rintro site q liveQ before ⟨inside, made, held, -⟩
            have kind : (q.site site).kind = .typeReference := by rw [held]
            exact keeps_denote live older liveQ before inside made kind rfl
              (fun _ => by rw [held, titled]) nofun nofun
          · rename_i untitled
            split
            · rename_i operand _ held
              have part : operand.index < id.index :=
                (live.types id).parts operand (by simp [TypeInfo.parts, held])
              have given : Given now [some operand] := given_of_lt (Nat.lt_trans part older)
              refine keeps_bind begin ?_
              rintro site q liveQ before ⟨inside, made, held, -⟩
              refine keeps_bind (ih.1 (some site) liveQ given) ?_
              intro child r liveR after written
              have kind : (r.site site).kind = .keyofOperator := by
                rw [(after.site site inside).kind, held]
              refine keeps_bind (keeps_giveType liveR (by rw [kind]; decide) (by rwa [made])) ?_
              intro _ t liveT last _
              rw [pure_bind]
              have inside := Nat.lt_of_lt_of_le inside after.sites
              have kept : (t.site site).kind = .keyofOperator := by
                rw [(last.site site inside).kind, kind]
              exact keeps_denote live older liveT (before.trans (after.trans last))
                (Nat.lt_of_lt_of_le inside last.sites) made kept rfl nofun nofun nofun
            · split
              · refine keeps_bind begin ?_
                rintro site q liveQ before ⟨inside, made, held, -⟩
                refine keeps_lift_bind liveQ fun types listed => ?_
                refine keeps_bind (ih.2 (some site) liveQ (given_types live older listed)) ?_
                intro children r liveR after written
                have kind : (r.site site).kind = .unionType := by
                  rw [(after.site site inside).kind, held]
                refine keeps_bind (keeps_setSite liveR ⟨rfl, rfl, fun _ _ held => held⟩
                  { liveR.sites site with
                    types := by
                      intro child member
                      obtain ⟨place, listed, same⟩ := List.mem_map.mp member
                      rw [Option.some_inj] at same
                      subst same
                      rw [made]
                      exact written place listed }) ?_
                intro _ t liveT last _
                rw [pure_bind]
                have inside := Nat.lt_of_lt_of_le inside after.sites
                have kept : (t.site site).kind = .unionType := by
                  rw [(last.site site inside).kind, kind]
                exact keeps_denote live older liveT (before.trans (after.trans last))
                  (Nat.lt_of_lt_of_le inside last.sites) made kept rfl nofun nofun nofun
              · refine keeps_bind begin ?_
                rintro site q liveQ before ⟨inside, made, held, -⟩
                have kind : (q.site site).kind = .typeNode := by rw [held]
                exact keeps_denote live older liveQ before inside made kind rfl nofun
                  (fun _ => untitled) nofun
      · intro p types parent live given
        cases types with
        | nil => exact keeps_pure live (by simp)
        | cons type rest =>
            unfold writtenEach
            refine keeps_bind (ih.1 parent live given.head) ?_
            intro first q liveQ before written
            refine keeps_bind (ih.2 parent liveQ (given.mono (by simp))) ?_
            intro others r liveR after all
            apply keeps_pure liveR
            intro site member
            rcases List.mem_cons.mp member with rfl | member
            · exact after.writtenBy written
            · exact all site member

theorem keeps_writtenType (live : p.Live manner ages now) {type : Option TypeId}
    (given : Given now [type]) (parent : Option SiteId) :
    Keeps manner ages now p (writtenType type parent) fun q site => ages.WrittenBy q now site :=
  keeps_get_bind ((keeps_written _).1 parent live given)

end Build

end TypeAtlas
