import Mathlib.Data.List.Nodup
import TypeAtlas.Proofs.Builder.Call
import TypeAtlas.Proofs.Builder.Identity
import TypeAtlas.Proofs.Builder.LineageDeclared

/-!
Members that a type has from its bases. An interface or a class gets its members before its bases are
written down, so these two steps are taken as one; nothing else comes between a type and where its members
are from.
-/

namespace TypeAtlas

namespace Build

open Program

variable {α β : Type} {manner : Manner} {ages : Ages} {now : Nat} {p q r : Program}

def descending (ages : Ages) : Course := keeping (Program.Lineage ages)

/-- A step that takes nothing back and leaves alone what rests. -/
theorem descends_quietly (lineage : q.Lineage ages) {step : Build α} {told more : Program → α → Prop}
    (rests : (resting q).Keeps q step told) (quiet : Quietly q step more) :
    (descending ages).Keeps q step fun r value =>
      (q.Rests r ∧ q.Carries r) ∧ told r value ∧ more r value := by
  constructor
  · intro fault after ran
    exact lineage.later (quiet.failed fault after ran) (rests.failed fault after ran)
  · intro value after ran
    obtain ⟨rested, -, known⟩ := rests.result value after ran
    obtain ⟨carries, -, also⟩ := quiet.result value after ran
    exact ⟨lineage.later carries rested, trivial, ⟨rested, carries⟩, known, also⟩

theorem descends_bind (lineage : q.Lineage ages) {step : Build α} {next : α → Build β}
    {told more : Program → α → Prop} {final : Program → β → Prop}
    (rests : (resting q).Keeps q step told) (quiet : Quietly q step more)
    (rest : ∀ value r, r.Lineage ages → q.Rests r → q.Carries r → told r value → more r value →
      (descending ages).Keeps r (next value) final) :
    (descending ages).Keeps q (step >>= next) final := by
  refine Course.bind (descends_quietly lineage rests quiet) ?_
  rintro value r lineageR - ⟨⟨rested, carries⟩, known, also⟩
  exact rest value r lineageR rested carries known also

/-- The bases of a declaration were written down, and nothing else was done. -/
structure Heired (q r : Program) (site : SiteId) (token : HeritageToken)
    (bases : List (Option TypeId)) : Prop where
  lasts : q.Lasts r
  bears : q.Bears r
  carries : q.Carries r
  stands : ∀ base ∈ bases, ∃ clause ∈ (r.site site).heritage, clause.token = token ∧
    ∃ place, some place ∈ clause.types ∧ Standing r base place

theorem descends_addHeritage (lineage : q.Lineage ages) {site : SiteId} (token : HeritageToken)
    (bases : List (Option TypeId)) (inner : site.index < q.sites.size)
    (placed : ∀ place : SiteId, q.sites.size ≤ place.index → ages.site place ≤ ages.site site)
    (extending : (q.site site).kind = .interfaceDeclaration → token = .bases) :
    (descending ages).Keeps q (addHeritage site token bases) fun r _ =>
      Heired q r site token bases := by
  unfold addHeritage
  split
  · rename_i empty
    rw [List.isEmpty_iff] at empty
    subst empty
    exact Course.pure lineage ⟨(Rests.refl q).toLasts, bears_of_rests (Carries.refl q) (Rests.refl q),
      Carries.refl q, fun _ member => absurd member List.not_mem_nil⟩
  · refine descends_bind lineage (rests_heritageSites (Rests.refl q) site bases)
      (quietly_mapM (fun _ _ _ _ known => known) fun base _ r _ => quietly_heritageSite site base) ?_
    rintro places r lineageR rests carries ⟨standing, fresh⟩ -
    have inside := Nat.lt_of_lt_of_le inner rests.sites
    let clause : HeritageClause := { token, types := places.map some }
    have listed (place : SiteId) (held : some place ∈ clause.types) : place ∈ places := by
      simpa [clause] using held
    have extended :
        (r.modifySite site fun s => { s with heritage := s.heritage ++ [clause] }).Lineage ages := by
      refine lineageR.addClause ?_ ?_
      · exact fun place held => placed place (fresh place (listed place held))
      · rw [(rests.site site inner).kind]
        exact extending
    refine Course.write rfl extended trivial ?_
    · have lasts := lasts_addClause r site clause
      refine ⟨rests.toLasts.trans lasts,
        (bears_of_rests carries rests).trans (bears_addClause r site clause),
        carries.modifySite site fun _ _ => rfl, fun base held => ?_⟩
      obtain ⟨place, there, stands⟩ := standing base held
      refine ⟨clause, ?_, rfl, place, List.mem_map_of_mem there, stands.last lasts⟩
      rw [site_modifySite, if_pos ⟨rfl, inside⟩]
      exact List.mem_append_right _ (List.mem_singleton.mpr rfl)

def standAt (parent : SiteId) (base : TypeId) (name : Option String) : Build SiteId := do
  let site ← newSite { kind := .expressionWithTypeArguments, parent := some parent }
  let expression ← newSite { kind := .identifier, name, parent := some site }
  setSite site ({ · with expression := some expression })
  bindSite site (some base)
  pure site

section Retyped

variable (at_ : TypeId) {f : TypeInfo → TypeInfo} (same : ∀ t : TypeInfo, (f t).symbol = t.symbol)
include same

/-- Bases that are there are written down, in the same way whatever members there are. -/
theorem heritageSite_retyped (parent : SiteId) (base : TypeId) (p : Program) :
    ∃ r, heritageSite parent (some base) p = (.ok ⟨p.sites.size⟩, r) ∧
      heritageSite parent (some base) (p.modifyType at_ f) =
        (.ok ⟨p.sites.size⟩, r.modifyType at_ f) := by
  have written (q : Program) : heritageSite parent (some base) q =
      standAt parent base ((q.type base).symbol.map fun symbol => (q.symbol symbol).name) q := rfl
  have symbol : ((p.modifyType at_ f).type base).symbol = (p.type base).symbol := by
    rw [type_modifyType]
    split
    · exact same _
    · rfl
  rw [written, written, symbol]
  exact ⟨_, rfl, rfl⟩

theorem heritageSites_retyped (parent : SiteId) {bases : List (Option TypeId)} (whole : none ∉ bases)
    (p : Program) :
    ∃ places r, bases.mapM (heritageSite parent) p = (.ok places, r) ∧
      bases.mapM (heritageSite parent) (p.modifyType at_ f) = (.ok places, r.modifyType at_ f) := by
  induction bases generalizing p with
  | nil => exact ⟨[], p, rfl, rfl⟩
  | cons base rest ih =>
      cases base with
      | none => exact absurd (List.mem_cons_self ..) whole
      | some base =>
          obtain ⟨r, ran, also⟩ := heritageSite_retyped at_ same parent base p
          obtain ⟨places, t, others, likewise⟩ := ih (fun held => whole (List.mem_cons_of_mem _ held)) r
          refine ⟨⟨p.sites.size⟩ :: places, t, ?_, ?_⟩
          · rw [List.mapM_cons, bind_ok ran, bind_ok others]
            rfl
          · rw [List.mapM_cons, bind_ok also, bind_ok likewise]
            rfl

theorem addHeritage_retyped (site : SiteId) (token : HeritageToken) {bases : List (Option TypeId)}
    (whole : none ∉ bases) (p : Program) :
    ∃ r, addHeritage site token bases p = (.ok (), r) ∧
      addHeritage site token bases (p.modifyType at_ f) = (.ok (), r.modifyType at_ f) := by
  unfold addHeritage
  split
  · exact ⟨p, rfl, rfl⟩
  · obtain ⟨places, r, ran, also⟩ := heritageSites_retyped at_ same site whole p
    rw [bind_ok ran, bind_ok also]
    exact ⟨_, rfl, rfl⟩

end Retyped

/-- Nothing is inherited twice, and nothing that is there already. -/
theorem distinct_inheritedProperties {own inherited : List SymbolId} {bases : List (Option TypeId)}
    (found : inheritedProperties p own bases = .ok inherited) :
    inherited.Nodup ∧ ∀ symbol ∈ inherited, symbol ∉ own := by
  obtain ⟨offers, -, rest⟩ := of_except_bind_ok found
  cases rest
  refine List.foldlRecOn (motive := fun kept : List SymbolId => kept.Nodup ∧ ∀ symbol ∈ kept, symbol ∉ own)
    offers.flatten _ ⟨List.nodup_nil, fun _ held => absurd held List.not_mem_nil⟩ ?_
  rintro kept ⟨apart, new⟩ prop -
  split
  · exact ⟨apart, new⟩
  · rename_i unseen
    simp only [Bool.or_eq_true, List.any_eq_true, beq_iff_eq, not_or, not_exists, not_and] at unseen
    refine ⟨List.nodup_append.mpr ⟨apart, List.nodup_singleton _, ?_⟩, fun symbol held => ?_⟩
    · rintro symbol held _ single rfl
      cases List.mem_singleton.mp single
      exact unseen.2 _ held rfl
    · rcases List.mem_append.mp held with old | single
      · exact new symbol old
      · cases List.mem_singleton.mp single
        exact fun mine => unseen.1 _ mine rfl

theorem whole_of_inheritedProperties {own inherited : List SymbolId} {bases : List (Option TypeId)}
    (found : inheritedProperties p own bases = .ok inherited) : none ∉ bases := by
  obtain ⟨offers, offered, -⟩ := of_except_bind_ok found
  have each := forall₂_of_mapM_lift offered
  clear found offered
  induction each with
  | nil => exact List.not_mem_nil
  | cons first _ ih =>
      intro held
      rcases List.mem_cons.mp held with rfl | held
      · cases first
      · exact ih held

structure Populated (q r : Program) (site : SiteId) (bases : List (Option TypeId))
    (own inherited : List SymbolId) : Prop where
  whole : none ∉ bases
  grown : ∀ symbol ∈ own, Grown q r site symbol
  apart : (own ++ inherited).Nodup
  passed : ∀ symbol ∈ inherited, ∃ base, some base ∈ bases ∧
    some symbol ∈ (r.type base).properties.slots

theorem descends_populate (lineage : q.Lineage ages) (type : TypeId) {site : SiteId}
    {specs : Table String MemberSpec} (bases : List (Option TypeId)) {kind : SiteKind}
    (isMember : kind.isMember = true) (inner : site.index < q.sites.size)
    (parameters : Parameters q (memberParameters specs)) (stringIndex numberIndex : Option IndexSpec)
    {rest : Build α} {told : Program → α → Prop}
    (finish : ∀ r own inherited (f : TypeInfo → TypeInfo), r.Lineage ages → q.Rests r → q.Carries r →
      Populated q r site bases own inherited →
      (∀ t : TypeInfo, t.Stays (f t) ∧ (f t).target = t.target) →
      (∀ t : TypeInfo, (f t).properties = Slots.of (own ++ inherited)) →
      (descending ages).Keeps r (do setType type f; rest) told) :
    (descending ages).Keeps q (do
      populate type site specs bases kind stringIndex numberIndex
      rest) told := by
  simp only [populate, bind_assoc]
  refine descends_bind lineage (rests_members (Rests.refl q) isMember inner parameters)
    (quietly_members site kind specs) ?_
  rintro own r lineageR restsR carriesR ⟨made, apart⟩ -
  have grown (symbol : SymbolId) (held : symbol ∈ own) := (made symbol held).1
  refine Course.ask_bind lineageR fun inherited found => ?_
  obtain ⟨nodup, new⟩ := distinct_inheritedProperties found
  refine descends_bind lineageR (rests_indexSignature (Rests.refl r) _ _ _)
    (quietly_indexSignature _ _ _) fun ownString t lineageT restsT carriesT _ _ => ?_
  refine descends_bind lineageT (rests_indexSignature (Rests.refl t) _ _ _)
    (quietly_indexSignature _ _ _) fun ownNumber u lineageU restsU carriesU _ _ => ?_
  apply Course.get_bind
  refine finish u own inherited _ lineageU ((restsR.trans restsT).trans restsU)
    ((carriesR.trans carriesT).trans carriesU)
    ⟨whole_of_inheritedProperties found, fun symbol held => ?_, ?_, fun symbol held => ?_⟩
    (fun _ => ⟨⟨rfl, rfl, rfl⟩, rfl⟩) (fun _ => rfl)
  · exact (grown symbol held).later (restsT.trans restsU)
  · refine List.nodup_append.mpr ⟨apart, nodup, ?_⟩
    rintro symbol mine _ passed rfl
    exact new symbol passed mine
  · obtain ⟨base, listed, there⟩ := of_inheritedProperties found held
    exact ⟨base, listed, by rwa [(carriesT.trans carriesU).properties]⟩

/-- A step that is known not to fail may leave anything to the next one. -/
theorem descends_after {step : Build α} {next : α → Build β} {value : α} {told : Program → β → Prop}
    (ran : step p = (.ok value, q)) (rest : (descending ages).Keeps q (next value) told) :
    (descending ages).Keeps p (step >>= next) told := by
  constructor
  · intro fault after failed
    rw [bind_ok ran] at failed
    exact rest.failed fault after failed
  · intro result after ended
    rw [bind_ok ran] at ended
    obtain ⟨lineage, -, known⟩ := rest.result result after ended
    exact ⟨lineage, trivial, known⟩

/-- A declared type that has no members yet. -/
structure Opened (q : Program) (kind : SiteKind) (symbol : SymbolId) (type : TypeId) : Prop where
  there : type.index < q.types.size
  flags : (q.type type).flags = [.object]
  plain : (q.type type).isReference = false
  held : (q.type type).symbol = some symbol
  declares : (q.type type).isClass = true ∧ kind = .classDeclaration ∨ kind = .interfaceDeclaration
  empty : (q.type type).properties.slots = []

theorem Opened.last {kind : SiteKind} {symbol : SymbolId} {type : TypeId}
    (opened : Opened q kind symbol type) (grows : q.Lasts r) (carries : q.Carries r) :
    Opened r kind symbol type := by
  have stays := grows.type type opened.there
  refine ⟨Nat.lt_of_lt_of_le opened.there grows.types, stays.flags.trans opened.flags,
    stays.isReference.trans opened.plain, stays.symbol.trans opened.held, ?_, ?_⟩
  · rw [stays.isClass]
    exact opened.declares
  · rw [carries.properties]
    exact opened.empty

theorem descends_newNominal (lineage : q.Lineage ages) {kind : SiteKind} {flags : SymbolFlags}
    {symbol : SymbolId} {site : SiteId} (seated : Seated q kind flags symbol site) {t : TypeInfo}
    (object : t.flags = [.object]) (plain : t.isReference = false) (held : t.symbol = some symbol)
    (declares : t.isClass = true ∧ kind = .classDeclaration ∨ kind = .interfaceDeclaration)
    (empty : t.properties.slots = []) :
    (descending ages).Keeps q (newType t) fun r type =>
      (q.Lasts r ∧ q.Carries r) ∧ q.types.size ≤ type.index ∧ Opened r kind symbol type := by
  have record : (q.addType t).2.type ⟨q.types.size⟩ = { t with id := q.lastId + 1 } := by
    rw [type_addType, if_pos rfl]
  have opened : Opened (q.addType t).2 kind symbol ⟨q.types.size⟩ := by
    refine ⟨by simp [addType, addNumberedType], ?_, ?_, ?_, ?_, ?_⟩ <;> rw [record]
    · exact object
    · exact plain
    · exact held
    · exact declares
    · exact empty
  refine Course.write rfl (lineage.addType fun bears => ?_) trivial
    ⟨⟨lasts_addType q t, (Carries.refl q).addType empty⟩, Nat.le_refl _, opened⟩
  refine ⟨?_, ?_, ?_, ?_, ?_⟩
  · intro member has
    rw [opened.empty] at has
    cases has
  · intro _ member has
    rw [opened.empty] at has
    cases has
  · intro _
    rw [opened.empty]
    exact List.nodup_nil
  · intro _
    refine ⟨symbol, site, opened.held, bears.first symbol site seated.first, ?_⟩
    rcases opened.declares with ⟨isClass, same⟩ | same
    · exact Or.inl ⟨isClass, seated.kind.trans same⟩
    · exact Or.inr (seated.kind.trans same)
  · intro reference
    rw [opened.plain] at reference
    cases reference

theorem descends_inherited (lineage : r.Lineage ages) {kind : SiteKind} {flags : SymbolFlags}
    {symbol : SymbolId} {site : SiteId} {type : TypeId} {bases : List (Option TypeId)}
    {own inherited : List SymbolId} (populated : Populated p q site bases own inherited)
    (heired : Heired q r site .bases bases) (seated : Seated r kind flags symbol site)
    (opened : Opened r kind symbol type) (age : ages.site site ≤ type.index)
    (older : ∀ base, some base ∈ bases → base.index < type.index) {f : TypeInfo → TypeInfo}
    (shape : ∀ t : TypeInfo, t.Stays (f t) ∧ (f t).target = t.target)
    (properties : ∀ t : TypeInfo, (f t).properties = Slots.of (own ++ inherited)) :
    (r.modifyType type f).Lineage ages := by
  have record : (r.modifyType type f).type type = f (r.type type) := by
    rw [type_modifyType, if_pos ⟨rfl, opened.there⟩]
  have stays : (r.type type).Stays ((r.modifyType type f).type type) := by
    rw [record]
    exact (shape _).1
  have slots : ((r.modifyType type f).type type).properties.slots = (own ++ inherited).map some := by
    rw [record, properties]
    rfl
  have kept (base : TypeId) : (r.type base).properties.slots = (q.type base).properties.slots :=
    heired.carries.properties base
  have split (member : SymbolId)
      (has : some member ∈ ((r.modifyType type f).type type).properties.slots) :
      member ∈ own ∨ member ∈ inherited := by
    rw [slots] at has
    simpa using has
  refine lineage.modifyType type (by rw [opened.empty]; exact List.nil_subset _) fun _ bears => ?_
  refine ⟨?_, ?_, ?_, ?_, ?_⟩
  · intro member has
    refine ⟨stays.flags.trans opened.flags, ?_⟩
    rcases split member has with mine | passed
    · exact ⟨site, (bears.declared _ _ ((populated.grown member mine).last heired.lasts).declared).1, age⟩
    · obtain ⟨base, listed, there⟩ := populated.passed member passed
      rw [← kept] at there
      obtain ⟨-, parent, below, aged⟩ := (lineage.types base).declared member there
      exact ⟨parent, (bears.declared _ _ below).1,
        Nat.le_trans aged (Nat.le_of_lt (older base listed))⟩
  · intro _ member has
    rcases split member has with mine | passed
    · have grown := (populated.grown member mine).last heired.lasts
      obtain ⟨declared, same⟩ := bears.declared _ _ grown.declared
      refine Or.inl ⟨declared.isOwn_iff.mpr ?_, same.trans grown.untargeted⟩
      rw [stays.symbol, opened.held]
      exact bears.first symbol site seated.first
    · obtain ⟨base, listed, there⟩ := populated.passed member passed
      obtain ⟨clause, clauses, token, place, places, standing⟩ := heired.stands _ listed
      rw [← kept] at there
      refine Or.inr ⟨base, ?_, bears.slots base there⟩
      exact .listed (stays.symbol.trans opened.held) (bears.first symbol site seated.first) clauses
        token places standing.kind standing.stands
  · intro _
    rw [slots]
    exact populated.apart.map fun _ _ same => Option.some.inj same
  · intro _
    refine ⟨symbol, site, stays.symbol.trans opened.held, bears.first symbol site seated.first, ?_⟩
    rw [stays.isClass]
    rcases opened.declares with ⟨isClass, same⟩ | same
    · exact Or.inl ⟨isClass, seated.kind.trans same⟩
    · exact Or.inr (seated.kind.trans same)
  · intro reference
    rw [stays.isReference, opened.plain] at reference
    cases reference

theorem setType_apply (id : TypeId) (f : TypeInfo → TypeInfo) (p : Program) :
    setType id f p = (.ok (), p.modifyType id f) := rfl

theorem setSymbol_apply (id : SymbolId) (f : Symbol → Symbol) (p : Program) :
    setSymbol id f p = (.ok (), p.modifySymbol id f) := rfl

theorem settled_bases (lineage : q.Lineage ages) {kind : SiteKind} {flags : SymbolFlags}
    {symbol : SymbolId} {site : SiteId} {type : TypeId} {bases : List (Option TypeId)}
    {own inherited : List SymbolId} (populated : Populated p q site bases own inherited)
    (seated : Seated q kind flags symbol site) (opened : Opened q kind symbol type)
    (placed : ∀ place : SiteId, q.sites.size ≤ place.index → ages.site place ≤ ages.site site)
    (age : ages.site site ≤ type.index)
    (older : ∀ base, some base ∈ bases → base.index < type.index) {f : TypeInfo → TypeInfo}
    (shape : ∀ t : TypeInfo, t.Stays (f t) ∧ (f t).target = t.target)
    (properties : ∀ t : TypeInfo, (f t).properties = Slots.of (own ++ inherited)) :
    ∃ r, addHeritage site .bases bases (q.modifyType type f) = (.ok (), r) ∧
      (∀ g : TypeInfo → TypeInfo, (∀ t : TypeInfo, (g t).symbol = t.symbol) →
        addHeritage site .bases bases ((q.modifyType type f).modifyType type g) =
          (.ok (), r.modifyType type g)) ∧
      r.Lineage ages ∧ q.Lasts r := by
  obtain ⟨z, ran, also⟩ := addHeritage_retyped type (fun t => (shape t).1.symbol) site .bases
    populated.whole q
  obtain ⟨lineageZ, -, heired⟩ := (descends_addHeritage lineage .bases bases seated.there placed
    fun _ => rfl).result () z ran
  refine ⟨z.modifyType type f, also, fun g same => ?_, ?_, ?_⟩
  · obtain ⟨w, once, twice⟩ := addHeritage_retyped type same site .bases populated.whole
      (q.modifyType type f)
    rw [also] at once
    cases once
    exact twice
  · exact descends_inherited lineageZ populated heired (seated.last heired.lasts)
      (opened.last heired.lasts heired.carries) age older shape properties
  · exact heired.lasts.trans (lasts_modifyType z type fun t => (shape t).1)

end Build

end TypeAtlas
