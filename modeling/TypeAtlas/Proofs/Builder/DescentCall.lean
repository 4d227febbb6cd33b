import TypeAtlas.Proofs.Builder.Descent

/-!
After every call all types have their members from somewhere: after those that declare an interface or a
class, instantiate one or add members to it, and so after any of them.
-/

namespace TypeAtlas

namespace Build

open Program

variable {α β : Type} {manner : Manner} {ages : Ages} {now : Nat} {p q r : Program}

section Steps

variable (live : q.Live manner ages now) (lineage : q.Lineage ages)
include live lineage

theorem descends_interface {spec : InterfaceSpec} (given : Given now spec.types)
    (parameters : Parameters q (spec.typeParameters ++ memberParameters spec.members)) :
    (descending ages).Keeps q (interface spec) fun _ _ => True := by
  refine descends_bind lineage (rests_declare (Rests.refl q) _ _ _ _ _) (quietly_declare _ _ _ _ _) ?_
  rintro ⟨symbol, site⟩ r lineageR restsR carriesR ⟨seated, fresh, -⟩ -
  refine descends_bind lineageR (rests_setSymbol (Rests.refl r) symbol
    ⟨rfl, rfl, rfl, fun _ => rfl, fun _ => rfl⟩ rfl fun _ => rfl)
    (quietly_setSymbol symbol (fun _ => rfl) fun _ => ⟨rfl, rfl⟩) ?_
  intro _ t lineageT restsT carriesT _ _
  refine Course.bind (descends_newNominal lineageT (seated.later restsT) rfl rfl rfl (Or.inr rfl) rfl) ?_
  rintro type u lineageU - ⟨⟨lastsU, carriesU⟩, young, opened⟩
  have since := (restsR.trans restsT).toLasts.trans lastsU
  have parameters := parameters.last since
  refine descends_bind lineageU (rests_attachTypeParameters (Rests.refl u) site
    (parameters.mono (List.subset_append_left _ _))) (quietly_attachTypeParameters _ _) ?_
  intro _ v lineageV restsV carriesV _ _
  have seated := ((seated.later restsT).last lastsU).later restsV
  refine descends_populate lineageV type spec.bases rfl seated.there
    ((parameters.mono (List.subset_append_right _ _)).later restsV) _ _ ?_
  intro w own inherited f lineageW restsW carriesW populated shape properties
  have seated := seated.later restsW
  have opened := (opened.last restsV.toLasts carriesV).last restsW.toLasts carriesW
  have grown := (since.trans restsV.toLasts).trans restsW.toLasts
  have age : ages.site site = now := live.siteNow site fresh
  have younger : now ≤ type.index :=
    Nat.le_trans live.bound (Nat.le_trans (restsR.trans restsT).types young)
  obtain ⟨x, -, ran, lineageX, lasts⟩ := settled_bases lineageW populated seated opened
    (fun place outside => Nat.le_of_eq
      ((live.siteNow place (Nat.le_trans grown.sites outside)).trans age.symm))
    (age ▸ younger)
    (fun base held => Nat.lt_of_lt_of_le (given base (by simp [InterfaceSpec.types, held])) younger)
    shape properties
  have settled := ran ({ · with callSignatures := some spec.callSignatures }) fun _ => rfl
  let y := x.modifyType type ({ · with callSignatures := some spec.callSignatures })
  have rests : x.Rests y := Rests.modifyType ⟨rfl, rfl, rfl⟩ rfl
  have carries : x.Carries y := (Carries.refl x).modifyType type fun _ => rfl
  refine descends_after (setType_apply ..) (descends_after (setType_apply ..) (descends_after settled ?_))
  exact (descends_quietly (lineageX.later carries rests)
    (rests_stand (Rests.refl y) symbol (((seated.last lasts).later rests).vacant SiteKind.noConfusion)
      type _) (quietly_stand symbol site type _)).weaken fun _ _ _ _ _ => trivial

theorem descends_classType {spec : ClassSpec} (given : Given now spec.types)
    (parameters : Parameters q
      (spec.typeParameters ++ memberParameters spec.members ++ memberParameters spec.statics)) :
    (descending ages).Keeps q (classType spec) fun _ _ => True := by
  have attached := parameters.mono (List.subset_append_left (spec.typeParameters ++ _) _)
  refine descends_bind lineage (rests_declare (Rests.refl q) _ _ _ _ _) (quietly_declare _ _ _ _ _) ?_
  rintro ⟨symbol, site⟩ r lineageR restsR carriesR ⟨seated, fresh, -⟩ -
  refine Course.bind (descends_newNominal lineageR seated rfl rfl rfl (Or.inl ⟨rfl, rfl⟩) rfl) ?_
  rintro type u lineageU - ⟨⟨lastsU, carriesU⟩, young, opened⟩
  have since := restsR.toLasts.trans lastsU
  refine descends_bind lineageU (rests_attachTypeParameters (Rests.refl u) site
    ((attached.mono (List.subset_append_left _ _)).last since)) (quietly_attachTypeParameters _ _) ?_
  intro _ v lineageV restsV carriesV _ _
  have seated := (seated.last lastsU).later restsV
  refine descends_populate lineageV type (spec.base.toList.map some) rfl seated.there
    (((attached.mono (List.subset_append_right _ _)).last since).later restsV) _ _ ?_
  intro w own inherited f lineageW restsW carriesW populated shape properties
  have seated := seated.later restsW
  have opened := (opened.last restsV.toLasts carriesV).last restsW.toLasts carriesW
  have since := (since.trans restsV.toLasts).trans restsW.toLasts
  have age : ages.site site = now := live.siteNow site fresh
  have younger : now ≤ type.index := Nat.le_trans live.bound (Nat.le_trans restsR.types young)
  have placed (place : SiteId) (outside : q.sites.size ≤ place.index) :
      ages.site place ≤ ages.site site :=
    Nat.le_of_eq ((live.siteNow place outside).trans age.symm)
  obtain ⟨x, settled, -, lineageX, lasts⟩ := settled_bases lineageW populated seated opened
    (fun place outside => placed place (Nat.le_trans since.sites outside)) (age ▸ younger)
    (fun base held => Nat.lt_of_lt_of_le (given base (by
      simp only [List.mem_map, Option.mem_toList] at held
      obtain ⟨other, same, present⟩ := held
      rw [← present, ← same]
      exact List.mem_cons_self ..)) younger)
    shape properties
  refine descends_after (setType_apply ..) (descends_after settled ?_)
  have seated := seated.last lasts
  have since := since.trans lasts
  refine Course.bind (descends_addHeritage lineageX .implemented spec.implemented seated.there
    (fun place outside => placed place (Nat.le_trans since.sites outside))
    (fun kind => SiteKind.noConfusion (seated.kind.symm.trans kind))) ?_
  rintro _ y lineageY - heired
  have seated := seated.last heired.lasts
  have since := since.trans heired.lasts
  refine descends_bind lineageY (rests_newSymbol (Rests.refl y) rfl) (quietly_newSymbol _) ?_
  rintro _ z lineageZ restsZ _ ⟨told, rfl⟩ -
  have prototype : (z.symbol ⟨y.symbols.size⟩).hasFlag .prototype = true ∧
      (z.symbol ⟨y.symbols.size⟩).valueDeclaration = none ∧ y.symbols.size < z.symbols.size := by
    rw [told, y.addSymbol_made]
    exact ⟨rfl, rfl, by simp [addSymbol, addNumberedSymbol]⟩
  have seated := seated.later restsZ
  refine descends_bind lineageZ (rests_statics (Rests.refl z) seated.there
    ((parameters.mono (List.subset_append_right _ _)).last (since.trans restsZ.toLasts)))
    (quietly_statics site spec.statics) ?_
  intro statics a lineageA restsA _ grown rooted
  have seated := seated.later restsA
  have exported (member : SymbolId)
      (held : some member ∈ (Slots.of (⟨y.symbols.size⟩ :: statics)).slots) :
      a.IsStatic site member := by
    have listed : member = ⟨y.symbols.size⟩ ∨ member ∈ statics := by
      simpa [Slots.of, Slots.slots, eq_comm] using held
    rcases listed with rfl | listed
    · obtain ⟨flagged, undeclared, inside⟩ := prototype
      have rest := restsA.symbol ⟨y.symbols.size⟩ inside
      exact Or.inl ⟨(rest.hasFlag _).trans flagged, (rest.value (Or.inr flagged)).trans undeclared⟩
    · have grown := grown member listed
      exact Or.inr ⟨grown.value, grown.same, rooted member listed, grown.declared⟩
  refine descends_after (setSymbol_apply ..) ?_
  have lineageB := lineageA.setExports seated.first exported
  have seated := seated.last (lasts_modifySymbol a symbol
    (f := ({ · with exports := Slots.of (⟨y.symbols.size⟩ :: statics) }))
    fun _ => ⟨rfl, rfl, rfl, fun _ => rfl, fun _ => rfl⟩)
  refine descends_bind lineageB (Course.mapM (fun _ _ _ _ known => known) (Rests.refl _)
    fun params _ t restsT _ => rests_constructorSite restsT site type params)
    (quietly_mapM (fun _ _ _ _ known => known) fun params _ t _ =>
      quietly_constructorSite site type params) ?_
  intro constructors c lineageC restsC _ _ _
  have seated := seated.later restsC
  have stand {d : Program} (lineageD : d.Lineage ages) (grows : c.Rests d) :
      (descending ages).Keeps d (do
        bindDeclared symbol type
        bindSite site type
        exportIf spec.header.exported symbol
        pure type) fun _ _ => True :=
    (descends_quietly lineageD (rests_stand (Rests.refl d) symbol
      ((seated.later grows).vacant SiteKind.noConfusion) type _)
      (quietly_stand symbol site type _)).weaken fun _ _ _ _ _ => trivial
  dsimp only
  split
  · refine descends_bind lineageC (rests_newSymbol (Rests.refl c) rfl) (quietly_newSymbol _) ?_
    intro held d lineageD restsD _ _ _
    refine descends_bind lineageD (rests_setSymbol (Rests.refl d) symbol
      ⟨rfl, rfl, rfl, fun _ => rfl, fun _ => rfl⟩ rfl fun _ => rfl)
      (quietly_setSymbol symbol (fun _ => rfl) fun _ => ⟨rfl, rfl⟩) ?_
    exact fun _ e lineageE restsE _ _ _ => stand lineageE (restsD.trans restsE)
  · exact stand lineageC (Rests.refl c)

theorem descends_objectLiteral {specs : Table String MemberSpec}
    (callSignatures : List (Option SignatureId)) (stringIndex numberIndex : Option IndexSpec)
    (parameters : Parameters q (memberParameters specs)) :
    (descending ages).Keeps q (objectLiteral specs callSignatures stringIndex numberIndex)
      fun _ _ => True := by
  refine descends_bind lineage (rests_declare (Rests.refl q) _ _ _ _ _) (quietly_declare _ _ _ _ _) ?_
  rintro ⟨symbol, site⟩ r lineageR restsR carriesR ⟨seated, fresh, -⟩ -
  refine descends_bind lineageR (rests_made (Rests.refl r) ⟨rfl, fun reference => by cases reference⟩)
    (quietly_newType rfl) ?_
  rintro type u lineageU restsU carriesU ⟨young, there, stays⟩ -
  have seated := seated.later restsU
  refine descends_populate lineageU type [] rfl seated.there
    (parameters.later (restsR.trans restsU)) _ _ ?_
  intro w own inherited f lineageW restsW carriesW populated shape properties
  have seated := seated.later restsW
  have inside := Nat.lt_of_lt_of_le there restsW.types
  have record : (w.modifyType type f).type type = f (w.type type) := by
    rw [type_modifyType, if_pos ⟨rfl, inside⟩]
  have stays := (stays.trans (restsW.type type there)).trans
    (show (w.type type).Stays ((w.modifyType type f).type type) from record ▸ (shape _).1)
  have age : ages.site site ≤ type.index := by
    rw [live.siteNow site fresh]
    exact Nat.le_trans live.bound (Nat.le_trans restsR.types young)
  have empty : (w.type type).properties.slots = [] := by
    rw [(carriesU.trans carriesW).properties, r.type_of_size_le young]
    rfl
  have descends : (w.modifyType type f).Lineage ages := by
    refine lineageW.modifyType type (by rw [empty]; exact List.nil_subset _) fun _ bears => ?_
    refine ⟨fun member has => ⟨stays.flags, ?_⟩, fun nominal => ?_, fun nominal => ?_,
      fun nominal => ?_, fun reference => ?_⟩
    · rw [record, properties] at has
      rcases List.mem_append.mp (Slots.mem_of has) with mine | passed
      · exact ⟨site, (bears.declared _ _ (populated.grown member mine).declared).1, age⟩
      · obtain ⟨base, listed, -⟩ := populated.passed member passed
        cases listed
    · rw [stays.isNominal] at nominal
      cases nominal
    · rw [stays.isNominal] at nominal
      cases nominal
    · rw [stays.isNominal] at nominal
      cases nominal
    · rw [stays.isReference] at reference
      cases reference
  have seated := seated.last (lasts_modifyType w type fun t => (shape t).1)
  refine descends_after (setType_apply ..) ?_
  refine descends_bind descends (rests_setType (Rests.refl _) type fun _ => ⟨⟨rfl, rfl, rfl⟩, rfl⟩)
    (quietly_setType type fun _ => rfl) fun _ x lineageX restsX _ _ _ => ?_
  refine descends_bind lineageX (rests_bindVacant (Rests.refl x)
    ((seated.later restsX).vacant SiteKind.noConfusion) _) (quietly_bindSite _ _) ?_
  exact fun _ y lineageY _ _ _ _ => Course.pure lineageY trivial

theorem descends_instantiate (traced : q.Traced) {generic : Option TypeId}
    {arguments : List (Option TypeId)} (given : Given now (generic :: arguments)) :
    (descending ages).Keeps q (instantiate generic arguments) fun _ _ => True := by
  refine Course.lift_bind lineage fun target found => ?_
  obtain rfl : generic = some target := of_present found
  have older : target.index < now := given.head.of_some
  apply Course.get_bind
  refine descends_bind lineage (rests_withDefaults (Rests.refl q) _ _) (quietly_withDefaults _ _) ?_
  intro filled r lineageR restsR carriesR _ _
  refine Course.lift_bind lineageR fun items listed => ?_
  -- the members to copy were read before the defaults were filled in, which changed no properties
  have slots : (r.type target).properties.slots = items := by
    rw [carriesR.properties, slots_of_each listed]
  have stemmed (item : Option SymbolId) (held : item ∈ items) : r.Stemmed item :=
    (traced.later carriesR).properties target item (slots ▸ held)
  refine descends_bind lineageR (rests_instantiateMembers (Rests.refl r) _ items)
    (quietly_instantiateMembers _ stemmed) ?_
  intro copies t lineageT restsT carriesT copied _
  refine Course.lift_bind lineageT fun calls _ => ?_
  refine descends_bind lineageT (rests_instantiateIndex (Rests.refl t) _ _)
    (quietly_instantiateIndex _ _) fun stringIndex u lineageU restsU carriesU _ _ => ?_
  refine descends_bind lineageU (rests_instantiateIndex (Rests.refl u) _ _)
    (quietly_instantiateIndex _ _) fun numberIndex v lineageV restsV carriesV _ _ => ?_
  have rests := restsT.trans (restsU.trans restsV)
  have carries := carriesT.trans (carriesU.trans carriesV)
  have younger : target.index < v.types.size :=
    Nat.lt_of_lt_of_le older (Nat.le_trans live.bound (Nat.le_trans restsR.types rests.types))
  -- each property was made of one that the generic type has
  have made (member : SymbolId) (held : some member ∈ (Slots.of copies).slots) :
      ∃ original, (v.symbol member).target = some original ∧
        some original ∈ (v.type target).properties.slots ∧
        ∀ parent, r.DeclaredBelow original parent → v.DeclaredBelow member parent := by
    obtain ⟨slot, there, present, copy⟩ := copied member (Slots.mem_of held)
    have copy := copy.later (restsU.trans restsV)
    obtain ⟨original, rfl⟩ := Option.ne_none_iff_exists'.mp present
    refine ⟨original, copy.points, ?_, copy.declared original rfl⟩
    rw [carries.properties, slots]
    exact there
  refine Course.write rfl (lineageV.addType fun bears => ?_) trivial trivial
  have record (t : TypeInfo) : (v.addType t).2.type ⟨v.types.size⟩ = { t with id := v.lastId + 1 } := by
    rw [type_addType, if_pos rfl]
  refine ⟨?_, ?_, ?_, ?_, ?_⟩
  · intro member held
    rw [record] at held ⊢
    obtain ⟨original, -, there, declared⟩ := made member held
    rw [carries.properties] at there
    obtain ⟨-, parent, below, age⟩ := (lineageR.types target).declared original there
    exact ⟨rfl, parent, (bears.declared _ _ (declared parent below)).1,
      Nat.le_trans age (Nat.le_of_lt younger)⟩
  · intro nominal
    rw [record] at nominal
    cases nominal
  · intro nominal
    rw [record] at nominal
    cases nominal
  · intro nominal
    rw [record] at nominal
    cases nominal
  · intro _ _
    rw [record]
    refine ⟨target, rfl, younger, fun member held => ?_⟩
    obtain ⟨original, points, there, declared⟩ := made member held
    refine ⟨original, ?_, bears.slots target there⟩
    exact points

theorem descends_instantiateAlias {aliased : Option TypeId} {arguments : List (Option TypeId)}
    (given : Given now (aliased :: arguments)) :
    (descending ages).Keeps q (instantiateAlias aliased arguments) fun _ _ => True := by
  apply Course.get_bind
  refine Course.lift_bind lineage fun id found => ?_
  obtain rfl : aliased = some id := of_present found
  have older : id.index < now := given.head.of_some
  have inside : id.index < q.types.size := Nat.lt_of_lt_of_le older live.bound
  dsimp only
  split
  · exact Course.throw lineage _
  · refine Course.lift_bind lineage fun first _ => Course.lift_bind lineage fun site _ => ?_
    refine Course.lift_bind lineage fun written _ => ?_
    refine descends_bind lineage (Course.mapM (fun _ _ _ _ known => known) (Rests.refl q)
      fun param _ r restsR _ => Course.ask restsR fun _ _ => trivial)
      (quietly_mapM (fun _ _ _ _ known => known) fun param _ r _ => quietly_ask fun _ _ => trivial) ?_
    intro params r lineageR restsR carriesR _ _
    let copy := (r.addType (q.type id)).2
    have record : copy.type ⟨r.types.size⟩ = { q.type id with id := r.lastId + 1 } := by
      rw [type_addType, if_pos rfl]
    have stays := restsR.type id inside
    have lineageC : copy.Lineage ages := by
      refine lineageR.addType fun bears => (lineageR.types id).copy bears ?_ ?_ ?_ ?_
      · exact Nat.le_trans (Nat.le_of_lt inside) restsR.types
      · rw [record]
        exact ⟨stays.flags.symm, stays.objectFlags.symm, stays.symbol.symm⟩
      · rw [record]
        exact (restsR.target id inside).symm
      · rw [record]
        exact (carriesR.properties id).symm
    refine descends_after (q := copy) rfl ?_
    refine descends_bind lineageC (rests_withDefaults (Rests.refl copy) _ _) (quietly_withDefaults _ _) ?_
    intro filled t lineageT _ _ _ _
    refine descends_bind lineageT (rests_setType (Rests.refl t) _ fun _ => ⟨⟨rfl, rfl, rfl⟩, rfl⟩)
      (quietly_setType _ fun _ => rfl) fun _ u lineageU _ _ _ _ => ?_
    exact Course.pure lineageU trivial

/-- The names of members that are added are new to the type. -/
def AddsNew (q : Program) (type : TypeId) (specs : Table String MemberSpec) : Prop :=
  ∀ member, some member ∈ (q.type type).properties.slots → ∀ entry ∈ specs,
    (q.symbol member).name ≠ entry.1

omit live lineage in
/-- With new names only, nothing is lost and nothing shown twice. -/
theorem propertiesWith_new {site : SiteId} {type : TypeId} {added : List SymbolId}
    {properties : List (Option SymbolId)} (found : propertiesWith p site type added = .ok properties)
    (whole : none ∉ (p.type type).properties.slots)
    (distinct : (p.type type).properties.slots.Nodup) (apart : added.Nodup)
    (new : ∀ symbol ∈ added, some symbol ∉ (p.type type).properties.slots)
    (named : ∀ symbol ∈ added, ∀ member, some member ∈ (p.type type).properties.slots →
      (p.symbol symbol).name ≠ (p.symbol member).name) :
    (p.type type).properties.slots ⊆ properties ∧ properties.Nodup := by
  obtain ⟨items, listed, found⟩ := of_except_bind_ok found
  obtain ⟨own, filtered, found⟩ := of_except_bind_ok found
  cases found
  rw [slots_of_each listed] at *
  have among := sublist_of_filterM filtered
  have kept (member : SymbolId) : member ∈ items.reduceOption.filter (fun prop =>
      !own.contains (some prop) && !added.any fun id => (p.symbol id).name == (p.symbol prop).name) ↔
      some member ∈ items ∧ some member ∉ own := by
    rw [List.mem_filter, List.reduceOption_mem_iff]
    refine and_congr_right fun held => ?_
    simp only [Bool.and_eq_true, Bool.not_eq_true', List.contains_eq_mem, decide_eq_false_iff_not,
      List.any_eq_false, beq_iff_eq]
    exact ⟨And.left, fun other => ⟨other, fun symbol listed => named symbol listed member held⟩⟩
  constructor
  · intro slot held
    cases slot with
    | none => exact absurd held whole
    | some member =>
        by_cases mine : some member ∈ own
        · exact List.mem_append_left _ mine
        · refine List.mem_append_right _ (List.mem_map_of_mem (List.mem_append_right _ ?_))
          exact (kept member).mpr ⟨held, mine⟩
  · refine List.nodup_append.mpr ⟨distinct.sublist among, ?_, ?_⟩
    · refine List.Nodup.map (fun _ _ same => Option.some.inj same) ?_
      refine List.nodup_append.mpr ⟨apart, ?_, ?_⟩
      · refine List.Nodup.filter _ (List.Nodup.filterMap ?_ distinct)
        intro a b member one other
        exact (Option.mem_def.mp one).trans (Option.mem_def.mp other).symm
      · rintro symbol held _ passed rfl
        exact new symbol held ((kept symbol).mp passed).1
    · rintro slot mine _ other rfl
      obtain ⟨member, listed, rfl⟩ := List.mem_map.mp other
      rcases List.mem_append.mp listed with held | passed
      · exact new member held (among.subset mine)
      · exact ((kept member).mp passed).2 mine

theorem descends_addMembers (traced : q.Traced) {target : Option TypeId}
    {specs : Table String MemberSpec} (parameters : Parameters q (memberParameters specs))
    (nominal : ∀ type, target = some type → (q.type type).isNominal = true)
    (new : ∀ type, target = some type → AddsNew q type specs) :
    (descending ages).Keeps q (addMembers target specs) fun _ _ => True := by
  refine Course.lift_bind lineage fun type found => ?_
  obtain rfl : target = some type := of_present found
  refine Course.ask_bind lineage fun declared asked => Course.lift_bind lineage fun site held => ?_
  obtain ⟨id, symbol, same, titled, first⟩ := first_of_declarationOf asked
  cases same
  rw [of_present held] at first
  have declared := nominal type rfl
  have new := new type rfl
  obtain ⟨⟨there, placed⟩, -⟩ := (live.symbols symbol).first site first
  have age := Nat.le_trans placed ((live.types type).symbol symbol titled).1.2
  obtain ⟨flags, plain, -⟩ := (live.types type).nominal declared
  apply Course.get_bind
  dsimp only
  refine descends_bind lineage (rests_members (Rests.refl q) (by split <;> rfl) there parameters)
    (quietly_members site _ specs) ?_
  rintro added r lineageR rests carries ⟨grown, apart⟩ -
  refine Course.ask_bind lineageR fun properties found => ?_
  have inside : type.index < q.types.size := by
    by_contra outside
    rw [q.type_of_size_le (Nat.le_of_not_lt outside)] at titled
    cases titled
  have stays := rests.type type inside
  have descends := lineageR.types type
  have isNominal : (r.type type).isNominal = true := stays.isNominal.trans declared
  have old (member : SymbolId) (shown : some member ∈ (r.type type).properties.slots) :
      some member ∈ (q.type type).properties.slots ∧ member.index < q.symbols.size := by
    rw [carries.properties] at shown
    obtain ⟨-, _, below, -⟩ := (lineage.types type).declared member shown
    exact ⟨shown, below.inside⟩
  obtain ⟨kept, distinct⟩ := propertiesWith_new found
    (fun gap => by
      obtain ⟨_, _, same, -⟩ := (traced.later carries).properties type none gap
      cases same)
    (descends.distinct isNominal) apart
    (fun symbol listed shown => Nat.not_lt_of_le (grown symbol listed).1.fresh (old symbol shown).2)
    (fun symbol listed member shown => by
      obtain ⟨-, entry, among, named⟩ := grown symbol listed
      obtain ⟨before, known⟩ := old member shown
      rw [named, (rests.symbol member known).name]
      exact (new member before entry among).symm)
  refine descends_after (setType_apply ..) (Course.pure ?_ True.intro)
  refine lineageR.modifyType type kept fun inside bears => ?_
  have record : (r.modifyType type ({ · with properties := some properties })).type type =
      { r.type type with properties := some properties } := by
    rw [type_modifyType, if_pos ⟨rfl, inside⟩]
  have same : (r.type type).Stays
      ((r.modifyType type ({ · with properties := some properties })).type type) := by
    rw [record]
    exact ⟨rfl, rfl, rfl⟩
  refine ⟨?_, ?_, ?_, ?_, ?_⟩
  · intro member shown
    refine ⟨(same.flags.trans stays.flags).trans flags, ?_⟩
    rw [record] at shown
    rcases of_propertiesWith found shown with before | listed
    · obtain ⟨-, parent, below, aged⟩ := descends.declared member before
      exact ⟨parent, (bears.declared _ _ below).1, aged⟩
    · exact ⟨site, (bears.declared _ _ (grown member listed).1.declared).1, age⟩
  · intro _ member shown
    rw [record] at shown
    rcases of_propertiesWith found shown with before | listed
    · exact descends.passes bears same.symbol isNominal before
    · have grown := (grown member listed).1
      obtain ⟨below, untargeted⟩ := bears.declared _ _ grown.declared
      refine Or.inl ⟨below.isOwn_iff.mpr ?_, untargeted.trans grown.untargeted⟩
      rw [same.symbol, stays.symbol, titled, firstDeclaration, Option.bind_some]
      refine bears.first symbol site ?_
      have known : symbol.index < q.symbols.size := ((live.types type).symbol symbol titled).1.1
      rw [carries.declarations symbol known, first]
  · intro _
    rw [record]
    exact distinct
  · exact fun _ => descends.placed bears same isNominal
  · intro reference
    rw [same.isReference, stays.isReference, TypeInfo.isReference, plain, Bool.and_false] at reference
    cases reference

end Steps

end Build

open Build Program

variable {manner : Manner} {ages : Ages} {now : Nat} {p : Program}

/-- Members are added under new names only. -/
def Call.AddsNew (call : Call) (p : Program) : Prop :=
  ∀ type specs, call = .addMembers (some type) specs → Build.AddsNew p type specs

def Call.addsNew (call : Call) (p : Program) : Bool :=
  match call with
  | .addMembers (some type) specs => (p.type type).properties.slots.all
      (·.all fun member => specs.all fun entry => (p.symbol member).name != entry.1)
  | _ => true

theorem Call.addsNew_of_addsNew {call : Call} {p : Program} (checked : call.addsNew p = true) :
    call.AddsNew p := by
  rintro type specs rfl member shown entry listed
  simp only [addsNew, List.all_eq_true] at checked
  have each := checked (some member) shown
  simp only [Option.all_some, List.all_eq_true, bne_iff_ne] at each
  exact each entry listed

theorem parameters_of_genuine (live : p.Live manner ages now) {params : List (Option TypeId)}
    (genuine : ∀ param, some param ∈ params → (p.type param).isTypeParameter = true) :
    Parameters p params := by
  intro param member
  obtain ⟨-, symbol, held, flagged⟩ := (live.types param).parameter (genuine param member)
  obtain ⟨place, first, kind⟩ := (live.symbols symbol).parameter flagged
  exact ⟨symbol, place, held, first, kind⟩

theorem lineage_call {call : Call} (live : p.Live manner ages p.types.size) (lineage : p.Lineage ages)
    (traced : p.Traced) (known : call.Known p) (disciplined : call.Disciplined p)
    (new : call.AddsNew p) : (descending ages).Keeps p call.step fun _ _ => True := by
  have given : Given p.types.size call.types := by
    intro type member
    exact known.types type (List.mem_append_left _ member)
  have generic : Parameters p call.typeParameters :=
    parameters_of_genuine live disciplined.typeParameters
  have calm {α : Type} {step : Build α} {told more : Program → α → Prop}
      (rests : (resting p).Keeps p step told) (quiet : Quietly p step more) :
      (descending ages).Keeps p (Functor.discard step) fun _ _ => True :=
    Course.discard (descends_quietly lineage rests quiet)
  have rests := Rests.refl p
  cases call with
  | literal value => exact calm (rests_literal rests value) (quietly_literal value)
  | bigintLiteral digits =>
      exact calm (rests_cached rests _ (minor_of_unnamed rfl rfl)) (quietly_cached (.bigint digits) rfl)
  | union types | intersection types | keyof operand | indexedAccess objectType indexType
  | conditional checkType extendsType trueType falseType | substitution baseType =>
      exact calm (rests_newPlain rests rfl) (quietly_newType rfl)
  | tuple elements => exact calm (rests_tuple rests elements) (quietly_tuple elements)
  | typeParameter name constraint default =>
      exact calm (rests_typeParameter rests name constraint default)
        (quietly_typeParameter name constraint default)
  | infer name => exact calm (rests_infer rests name) (quietly_infer name)
  | instantiate generic arguments => exact Course.discard (descends_instantiate live lineage traced given)
  | instantiateAlias aliased arguments =>
      exact Course.discard (descends_instantiateAlias live lineage given)
  | interface spec => exact Course.discard (descends_interface live lineage given generic)
  | classType spec => exact Course.discard (descends_classType live lineage given generic)
  | addMembers target specs =>
      refine Course.discard (descends_addMembers live lineage traced generic ?_ ?_)
      · rintro type rfl
        exact disciplined.extended type specs rfl
      · rintro type rfl
        exact new type specs rfl
  | aliasType header aliased typeParameters =>
      exact calm (rests_aliasType rests header aliased generic)
        (quietly_aliasType header aliased typeParameters)
  | enumeration spec => exact calm (rests_enumeration rests spec) (quietly_enumeration spec)
  | function header spec => exact calm (rests_function rests header generic) (quietly_function header spec)
  | functionType spec => exact calm (rests_functionType rests generic) (quietly_functionType spec)
  | constructorType parameters returns parent fileName =>
      exact calm (rests_constructorType rests parameters returns parent fileName)
        (quietly_constructorType parameters returns parent fileName)
  | callSignature spec => exact calm (rests_callSignature rests spec) (quietly_callSignature spec)
  | objectLiteral specs callSignatures stringIndex numberIndex =>
      exact Course.discard
        (descends_objectLiteral live lineage callSignatures stringIndex numberIndex generic)
  | openMapped key constraint optional =>
      exact calm (rests_openMapped rests key constraint optional)
        (quietly_openMapped key constraint optional)
  | closeMapped draft value =>
      exact calm (rests_closeMapped rests (known.draft draft value rfl) value)
        (quietly_closeMapped draft value)
  | variableOf header type initializer =>
      exact calm (rests_variableOf rests header type initializer)
        (quietly_variableOf header type initializer)
  | namespaceOf name fileName =>
      exact calm (rests_namespaceOf rests name fileName) (quietly_namespaceOf name fileName)
  | addExport symbol =>
      exact (descends_quietly lineage (rests_addExport rests symbol) (quietly_addExport symbol)).weaken
        fun _ _ _ _ _ => trivial
  | defaultExport target doc =>
      exact calm (rests_defaultExport rests target doc) (quietly_defaultExport target doc)
  | defaultFunction spec doc =>
      exact calm (rests_defaultFunction rests spec doc) (quietly_defaultFunction spec doc)
  | writtenType type parent =>
      exact calm (rests_writtenType rests type parent) (quietly_writtenType type parent)

/-- Between two calls the clock goes on, and nothing is any older. -/
theorem Program.Lineage.advance (lineage : p.Lineage ages) (live : p.Live manner ages now) :
    p.Lineage (ages.advance p) := by
  have same {site : SiteId} (inside : site.index < p.sites.size) :
      (ages.advance p).site site = ages.site site := (ages.agree_advance p).site site inside
  refine { lineage with types := fun type => ?_, places := fun declaration clause held site listed => ?_ }
  · refine { lineage.types type with declared := fun member held => ?_ }
    obtain ⟨flags, parent, declared, age⟩ := (lineage.types type).declared member held
    obtain ⟨place, first, kind, below, inside⟩ := declared
    exact ⟨flags, parent, ⟨place, first, kind, below, inside⟩, by rwa [same inside]⟩
  · have there : declaration.index < p.sites.size := by
      by_contra outside
      rw [p.site_of_size_le (Nat.le_of_not_lt outside)] at held
      cases held
    have inside : site.index < p.sites.size := by
      by_contra outside
      have kind := (live.sites declaration).heritage clause held site listed
      rw [p.site_of_size_le (Nat.le_of_not_lt outside)] at kind
      cases kind
    rw [same there, same inside]
    exact lineage.places declaration clause held site listed

theorem lineage_start (fileName : String) (lastId : Nat) : (start fileName lastId).Lineage ages := by
  have plain {p : Program} {t : TypeInfo} (flags : t.objectFlags = []) (empty : t.properties.slots = [])
      (lineage : p.Lineage ages) : (p.addType t).2.Lineage ages := by
    refine lineage.later ((Carries.refl p).addType empty) (Rests.addType p ⟨?_, fun reference => ?_⟩)
    · simp [TypeInfo.isNominal, TypeInfo.hasObjectFlag, flags]
    · simp [TypeInfo.isReference, TypeInfo.hasObjectFlag, flags] at reference
  have grown (items : List (TypeFlag × String)) (p : Program) (lineage : p.Lineage ages) :
      (items.foldl (fun p item =>
        (p.addType { flags := [item.1], intrinsicName := some item.2 }).2) p).Lineage ages := by
    induction items generalizing p with
    | nil => exact lineage
    | cons item rest ih => exact ih _ (plain rfl rfl lineage)
  apply plain rfl rfl
  apply grown
  have symbol (id : SymbolId) : (({ fileName, moduleSymbol := ⟨0⟩, lastId } : Program).addSymbol
      { name := fileName, flags := [.moduleKind] }).2.symbol id =
        if id.index = 0 then { name := fileName, flags := [.moduleKind], id := lastId + 1 }
        else default := by
    rw [symbol_addSymbol]
    rfl
  refine ⟨fun type => descends_of_minor minor_default rfl, fun _ _ held => ?_, fun _ _ _ held => ?_,
    fun id nominal => ?_, fun id inside => ?_, ?_, Nat.zero_lt_one⟩
  · cases held
  · cases held
  · rw [symbol] at nominal
    split at nominal <;> cases nominal
  · have first : id.index = 0 := Nat.lt_one_iff.mp inside
    rw [symbol, if_pos first]
    change ((lastId + 1 : Nat) : Int) ≠ 0
    omega
  · rw [symbol]
    rfl

/-- However a program is built, all types have their members from somewhere, as long as members are only
added to declared types and under new names. -/
theorem lineage_of_built (manner : Manner) {allowed : Call → Program → Prop}
    (built : Program.Built allowed p)
    (manners : ∀ call p, allowed call p → manner.Allows call p ∧ call.Disciplined p ∧ call.AddsNew p) :
    ∃ ages, p.Live manner ages p.types.size ∧ p.Lineage ages ∧ p.Traced := by
  induction built with
  | start fileName lastId =>
      exact ⟨_, live_start fileName lastId, lineage_start fileName lastId, traced_start fileName lastId⟩
  | call call _ known permitted ih =>
      obtain ⟨ages, live, lineage, traced⟩ := ih
      obtain ⟨allows, disciplined, new⟩ := manners call _ permitted
      have keeps := keeps_call live known allows
      have descends := (lineage_call live lineage traced known disciplined new).after rfl
      exact ⟨_, keeps.live.advance, descends.advance keeps.live, (traced_call traced call).after rfl⟩

end TypeAtlas
