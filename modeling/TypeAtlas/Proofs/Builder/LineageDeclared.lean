import TypeAtlas.Proofs.Builder.Lineage

/-!
Members and bases keep their places along the calls that give a declaration its bases, copy members for
an instantiation or declare something else than an interface or a class.
-/

namespace TypeAtlas

namespace Build

open Program

variable {α : Type} {base q r : Program}

section Steps

variable (rests : base.Rests q)
include rests

theorem rests_indexSignature (keyType : TypeId) (spec : Option IndexSpec) (parent : SiteId) :
    (resting base).Keeps q (indexSignature keyType spec parent) fun _ _ => True := by
  cases spec with
  | none => exact Course.pure rests trivial
  | some spec =>
      refine Course.bind (rests_place rests rfl) fun site r restsR _ _ => ?_
      have made {t : Program} (restsT : base.Rests t) (info : IndexInfo) :
          (resting base).Keeps t (some <$> newIndexInfo info) fun _ _ => True :=
        Course.map _ (rests_newIndexInfo restsT info) fun _ _ _ => trivial
      split
      · refine Course.bind (rests_place restsR rfl) fun key t restsT _ _ => ?_
        refine Course.bind (rests_tell restsT site fun _ => ⟨rfl, rfl, rfl, rfl⟩) ?_
        exact fun _ u restsU _ _ => made restsU _
      · exact made restsR _

omit rests in
structure Standing (q : Program) (type : Option TypeId) (site : SiteId) : Prop where
  kind : (q.site site).kind = .expressionWithTypeArguments
  stands : (q.site site).answers.type = some type

omit rests in
theorem Standing.last {type : Option TypeId} {site : SiteId} (standing : Standing q type site)
    (grows : q.Lasts r) : Standing r type site := by
  have inside : site.index < q.sites.size := by
    by_contra outside
    have kind := standing.kind
    rw [q.site_of_size_le (Nat.le_of_not_lt outside)] at kind
    cases kind
  have rest := grows.site site inside
  exact ⟨rest.kind.trans standing.kind, rest.base standing.kind type standing.stands⟩

theorem rests_heritageSite (parent : SiteId) (type : Option TypeId) :
    (resting base).Keeps q (heritageSite parent type) fun r site =>
      Standing r type site ∧ q.sites.size ≤ site.index := by
  apply Course.get_bind
  refine Course.lift_bind rests fun id _ => ?_
  refine Course.bind (rests_newSite rests rfl) ?_
  rintro _ _ restsR - ⟨rfl, rfl⟩
  refine Course.bind (rests_newSite restsR rfl) ?_
  rintro _ r restsR - ⟨made, rfl⟩
  have record : r.site ⟨q.sites.size⟩ =
      { kind := .expressionWithTypeArguments, parent := some parent } := by
    rw [made, site_addSite, if_neg (by simp [addSite]), site_addSite, if_pos rfl]
  have inside : q.sites.size < r.sites.size := by
    simp only [made, addSite, Array.size_push]
    omega
  refine Course.bind (rests_modify restsR (Rests.modifySite ⟨rfl, fun _ => rfl, fun _ _ held => held⟩ rfl)) ?_
  intro _ t restsT _ told
  have there : q.sites.size < t.sites.size := by
    rw [told]
    exact Nat.lt_of_lt_of_eq inside Array.size_modify.symm
  have kept : (t.site ⟨q.sites.size⟩).kind = .expressionWithTypeArguments ∧
      (t.site ⟨q.sites.size⟩).answers.type = none := by
    rw [told, site_modifySite, if_pos ⟨rfl, inside⟩, record]
    exact ⟨rfl, rfl⟩
  refine Course.bind (rests_modify restsT (Rests.siteAnswers _ _ ?_)) ?_
  · intro site same _ answer known
    cases same
    rw [kept.2] at known
    cases known
  · rintro _ _ restsU - rfl
    have written : (t.modifySiteAnswers ({ · with type := some type }) (some ⟨q.sites.size⟩)).site
        ⟨q.sites.size⟩ = { t.site ⟨q.sites.size⟩ with
          answers := { (t.site ⟨q.sites.size⟩).answers with type := some type } } :=
      (site_modifySite ..).trans (if_pos ⟨rfl, there⟩)
    refine Course.pure restsU ⟨⟨?_, ?_⟩, Nat.le_refl _⟩
    · rw [written]
      exact kept.1
    · rw [written]

theorem rests_heritageSites (parent : SiteId) (types : List (Option TypeId)) :
    (resting base).Keeps q (types.mapM (heritageSite parent)) fun r sites =>
      (∀ type ∈ types, ∃ site ∈ sites, Standing r type site) ∧
        ∀ site ∈ sites, q.sites.size ≤ site.index := by
  induction types generalizing q with
  | nil => exact Course.pure rests ⟨by simp, by simp⟩
  | cons type rest ih =>
      rw [List.mapM_cons]
      refine Course.bind (rests_heritageSite rests parent type) ?_
      rintro first r restsR growsR ⟨standing, fresh⟩
      refine Course.bind (ih restsR) ?_
      rintro others t restsT growsT ⟨all, new⟩
      refine Course.pure restsT ⟨fun other held => ?_, fun site held => ?_⟩
      · rcases List.mem_cons.mp held with rfl | held
        · exact ⟨first, List.mem_cons_self .., standing.last growsT.toLasts⟩
        · obtain ⟨site, listed, stands⟩ := all other held
          exact ⟨site, List.mem_cons_of_mem _ listed, stands⟩
      · rcases List.mem_cons.mp held with rfl | held
        · exact fresh
        · exact Nat.le_trans growsR.sites (new site held)

structure Copied (q r : Program) (slot : Option SymbolId) (symbol : SymbolId) : Prop where
  points : (r.symbol symbol).target = slot
  inside : symbol.index < r.symbols.size
  declared : ∀ member, slot = some member → ∀ parent, q.DeclaredBelow member parent →
    r.DeclaredBelow symbol parent

omit rests in
theorem Copied.later {slot : Option SymbolId} {symbol : SymbolId} {t : Program}
    (copied : Copied q r slot symbol) (grows : r.Rests t) : Copied q t slot symbol where
  points := (grows.symbol symbol copied.inside).target.trans copied.points
  inside := Nat.lt_of_lt_of_le copied.inside grows.symbols
  declared member same parent held := (copied.declared member same parent held).last grows.toLasts

omit rests in
theorem Copied.since {slot : Option SymbolId} {symbol : SymbolId} {t : Program}
    (copied : Copied r t slot symbol) (grows : q.Rests r) : Copied q t slot symbol where
  points := copied.points
  inside := copied.inside
  declared member same parent held := copied.declared member same parent (held.last grows.toLasts)

theorem rests_instantiateMember (mapping : Mapping) (slot : Option SymbolId) :
    (resting base).Keeps q (instantiateMember mapping slot) fun r symbol =>
      slot ≠ none ∧ Copied q r slot symbol := by
  apply Course.get_bind
  refine Course.lift_bind rests fun member found => ?_
  obtain rfl := of_present found
  refine Course.bind (rests_newSymbol rests rfl) ?_
  rintro _ r restsR grows ⟨told, rfl⟩
  have made : r.symbol ⟨q.symbols.size⟩ =
      { name := (q.symbol member).name, flags := (q.symbol member).flags,
        declarations := (q.symbol member).declarations,
        valueDeclaration := (q.symbol member).valueDeclaration,
        documentation := (q.symbol member).documentation, target := some member,
        id := q.lastId + 1 } := by
    rw [told]
    exact q.addSymbol_made _
  have copied : Copied q r (some member) ⟨q.symbols.size⟩ := by
    refine ⟨by rw [made], by simp [told, addSymbol, addNumberedSymbol], ?_⟩
    rintro _ ⟨⟩ parent declared
    have kept : r.symbol member = q.symbol member := by
      rw [told, symbol_addSymbol, if_neg (Nat.ne_of_lt declared.inside)]
    obtain ⟨place, first, kind, below, inner⟩ := declared.last grows.toLasts
    refine ⟨place, ?_, kind, below, inner⟩
    rw [firstDeclaration, Option.bind_some] at first ⊢
    rw [made, ← first, kept]
  dsimp only
  split
  · refine Course.bind (rests_bindSymbol restsR _ _) fun _ t restsT growsT _ => ?_
    exact Course.pure restsT ⟨Option.some_ne_none member, copied.later growsT⟩
  · exact Course.pure restsR ⟨Option.some_ne_none member, copied⟩

theorem rests_instantiateMembers (mapping : Mapping) (slots : List (Option SymbolId)) :
    (resting base).Keeps q (slots.mapM (instantiateMember mapping)) fun r symbols =>
      ∀ symbol ∈ symbols, ∃ slot ∈ slots, slot ≠ none ∧ Copied q r slot symbol := by
  induction slots generalizing q with
  | nil => exact Course.pure rests (by simp)
  | cons slot rest ih =>
      rw [List.mapM_cons]
      refine Course.bind (rests_instantiateMember rests mapping slot) ?_
      rintro first r restsR growsR ⟨present, copied⟩
      refine Course.bind (ih restsR) fun others t restsT growsT all => ?_
      refine Course.pure restsT fun symbol held => ?_
      rcases List.mem_cons.mp held with rfl | held
      · exact ⟨slot, List.mem_cons_self .., present, copied.later growsT⟩
      · obtain ⟨other, listed, given, further⟩ := all symbol held
        exact ⟨other, List.mem_cons_of_mem _ listed, given, further.since growsR⟩

theorem rests_instantiateIndex (mapping : Mapping) (index : Option IndexId) :
    (resting base).Keeps q (instantiateIndex mapping index) fun _ _ => True := by
  cases index with
  | none => exact Course.pure rests trivial
  | some id =>
      apply Course.get_bind
      dsimp only
      split
      · exact Course.pure rests trivial
      · exact Course.map _ (rests_newIndexInfo rests _) fun _ _ _ => trivial

theorem rests_stand (symbol : SymbolId) {site : SiteId} (vacant : Vacant q site) (type : TypeId)
    (exported : Bool) :
    (resting base).Keeps q (do
      bindDeclared symbol type
      bindSite site type
      exportIf exported symbol
      pure type) fun _ _ => True := by
  refine Course.bind (rests_bindDeclared rests _ _) fun _ r restsR grows _ => ?_
  refine Course.bind (rests_bindVacant restsR (vacant.later grows) _) fun _ t restsT _ _ => ?_
  refine Course.bind (rests_exportIf restsT _ _) fun _ u restsU _ _ => ?_
  exact Course.pure restsU trivial

theorem rests_staticMember {site : SiteId} (inner : site.index < q.sites.size) (name : String)
    {spec : MemberSpec} (parameters : Parameters q spec.typeParameters) :
    (resting base).Keeps q (staticMember site name spec)
      fun r symbol => Grown q r site symbol := by
  refine Course.bind (rests_member rests rfl inner name parameters) fun symbol r restsR _ made => ?_
  have grown := made.1
  apply Course.get_bind
  split
  · rename_i declaration _
    refine Course.bind (rests_tell restsR declaration fun _ => ⟨rfl, rfl, rfl, rfl⟩) ?_
    exact fun _ t restsT growsT _ => Course.pure restsT (grown.later growsT)
  · exact Course.pure restsR grown

theorem rests_statics {site : SiteId} (inner : site.index < q.sites.size)
    {specs : Table String MemberSpec} (parameters : Parameters q (memberParameters specs)) :
    (resting base).Keeps q (specs.mapM fun (name, spec) => staticMember site name spec)
      fun r symbols => ∀ symbol ∈ symbols, Grown q r site symbol := by
  refine Course.mapM (fun _ _ _ grows grown => grown.later grows) rests fun entry member r restsR grows => ?_
  refine (rests_staticMember restsR (Nat.lt_of_lt_of_le inner grows.sites) entry.1
    ((parameters.mono fun _ held => ?_).later grows)).weaken fun _ _ _ _ grown => grown.since grows
  exact List.mem_flatMap.mpr ⟨entry, member, held⟩

theorem rests_constructorSite (classSite : SiteId) (instanceType : TypeId)
    (parameters : List ParamSpec) :
    (resting base).Keeps q (constructorSite classSite instanceType parameters) fun _ _ => True := by
  refine Course.bind (rests_place rests rfl) fun site r restsR _ _ => ?_
  refine Course.bind (rests_addParameters restsR _ _) fun params t restsT _ _ => ?_
  refine Course.bind (rests_newSignature restsT _) fun signature u restsU _ _ => ?_
  refine Course.bind (rests_bindSignature restsU _ _) fun _ v restsV _ _ => ?_
  exact Course.pure restsV trivial

theorem rests_aliasType (header : Header) (aliased : Option TypeId)
    {typeParameters : List (Option TypeId)} (parameters : Parameters q typeParameters) :
    (resting base).Keeps q (aliasType header aliased typeParameters) fun _ _ => True := by
  refine Course.bind (rests_declare rests _ _ _ _ _) ?_
  rintro ⟨symbol, site⟩ r restsR grows ⟨seated, -⟩
  refine Course.bind (rests_attachTypeParameters restsR site (parameters.later grows)) ?_
  intro _ t restsT growsT _
  refine Course.bind (rests_writtenType restsT _ _) fun written u restsU growsU _ => ?_
  refine Course.bind (rests_tell restsU site fun _ => ⟨rfl, rfl, rfl, rfl⟩) fun _ v restsV growsV _ => ?_
  have seated := seated.later ((growsT.trans growsU).trans growsV)
  apply Course.get_bind
  refine Course.lift_bind restsV fun type _ => ?_
  dsimp only
  split
  · refine Course.bind (rests_setType restsV type fun _ => ⟨⟨rfl, rfl, rfl⟩, rfl⟩) ?_
    exact fun _ w restsW growsW _ =>
      rests_stand restsW symbol ((seated.later growsW).vacant SiteKind.noConfusion) type _
  · exact rests_stand restsV symbol (seated.vacant SiteKind.noConfusion) type _

/-- A type that is no object is neither declared nor made from something that is. -/
theorem rests_newPlain {t : TypeInfo} (plain : t.objectFlags = []) :
    (resting base).Keeps q (newType t) fun _ _ => True := by
  refine rests_newMinor rests ⟨?_, ?_⟩
  · simp [TypeInfo.isNominal, TypeInfo.hasObjectFlag, plain]
  · intro reference
    simp [TypeInfo.isReference, TypeInfo.hasObjectFlag, plain] at reference

theorem rests_enumMember (site : SiteId) (docs : Table String String) (name : String)
    (value : Option Literal) :
    (resting base).Keeps q (enumMember site docs name value) fun _ _ => True := by
  refine Course.bind (rests_declare rests _ _ _ _ _) ?_
  rintro ⟨symbol, place⟩ r restsR - ⟨seated, -⟩
  refine Course.bind (rests_move restsR _ (by rw [seated.kind]; rfl)) fun _ t restsT _ _ => ?_
  exact rests_newPlain restsT rfl

theorem rests_enumeration (spec : EnumSpec) :
    (resting base).Keeps q (enumeration spec) fun _ _ => True := by
  refine Course.bind (rests_declare rests _ _ _ _ _) ?_
  rintro ⟨symbol, site⟩ r restsR - ⟨seated, -⟩
  refine Course.bind (Course.mapM (fun _ _ _ _ known => known) restsR fun item _ t restsT _ =>
    rests_enumMember restsT site spec.memberDocs item.1 item.2) fun types t restsT growsT _ => ?_
  refine Course.bind (rests_newPlain restsT rfl) fun type u restsU growsU _ => ?_
  exact rests_stand restsU symbol ((seated.later (growsT.trans growsU)).vacant SiteKind.noConfusion)
    type _

theorem rests_setValue {symbol : SymbolId} (empty : (q.symbol symbol).valueDeclaration = none)
    (apart : (q.symbol symbol).hasFlag .prototype = false) (value : Option SiteId) :
    (resting base).Keeps q (setSymbol symbol ({ · with valueDeclaration := value }))
      fun _ _ => True := by
  refine rests_setSymbol rests symbol ⟨rfl, rfl, rfl, fun _ => rfl, fun given => ?_⟩ rfl fun _ => rfl
  rw [empty, apart] at given
  simp at given

theorem rests_function (header : Header) {spec : CallSpec}
    (parameters : Parameters q spec.typeParameters) :
    (resting base).Keeps q (function header spec) fun _ _ => True := by
  refine Course.bind (rests_declare rests _ _ _ _ _) ?_
  rintro ⟨symbol, site⟩ r restsR growsR ⟨seated, -, empty⟩
  refine Course.bind (rests_setValue restsR empty (by rw [Symbol.hasFlag, seated.flags]; rfl) _) ?_
  intro _ t restsT growsT _
  refine Course.bind (rests_callable restsT symbol ((seated.later growsT).vacant SiteKind.noConfusion)
    _ _ (parameters.later (growsR.trans growsT))) fun type u restsU _ _ => ?_
  refine Course.bind (rests_bindSymbol restsU _ _) fun _ v restsV _ _ => ?_
  refine Course.bind (rests_exportIf restsV _ _) fun _ w restsW _ _ => ?_
  exact Course.pure restsW trivial

theorem rests_functionType {spec : CallSpec} (parameters : Parameters q spec.typeParameters) :
    (resting base).Keeps q (functionType spec) fun _ _ => True := by
  refine Course.bind (rests_declare rests _ _ _ _ _) ?_
  rintro ⟨symbol, site⟩ r restsR growsR ⟨seated, -⟩
  exact rests_callable restsR symbol (seated.vacant SiteKind.noConfusion) _ _
    (parameters.later growsR)

theorem rests_constructorType (parameters : List ParamSpec) (returns : Option TypeId)
    (parent : Option SiteId) (fileName : Option String) :
    (resting base).Keeps q (constructorType parameters returns parent fileName) fun _ _ => True := by
  refine Course.bind (rests_declare rests _ _ _ _ _) ?_
  rintro ⟨symbol, site⟩ r restsR growsR ⟨seated, -⟩
  have finish {t : Program} (restsT : base.Rests t) (grows : r.Rests t) : (resting base).Keeps t (do
      let params ← addParameters site parameters
      let signature ← newSignature { declaration := some site, parameters := Slots.of params, returns }
      bindSignature site signature
      let type ← newType
        { flags := [.object], objectFlags := [.anonymous], symbol := some symbol,
          constructSignatures := Slots.of [signature] }
      bindSite site type
      pure type) fun _ _ => True := by
    refine Course.bind (rests_addParameters restsT _ _) fun params u restsU growsU _ => ?_
    refine Course.bind (rests_newSignature restsU _) fun signature v restsV growsV _ => ?_
    refine Course.bind (rests_bindSignature restsV _ _) fun _ w restsW growsW _ => ?_
    refine Course.bind (rests_newMinor restsW ⟨rfl, fun reference => by cases reference⟩) ?_
    intro type x restsX growsX _
    have since := ((grows.trans growsU).trans growsV).trans (growsW.trans growsX)
    refine Course.bind (rests_bindVacant restsX ((seated.later since).vacant SiteKind.noConfusion) _) ?_
    exact fun _ y restsY _ _ => Course.pure restsY trivial
  dsimp only
  split
  · refine Course.bind (rests_move restsR _ (by rw [seated.kind]; rfl)) ?_
    exact fun _ t restsT grows _ => finish restsT grows
  · exact finish restsR (Rests.refl r)

theorem rests_callSignature (spec : CallSpec) :
    (resting base).Keeps q (callSignature spec) fun _ _ => True := by
  refine Course.bind (rests_place rests rfl) fun site r restsR _ _ => ?_
  refine Course.bind (rests_addParameters restsR _ _) fun params t restsT _ _ => ?_
  refine Course.bind (rests_newSignature restsT _) fun signature u restsU _ _ => ?_
  refine Course.bind (rests_bindSignature restsU _ _) fun _ v restsV _ _ => ?_
  exact Course.pure restsV trivial

theorem rests_openMapped (key : String) (constraint : Option TypeId) (optional : Bool) :
    (resting base).Keeps q (openMapped key constraint optional) fun _ _ => True := by
  refine Course.bind (rests_declare rests _ _ _ _ _) ?_
  rintro ⟨symbol, site⟩ r restsR - -
  refine Course.bind (rests_tell restsR site fun _ => ⟨rfl, rfl, rfl, rfl⟩) fun _ t restsT _ _ => ?_
  refine Course.bind (rests_typeParameter restsT _ _ _) fun keyType u restsU _ known => ?_
  refine Course.ask_bind restsU fun declared asked => Course.lift_bind restsU fun keySite found => ?_
  obtain ⟨id, symbol, same, held, first⟩ := first_of_declarationOf asked
  cases same
  obtain ⟨other, place, titled, declares, kind⟩ := known keyType (List.mem_singleton.mpr rfl)
  rw [held] at titled
  cases titled
  rw [first, of_present found] at declares
  cases declares
  refine Course.bind (rests_move restsU site (by rw [kind]; rfl)) fun _ v restsV _ _ => ?_
  refine Course.bind (rests_tell restsV site fun _ => ⟨rfl, rfl, rfl, rfl⟩) fun _ w restsW _ _ => ?_
  exact Course.pure restsW trivial

theorem rests_closeMapped {draft : MappedDraft} (opened : draft.Open q) (value : Option TypeId) :
    (resting base).Keeps q (closeMapped draft value) fun _ _ => True := by
  have vacant : Vacant q draft.site := by
    refine ⟨?_, by rw [opened.kind]; exact SiteKind.noConfusion⟩
    by_contra outside
    have kind := opened.kind
    rw [q.site_of_size_le (Nat.le_of_not_lt outside)] at kind
    cases kind
  refine Course.bind (rests_writtenType rests _ _) fun written r restsR growsR _ => ?_
  refine Course.bind (rests_tell restsR draft.site fun _ => ⟨rfl, rfl, rfl, rfl⟩) ?_
  intro _ t restsT growsT _
  refine Course.bind (rests_newMinor restsT ⟨rfl, fun reference => by cases reference⟩) ?_
  intro type u restsU growsU _
  refine Course.bind (rests_bindVacant restsU
    (((vacant.later growsR).later growsT).later growsU) _) fun _ v restsV _ _ => ?_
  exact Course.pure restsV trivial

theorem rests_placingInitializer (initializer : Option TypeId) (site : SiteId) {rest : Build α}
    {told : Program → α → Prop}
    (quiet : ∀ r, base.Rests r → q.Rests r → (resting base).Keeps r rest told) :
    (resting base).Keeps q (placingInitializer initializer site rest) told := by
  cases initializer with
  | none => exact quiet q rests (Rests.refl q)
  | some value =>
      refine Course.bind (rests_vacancy rests rfl SiteKind.noConfusion) ?_
      intro expression r restsR growsR vacant
      refine Course.bind (rests_tell restsR site fun _ => ⟨rfl, rfl, rfl, rfl⟩) ?_
      intro _ t restsT growsT _
      refine Course.bind (rests_bindVacant restsT (vacant.later growsT) _) fun _ u restsU growsU _ => ?_
      exact quiet u restsU ((growsR.trans growsT).trans growsU)

theorem rests_bindingValue (value : Option TypeId) (symbol : SymbolId) {site : SiteId}
    (vacant : Vacant q site) {rest : Build α} {told : Program → α → Prop}
    (quiet : ∀ r, base.Rests r → q.Rests r → (resting base).Keeps r rest told) :
    (resting base).Keeps q (bindingValue value symbol site rest) told := by
  cases value with
  | none => exact quiet q rests (Rests.refl q)
  | some type =>
      refine Course.bind (rests_bindSymbol rests _ _) fun _ r restsR growsR _ => ?_
      refine Course.bind (rests_bindVacant restsR (vacant.later growsR) _) fun _ t restsT growsT _ => ?_
      exact quiet t restsT (growsR.trans growsT)

theorem rests_variableOf (header : Header) (type initializer : Option TypeId) :
    (resting base).Keeps q (variableOf header type initializer) fun _ _ => True := by
  refine Course.bind (rests_declare rests _ _ _ _ _) ?_
  rintro ⟨symbol, site⟩ r restsR growsR ⟨seated, -, empty⟩
  refine Course.bind (rests_setValue restsR empty (by rw [Symbol.hasFlag, seated.flags]; rfl) _) ?_
  intro _ t restsT growsT _
  have rest {u : Program} (restsU : base.Rests u) (grows : r.Rests u) :
      (resting base).Keeps u (placingInitializer initializer site <|
        bindingValue (type <|> initializer) symbol site do
          exportIf header.exported symbol
          pure symbol) fun _ _ => True := by
    refine rests_placingInitializer restsU _ _ fun v restsV growsV => ?_
    have vacant := (seated.later (grows.trans growsV)).vacant SiteKind.noConfusion
    refine rests_bindingValue restsV _ _ vacant fun w restsW _ => ?_
    exact Course.bind (rests_exportIf restsW _ _) fun _ _ restsX _ _ => Course.pure restsX trivial
  cases type with
  | none => exact rest restsT growsT
  | some annotation =>
      refine Course.bind (rests_writtenType restsT _ _) fun written u restsU growsU _ => ?_
      refine Course.bind (rests_tell restsU site fun _ => ⟨rfl, rfl, rfl, rfl⟩) ?_
      exact fun _ v restsV growsV _ => rest restsV ((growsT.trans growsU).trans growsV)

theorem rests_namespaceOf (name : String) (fileName : Option String) :
    (resting base).Keeps q (namespaceOf name fileName) fun _ _ => True :=
  Course.bind (rests_declare rests _ _ _ _ _) fun _ _ restsR _ _ => Course.pure restsR trivial

theorem rests_valueType (symbol : SymbolId) :
    (resting base).Keeps q (valueType symbol) fun _ _ => True := by
  apply Course.get_bind
  dsimp only
  split
  · exact Course.ask rests fun _ _ => trivial
  · split
    · exact Course.ask rests fun _ _ => trivial
    · exact Course.lift_bind rests fun _ _ => Course.ask rests fun _ _ => trivial

theorem rests_defaultExport (target : DefaultTarget) (doc : Option String) :
    (resting base).Keeps q (defaultExport target doc) fun _ _ => True := by
  refine Course.bind (rests_newSymbol rests rfl) ?_
  rintro _ r restsR - ⟨made, rfl⟩
  apply Course.get_bind
  refine Course.bind (rests_source restsR _) fun parent t restsT _ same => ?_
  refine Course.bind (rests_newSite restsT rfl) ?_
  rintro site u restsU - ⟨added, -⟩
  -- the symbol gets its declaration only now, and had none before
  have undeclared : (u.symbol ⟨q.symbols.size⟩).declarations = some [] := by
    have symbols : u.symbols = r.symbols := by
      rw [added, ← same]
      rfl
    rw [symbol_of_same symbols, made, q.addSymbol_made]
  refine Course.bind (rests_setSymbol restsU _ ⟨rfl, rfl, rfl,
    fun given => absurd undeclared given, fun _ => rfl⟩ rfl fun _ => rfl) fun _ v restsV _ _ => ?_
  have finish {w : Program} (restsW : base.Rests w) {expression : SiteId}
      (vacant : Vacant w expression) (value : Option TypeId) : (resting base).Keeps w (do
        bindSite expression value
        pushExport ⟨q.symbols.size⟩
        pure (⟨q.symbols.size⟩ : SymbolId)) fun _ _ => True := by
    refine Course.bind (rests_bindVacant restsW vacant _) fun _ x restsX _ _ => ?_
    refine Course.bind (rests_pushExport restsX _) fun _ y restsY _ _ => ?_
    exact Course.pure restsY trivial
  cases target with
  | symbol named =>
      apply Course.get_bind
      refine Course.bind (rests_vacancy restsV rfl SiteKind.noConfusion) ?_
      intro expression w restsW _ vacant
      refine Course.bind (rests_tell restsW site fun _ => ⟨rfl, rfl, rfl, rfl⟩) ?_
      intro _ x restsX growsX _
      refine Course.bind (rests_valueType restsX _) fun value y restsY growsY _ => ?_
      exact finish restsY ((vacant.later growsX).later growsY) value
  | type value =>
      refine Course.bind (rests_vacancy restsV rfl SiteKind.noConfusion) ?_
      intro expression w restsW _ vacant
      refine Course.bind (rests_tell restsW site fun _ => ⟨rfl, rfl, rfl, rfl⟩) ?_
      exact fun _ x restsX growsX _ => finish restsX (vacant.later growsX) value

theorem rests_defaultFunction (spec : CallSpec) (doc : Option String) :
    (resting base).Keeps q (defaultFunction spec doc) fun _ _ => True := by
  refine Course.bind (rests_declare rests _ _ _ _ _) ?_
  rintro ⟨symbol, site⟩ r restsR - ⟨seated, -, empty⟩
  refine Course.bind (rests_setValue restsR empty (by rw [Symbol.hasFlag, seated.flags]; rfl) _) ?_
  intro _ t restsT growsT _
  refine Course.bind (rests_callable restsT symbol ((seated.later growsT).vacant SiteKind.noConfusion)
    _ _ fun _ member => absurd member List.not_mem_nil) fun type u restsU _ _ => ?_
  refine Course.bind (rests_bindSymbol restsU _ _) fun _ v restsV _ _ => ?_
  refine Course.bind (rests_pushExport restsV _) fun _ w restsW _ _ => ?_
  exact Course.pure restsW trivial

end Steps

end Build

end TypeAtlas
