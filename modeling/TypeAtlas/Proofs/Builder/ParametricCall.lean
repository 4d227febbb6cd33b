import TypeAtlas.Proofs.Builder.Parametric

/-!
Type parameters stay listed at their declarations along the calls that declare something generic, and
along every call.
-/

namespace TypeAtlas

namespace Build

open Program

variable {bound : Nat} {q : Program} (guarded : q.Guarded bound)
include guarded

/-- What a declared type and its place are before it is told that the type stands there: the place lists
the type parameters, and goes on doing so while the rest of the type is declared. -/
structure Listed (q : Program) (site : SiteId) (type : TypeId) : Prop where
  inside : site.index < q.sites.size
  declared : q.FirstAt type site
  listed : List.Forall₂ q.Declares? (q.type type).typeParameters.slots (q.site site).typeParameters.slots

omit guarded in
theorem Listed.later {r : Program} {site : SiteId} {type : TypeId} (listed : Listed q site type)
    (framed : q.Framed q.sites.size r) : Listed r site type := by
  refine ⟨Nat.lt_of_lt_of_le listed.inside framed.sites, listed.declared.carry framed, ?_⟩
  rw [(framed.type type listed.declared.inside).2, framed.site site listed.inside]
  exact listed.listed.imp fun _ _ declares => declares.carry framed

theorem guards_rest {α : Type} {step : Build α} {site : SiteId} {type : TypeId}
    (listed : Listed q site type)
    (keeps : q.Guarded q.sites.size → (guarding q.sites.size).Keeps q step fun _ _ => True) :
    (guarding bound).Keeps q step fun r _ => Listed r site type :=
  ((keeps ⟨guarded.parametric, Nat.le_refl _⟩).below guarded.room).weaken
    fun _ _ _ _ told => listed.later told.1

theorem guards_stand {site : SiteId} {type : TypeId} (listed : Listed q site type) (symbol : SymbolId)
    (exported : Bool) :
    (guarding bound).Keeps q
      (do
        bindDeclared symbol type
        bindSite site type
        exportIf exported symbol
        pure type)
      fun _ _ => True := by
  refine Course.bind (guards_rest guarded listed fun guarded =>
    (guards_bindDeclared guarded _ _).weaken fun _ _ _ _ _ => trivial) fun _ r guardedR _ listed => ?_
  refine Course.bind (guards_bindHead guardedR listed.declared fun _ => listed.listed) ?_
  intro _ t guardedT _ _
  refine Course.bind (guards_exportIf guardedT _ _) fun _ u guardedU _ _ => ?_
  exact Course.pure guardedU trivial

theorem guards_head {α : Type} {kind : SiteKind} {symbol : SymbolId} {site : SiteId}
    (begun : NewHead bound q kind symbol site) {t : TypeInfo} (known : t.Known)
    (held : t.symbol = some symbol) {params : List (Option TypeId)}
    (given : t.typeParameters = someUnlessEmpty params) {next : TypeId → Build α}
    {told : Program → α → Prop}
    (rest : ∀ r type, r.Guarded bound → Listed r site type → (guarding bound).Keeps r (next type) told) :
    (guarding bound).Keeps q
      (do
        let type ← newType t
        attachTypeParameters site params
        next type)
      told := by
  refine Course.bind (guards_newType guarded known) ?_
  rintro type r guardedR first ⟨-, sites, made⟩
  have there := Nat.lt_of_lt_of_le begun.there first.sites
  have same : r.site site = q.site site := by rw [Program.site, sites, Program.site]
  have declared : r.FirstAt type site :=
    begun.declares first ((congrArg TypeInfo.symbol made).trans held)
  refine Course.bind (guards_attachTypeParameters guardedR begun.outside there
    (fun _ => by rw [same, begun.unanswered]) params) ?_
  rintro _ u guardedU second ⟨slots, listed, all⟩
  refine rest u type guardedU ⟨Nat.lt_of_lt_of_le there second.sites, declared.carry second, ?_⟩
  rw [listed, same, begun.empty, List.nil_append, (second.type type declared.inside).2, made]
  change List.Forall₂ u.Declares? t.typeParameters.slots slots
  rw [given, slots_someUnlessEmpty]
  exact all

omit guarded in
theorem NewHead.later {r : Program} {kind : SiteKind} {symbol : SymbolId} {site : SiteId}
    (begun : NewHead bound q kind symbol site) (framed : q.Framed bound r) (sites : r.sites = q.sites) :
    NewHead bound r kind symbol site := by
  have same : r.site site = q.site site := by rw [Program.site, sites, Program.site]
  refine ⟨begun.outside, sites ▸ begun.there, by rw [same, begun.kind], by rw [same, begun.unanswered],
    by rw [same, begun.empty], ?_⟩
  rw [framed.symbol symbol (by rw [begun.declarations]; rintro ⟨⟩), begun.declarations]

theorem guards_interface (spec : InterfaceSpec) :
    (guarding bound).Keeps q (interface spec) fun _ _ => True := by
  refine Course.bind (guards_declare guarded _ _ _ _ _) ?_
  rintro ⟨symbol, site⟩ r guardedR - begun
  refine Course.bind (guards_touchSymbol guardedR symbol fun _ => rfl) ?_
  intro _ t guardedT framed sites
  refine guards_head guardedT (begun.later framed sites) ⟨fun _ => rfl, fun _ => rfl, Slots.full_of []⟩
    rfl rfl ?_
  intro u type guardedU listed
  refine Course.bind (guards_rest guardedU listed fun guarded =>
    guards_populate guarded _ _ _ _ rfl _ _) fun _ v guardedV _ listed => ?_
  refine Course.bind (guards_rest guardedV listed fun guarded =>
    guards_touchType guarded type (fun _ => rfl) (fun _ => rfl) (fun _ => rfl) (fun _ => rfl)
      (fun _ => rfl) (fun _ => rfl) fun _ => id) fun _ w guardedW _ listed => ?_
  refine Course.bind (guards_rest guardedW listed fun guarded =>
    guards_addHeritage guarded _ _ _) fun _ x guardedX _ listed => ?_
  exact guards_stand guardedX listed symbol _

theorem guards_staticMember (site : SiteId) (name : String) (spec : MemberSpec) :
    (guarding bound).Keeps q (staticMember site name spec) fun _ _ => True := by
  refine Course.bind (guards_member guarded site rfl name spec) fun symbol r guardedR _ _ => ?_
  apply Course.get_bind
  split
  · rename_i declaration _
    refine Course.bind (guards_touchSite guardedR declaration fun _ => ⟨rfl, rfl, rfl, rfl⟩) ?_
    exact fun _ t guardedT _ _ => Course.pure guardedT trivial
  · exact Course.pure guardedR trivial

theorem guards_constructorSite (classSite : SiteId) (instanceType : TypeId)
    (parameters : List ParamSpec) :
    (guarding bound).Keeps q (constructorSite classSite instanceType parameters) fun _ _ => True := by
  refine Course.bind (guards_place guarded rfl rfl) fun site r guardedR _ _ => ?_
  refine Course.bind (guards_addParameters guardedR _ _) fun params t guardedT _ _ => ?_
  refine Course.bind (guards_newSignature guardedT _) fun signature u guardedU _ _ => ?_
  refine Course.bind (guards_bindSignature guardedU _ _) fun _ v guardedV _ _ => ?_
  exact Course.pure guardedV trivial

theorem guards_classType (spec : ClassSpec) :
    (guarding bound).Keeps q (classType spec) fun _ _ => True := by
  refine Course.bind (guards_declare guarded _ _ _ _ _) ?_
  rintro ⟨symbol, site⟩ r guardedR - begun
  refine guards_head guardedR begun ⟨fun _ => rfl, fun _ => rfl, Slots.full_of []⟩ rfl rfl ?_
  intro t type guardedT listed
  refine Course.bind (guards_rest guardedT listed fun guarded =>
    guards_populate guarded _ _ _ _ rfl _ _) fun _ u guardedU _ listed => ?_
  refine Course.bind (guards_rest guardedU listed fun guarded =>
    guards_addHeritage guarded _ _ _) fun _ v guardedV _ listed => ?_
  refine Course.bind (guards_rest guardedV listed fun guarded =>
    guards_addHeritage guarded _ _ _) fun _ w guardedW _ listed => ?_
  refine Course.bind (guards_rest guardedW listed fun guarded =>
    (guards_newSymbol guarded _).weaken fun _ _ _ _ _ => trivial) fun prototype x guardedX _ listed => ?_
  refine Course.bind (guards_rest guardedX listed fun guarded =>
    (Course.mapM (fun _ _ _ _ _ => trivial) guarded fun member _ _ guarded _ =>
      guards_staticMember guarded site member.1 member.2).weaken fun _ _ _ _ _ => trivial)
    fun statics y guardedY _ listed => ?_
  refine Course.bind (guards_rest guardedY listed fun guarded =>
    Course.Keeps.weaken (guards_touchSymbol guarded symbol fun _ => rfl) fun _ _ _ _ _ => trivial)
    fun _ z guardedZ _ listed => ?_
  refine Course.bind (guards_rest guardedZ listed fun guarded =>
    (Course.mapM (fun _ _ _ _ _ => trivial) guarded fun parameters _ _ guarded _ =>
      guards_constructorSite guarded site type parameters).weaken fun _ _ _ _ _ => trivial)
    fun constructors a guardedA _ listed => ?_
  split
  · refine Course.bind (guards_rest guardedA listed fun guarded =>
      (guards_newSymbol guarded _).weaken fun _ _ _ _ _ => trivial) fun held b guardedB _ listed => ?_
    refine Course.bind (guards_rest guardedB listed fun guarded =>
      Course.Keeps.weaken (guards_touchSymbol guarded symbol fun _ => rfl) fun _ _ _ _ _ => trivial)
      fun _ c guardedC _ listed => ?_
    exact guards_stand guardedC listed symbol _
  · exact guards_stand guardedA listed symbol _

theorem guards_addMembers (target : Option TypeId) (specs : Table String MemberSpec) :
    (guarding bound).Keeps q (addMembers target specs) fun _ _ => True := by
  refine Course.lift_bind guarded fun type _ => ?_
  refine Course.ask_bind guarded fun declared _ => Course.lift_bind guarded fun site _ => ?_
  apply Course.get_bind
  refine Course.bind (guards_members guarded site ?_ specs) fun added r guardedR _ _ => ?_
  · split <;> rfl
  · refine Course.ask_bind guardedR fun properties found => ?_
    refine Course.bind (guards_touchType guardedR type (fun _ => rfl) (fun _ => rfl) (fun _ => rfl)
      (fun _ => rfl) (fun _ => rfl) (fun _ => rfl) fun _ _ => Slots.full_some fun gap => ?_)
      fun _ t guardedT _ _ => ?_
    · rcases mem_propertiesWith found gap with old | ⟨symbol, -, ⟨⟩⟩
      exact (guardedR.parametric.types type).listed.whole old
    exact Course.pure guardedT trivial

omit guarded in
theorem unreferenced_of_remembersAlias {t : TypeInfo} (remembers : remembersAlias q t = true) :
    t.hasObjectFlag .reference = false := by
  cases flagged : t.hasObjectFlag .reference with
  | false => rfl
  | true =>
      simp only [remembersAlias, flagged, if_true, ite_self] at remembers
      cases remembers

theorem guards_aliasType (header : Header) (aliased : Option TypeId)
    (typeParameters : List (Option TypeId)) :
    (guarding bound).Keeps q (aliasType header aliased typeParameters) fun _ _ => True := by
  refine Course.bind (guards_declare guarded _ _ _ _ _) ?_
  rintro ⟨symbol, site⟩ r guardedR - begun
  have aside := begun.aside rfl
  refine Course.bind (guards_attachTypeParameters guardedR begun.outside begun.there
    (fun _ => begun.unanswered) _) fun _ t guardedT first _ => ?_
  refine Course.bind (guards_writtenType guardedT _ _) fun written u guardedU second _ => ?_
  refine Course.bind (guards_touchSite guardedU site fun _ => ⟨rfl, rfl, rfl, rfl⟩) ?_
  intro _ v guardedV third _
  have aside := aside.later ((first.trans second).trans third)
  apply Course.get_bind
  refine Course.lift_bind guardedV fun type _ => ?_
  have finish {w : Program} (guardedW : w.Guarded bound) (aside : Aside bound w site) :
      (guarding bound).Keeps w
        (do
          bindDeclared symbol type
          bindSite site type
          exportIf header.exported symbol
          pure type)
        fun _ _ => True := by
    refine Course.bind (guards_bindDeclared guardedW _ _) fun _ x guardedX framed _ => ?_
    refine Course.bind (guards_bindSite guardedX (aside.later framed).other _) fun _ y guardedY _ _ => ?_
    refine Course.bind (guards_exportIf guardedY _ _) fun _ z guardedZ _ _ => ?_
    exact Course.pure guardedZ trivial
  split
  · rename_i remembers
    have plain := unreferenced_of_remembersAlias remembers
    refine Course.bind (guards_setType guardedV type (fun _ => rfl) (fun _ => rfl) (fun _ => rfl)
      fun known => ⟨fun flagged => ?_, nofun, known.listed⟩)
      fun _ w guardedW framed _ => finish guardedW (aside.later framed)
    have flagged : (v.type type).hasObjectFlag .reference = true := flagged
    rw [plain] at flagged
    cases flagged
  · exact finish guardedV aside

theorem guards_enumMember (site : SiteId) (docs : Table String String) (name : String)
    (value : Option Literal) :
    (guarding bound).Keeps q (enumMember site docs name value) fun _ _ => True := by
  refine Course.bind (guards_declare guarded _ _ _ _ _) ?_
  rintro ⟨symbol, place⟩ r guardedR - -
  refine Course.bind (guards_touchSite guardedR place fun _ => ⟨rfl, rfl, rfl, rfl⟩) ?_
  exact fun _ t guardedT _ _ => guards_unaliased guardedT rfl rfl (Slots.full_of [])

theorem guards_enumeration (spec : EnumSpec) :
    (guarding bound).Keeps q (enumeration spec) fun _ _ => True := by
  refine Course.bind (guards_declare guarded _ _ _ _ _) ?_
  rintro ⟨symbol, site⟩ r guardedR - begun
  refine Course.bind (Course.mapM (fun _ _ _ _ _ => trivial) guardedR fun member _ _ guardedT _ =>
    guards_enumMember guardedT site spec.memberDocs member.1 member.2) fun types t guardedT first _ => ?_
  refine Course.bind (guards_unaliased guardedT rfl rfl (Slots.full_of [])) fun type u guardedU second _ => ?_
  refine Course.bind (guards_bindDeclared guardedU _ _) fun _ v guardedV third _ => ?_
  have aside := (begun.aside rfl).later ((first.trans second).trans third)
  refine Course.bind (guards_bindSite guardedV aside.other _) fun _ w guardedW _ _ => ?_
  refine Course.bind (guards_exportIf guardedW _ _) fun _ x guardedX _ _ => ?_
  exact Course.pure guardedX trivial

theorem guards_function (header : Header) (spec : CallSpec) :
    (guarding bound).Keeps q (function header spec) fun _ _ => True := by
  refine Course.bind (guards_declare guarded _ _ _ _ _) ?_
  rintro ⟨symbol, site⟩ r guardedR - begun
  refine Course.bind (guards_touchSymbol guardedR symbol fun _ => rfl) fun _ t guardedT framed _ => ?_
  refine Course.bind (guards_callable guardedT symbol ((begun.aside rfl).later framed) _ _ _) ?_
  intro type u guardedU _ _
  refine Course.bind (guards_bindSymbol guardedU _ _) fun _ v guardedV _ _ => ?_
  refine Course.bind (guards_exportIf guardedV _ _) fun _ w guardedW _ _ => ?_
  exact Course.pure guardedW trivial

theorem guards_functionType (spec : CallSpec) :
    (guarding bound).Keeps q (functionType spec) fun _ _ => True := by
  refine Course.bind (guards_declare guarded _ _ _ _ _) ?_
  rintro ⟨symbol, site⟩ r guardedR - begun
  exact guards_callable guardedR symbol (begun.aside rfl) _ _ _

theorem guards_constructorType (parameters : List ParamSpec) (returns : Option TypeId)
    (parent : Option SiteId) (fileName : Option String) :
    (guarding bound).Keeps q (constructorType parameters returns parent fileName) fun _ _ => True := by
  refine Course.bind (guards_declare guarded _ _ _ _ _) ?_
  rintro ⟨symbol, site⟩ r guardedR - begun
  have finish {t : Program} (guardedT : t.Guarded bound) (framed : r.Framed bound t) :
      (guarding bound).Keeps t
        (do
          let params ← addParameters site parameters
          let signature ← newSignature { declaration := some site, parameters := Slots.of params, returns }
          bindSignature site signature
          let type ← newType
            { flags := [.object], objectFlags := [.anonymous], symbol := some symbol,
              constructSignatures := Slots.of [signature] }
          bindSite site type
          pure type)
        fun _ _ => True := by
    refine Course.bind (guards_addParameters guardedT _ _) fun params u guardedU first _ => ?_
    refine Course.bind (guards_newSignature guardedU _) fun signature v guardedV second _ => ?_
    refine Course.bind (guards_bindSignature guardedV _ _) fun _ w guardedW third _ => ?_
    refine Course.bind (guards_unaliased guardedW rfl rfl (Slots.full_of []))
      fun type x guardedX fourth _ => ?_
    have grown := (((framed.trans first).trans second).trans third).trans fourth
    refine Course.bind (guards_bindSite guardedX ((begun.aside rfl).later grown).other _) ?_
    exact fun _ y guardedY _ _ => Course.pure guardedY trivial
  dsimp only
  split
  · refine Course.bind (guards_touchSite guardedR site fun _ => ⟨rfl, rfl, rfl, rfl⟩) ?_
    exact fun _ t guardedT framed _ => finish guardedT framed
  · exact finish guardedR (Framed.refl bound r)

theorem guards_callSignature (spec : CallSpec) :
    (guarding bound).Keeps q (callSignature spec) fun _ _ => True := by
  refine Course.bind (guards_place guarded rfl rfl) fun site r guardedR _ _ => ?_
  refine Course.bind (guards_addParameters guardedR _ _) fun params t guardedT _ _ => ?_
  refine Course.bind (guards_newSignature guardedT _) fun signature u guardedU _ _ => ?_
  refine Course.bind (guards_bindSignature guardedU _ _) fun _ v guardedV _ _ => ?_
  exact Course.pure guardedV trivial

theorem guards_objectLiteral (specs : Table String MemberSpec)
    (callSignatures : List (Option SignatureId)) (stringIndex numberIndex : Option IndexSpec) :
    (guarding bound).Keeps q (objectLiteral specs callSignatures stringIndex numberIndex)
      fun _ _ => True := by
  refine Course.bind (guards_declare guarded _ _ _ _ _) ?_
  rintro ⟨symbol, site⟩ r guardedR - begun
  refine Course.bind (guards_unaliased guardedR rfl rfl (Slots.full_of [])) fun type t guardedT first _ => ?_
  refine Course.bind (guards_populate guardedT _ _ _ _ rfl _ _) fun _ u guardedU second _ => ?_
  refine Course.bind (guards_touchType guardedU type (fun _ => rfl) (fun _ => rfl) (fun _ => rfl)
    (fun _ => rfl) (fun _ => rfl) (fun _ => rfl) fun _ => id) fun _ v guardedV third _ => ?_
  have aside := (begun.aside rfl).later ((first.trans second).trans third)
  refine Course.bind (guards_bindSite guardedV aside.other _) ?_
  exact fun _ w guardedW _ _ => Course.pure guardedW trivial

theorem guards_openMapped (key : String) (constraint : Option TypeId) (optional : Bool) :
    (guarding bound).Keeps q (openMapped key constraint optional) fun _ _ => True := by
  refine Course.bind (guards_declare guarded _ _ _ _ _) ?_
  rintro ⟨symbol, site⟩ r guardedR - -
  refine Course.bind (guards_touchSite guardedR site fun _ => ⟨rfl, rfl, rfl, rfl⟩) ?_
  intro _ t guardedT _ _
  refine Course.bind (guards_typeParameter guardedT _ _ _) fun keyType u guardedU _ _ => ?_
  refine Course.ask_bind guardedU fun declared _ => Course.lift_bind guardedU fun keySite _ => ?_
  refine Course.bind (guards_touchSite guardedU keySite fun _ => ⟨rfl, rfl, rfl, rfl⟩) ?_
  intro _ v guardedV _ _
  refine Course.bind (guards_touchSite guardedV site fun _ => ⟨rfl, rfl, rfl, rfl⟩) ?_
  exact fun _ w guardedW _ _ => Course.pure guardedW trivial

theorem guards_closeMapped {draft : MappedDraft} (inside : draft.site.index < q.sites.size)
    (kind : (q.site draft.site).kind = .mappedType) (value : Option TypeId) :
    (guarding bound).Keeps q (closeMapped draft value) fun _ _ => True := by
  refine Course.bind (guards_writtenType guarded _ _) fun written r guardedR first _ => ?_
  refine Course.bind (guards_touchSite guardedR draft.site fun _ => ⟨rfl, rfl, rfl, rfl⟩) ?_
  intro _ t guardedT second _
  refine Course.bind (guards_unaliased guardedT rfl rfl (Slots.full_of [])) fun type u guardedU third _ => ?_
  have same := ((first.trans second).trans third).kind draft.site inside
  refine Course.bind (guards_bindSite guardedU (by rw [same, kind]; rfl) _) ?_
  exact fun _ v guardedV _ _ => Course.pure guardedV trivial

theorem guards_variableOf (header : Header) (type initializer : Option TypeId) :
    (guarding bound).Keeps q (variableOf header type initializer) fun _ _ => True := by
  refine Course.bind (guards_declare guarded _ _ _ _ _) ?_
  rintro ⟨symbol, site⟩ r guardedR - begun
  refine Course.bind (guards_touchSymbol guardedR symbol fun _ => rfl) fun _ t guardedT first _ => ?_
  have aside := (begun.aside rfl).later first
  have finish {u : Program} (guardedU : u.Guarded bound) :
      (guarding bound).Keeps u
        (do
          exportIf header.exported symbol
          pure symbol)
        fun _ _ => True :=
    Course.bind (guards_exportIf guardedU _ _) fun _ _ guardedV _ _ => Course.pure guardedV trivial
  have bound_ {u : Program} (guardedU : u.Guarded bound) (framed : t.Framed bound u) :
      (guarding bound).Keeps u
        (bindingValue (type <|> initializer) symbol site do
          exportIf header.exported symbol
          pure symbol)
        fun _ _ => True := by
    cases type <|> initializer with
    | none => exact finish guardedU
    | some value =>
        refine Course.bind (guards_bindSymbol guardedU _ _) fun _ v guardedV further _ => ?_
        refine Course.bind (guards_bindSite guardedV (aside.later (framed.trans further)).other _) ?_
        exact fun _ w guardedW _ _ => finish guardedW
  have initialized {u : Program} (guardedU : u.Guarded bound) (framed : t.Framed bound u) :
      (guarding bound).Keeps u
        (placingInitializer initializer site <| bindingValue (type <|> initializer) symbol site do
          exportIf header.exported symbol
          pure symbol)
        fun _ _ => True := by
    cases initializer with
    | none => exact bound_ guardedU framed
    | some value =>
        refine Course.bind (guards_place guardedU rfl rfl) fun expression v guardedV second there => ?_
        refine Course.bind (guards_touchSite guardedV site fun _ => ⟨rfl, rfl, rfl, rfl⟩) ?_
        intro _ w guardedW third _
        refine Course.bind (guards_bindSite guardedW (there.later third).other _) ?_
        exact fun _ x guardedX last _ =>
          bound_ guardedX (((framed.trans second).trans third).trans last)
  cases type with
  | none => exact initialized guardedT (Framed.refl bound t)
  | some annotation =>
      refine Course.bind (guards_writtenType guardedT _ _) fun written u guardedU second _ => ?_
      refine Course.bind (guards_touchSite guardedU site fun _ => ⟨rfl, rfl, rfl, rfl⟩) ?_
      exact fun _ v guardedV third _ => initialized guardedV (second.trans third)

theorem guards_namespaceOf (name : String) (fileName : Option String) :
    (guarding bound).Keeps q (namespaceOf name fileName) fun _ _ => True :=
  Course.bind (guards_declare guarded _ _ _ _ _) fun _ _ guardedR _ _ => Course.pure guardedR trivial

theorem guards_valueType (symbol : SymbolId) :
    (guarding bound).Keeps q (valueType symbol) fun _ _ => True := by
  apply Course.get_bind
  dsimp only
  split
  · exact Course.ask guarded fun _ _ => trivial
  · split
    · exact Course.ask guarded fun _ _ => trivial
    · exact Course.lift_bind guarded fun _ _ => Course.ask guarded fun _ _ => trivial

theorem guards_defaultExport (target : DefaultTarget) (doc : Option String) :
    (guarding bound).Keeps q (defaultExport target doc) fun _ _ => True := by
  refine Course.bind (guards_newSymbol guarded _) ?_
  rintro symbol r guardedR - ⟨-, -, undeclared⟩
  apply Course.get_bind
  refine Course.bind (guards_source guardedR _) fun parent t guardedT _ symbols => ?_
  refine Course.bind (guards_newSite guardedT rfl (.inr rfl)) ?_
  rintro site _ guardedU - ⟨rfl, rfl⟩
  refine Course.bind (guards_setSymbol guardedU symbol fun given => ?_) fun _ v guardedV _ _ => ?_
  · refine absurd ?_ given
    change (t.symbol symbol).declarations = some []
    rw [Program.symbol, symbols]
    exact undeclared
  have finish {w : Program} (guardedW : w.Guarded bound) {expression : SiteId}
      (aside : Aside bound w expression) (value : Option TypeId) :
      (guarding bound).Keeps w
        (do
          bindSite expression value
          pushExport symbol
          pure symbol)
        fun _ _ => True := by
    refine Course.bind (guards_bindSite guardedW aside.other _) fun _ x guardedX _ _ => ?_
    refine Course.bind (guards_pushExport guardedX _) fun _ y guardedY _ _ => ?_
    exact Course.pure guardedY trivial
  cases target with
  | symbol named =>
      apply Course.get_bind
      refine Course.bind (guards_place guardedV rfl rfl) fun expression w guardedW _ aside => ?_
      refine Course.bind (guards_touchSite guardedW _ fun _ => ⟨rfl, rfl, rfl, rfl⟩) ?_
      intro _ x guardedX first _
      refine Course.bind (guards_valueType guardedX named) fun value y guardedY second _ => ?_
      exact finish guardedY (aside.later (first.trans second)) value
  | type value =>
      refine Course.bind (guards_place guardedV rfl rfl) fun expression w guardedW _ aside => ?_
      refine Course.bind (guards_touchSite guardedW _ fun _ => ⟨rfl, rfl, rfl, rfl⟩) ?_
      exact fun _ x guardedX framed _ => finish guardedX (aside.later framed) value

theorem guards_defaultFunction (spec : CallSpec) (doc : Option String) :
    (guarding bound).Keeps q (defaultFunction spec doc) fun _ _ => True := by
  refine Course.bind (guards_declare guarded _ _ _ _ _) ?_
  rintro ⟨symbol, site⟩ r guardedR - begun
  refine Course.bind (guards_touchSymbol guardedR symbol fun _ => rfl) fun _ t guardedT framed _ => ?_
  refine Course.bind (guards_callable guardedT symbol ((begun.aside rfl).later framed) _ _ _) ?_
  intro type u guardedU _ _
  refine Course.bind (guards_bindSymbol guardedU _ _) fun _ v guardedV _ _ => ?_
  refine Course.bind (guards_pushExport guardedV _) fun _ w guardedW _ _ => ?_
  exact Course.pure guardedW trivial

end Build

open Build Program

variable {p : Program}

theorem guards_call (parametric : p.Parametric) {call : Call} (known : call.Known p) :
    (guarding 0).Keeps p call.step fun _ _ => True := by
  have guarded : p.Guarded 0 := ⟨parametric, Nat.zero_le _⟩
  cases call with
  | literal value => exact Course.discard (guards_literal guarded value)
  | bigintLiteral digits =>
      exact Course.discard (guards_cached guarded (.bigint digits) rfl rfl (Slots.full_of []))
  | union types | intersection types | keyof operand | indexedAccess objectType indexType
  | conditional checkType extendsType trueType falseType | substitution baseType =>
      exact Course.discard (guards_unaliased guarded rfl rfl (Slots.full_of []))
  | tuple elements => exact Course.discard (guards_tuple guarded elements)
  | typeParameter name constraint default =>
      exact Course.discard (guards_typeParameter guarded name constraint default)
  | infer name => exact Course.discard (guards_infer guarded name)
  | instantiate generic arguments => exact Course.discard (guards_instantiate guarded generic arguments)
  | instantiateAlias aliased arguments =>
      exact Course.discard (guards_instantiateAlias guarded aliased arguments)
  | interface spec => exact Course.discard (guards_interface guarded spec)
  | classType spec => exact Course.discard (guards_classType guarded spec)
  | addMembers target specs => exact Course.discard (guards_addMembers guarded target specs)
  | aliasType header aliased typeParameters =>
      exact Course.discard (guards_aliasType guarded header aliased typeParameters)
  | enumeration spec => exact Course.discard (guards_enumeration guarded spec)
  | function header spec => exact Course.discard (guards_function guarded header spec)
  | functionType spec => exact Course.discard (guards_functionType guarded spec)
  | constructorType parameters returns parent fileName =>
      exact Course.discard (guards_constructorType guarded parameters returns parent fileName)
  | callSignature spec => exact Course.discard (guards_callSignature guarded spec)
  | objectLiteral specs callSignatures stringIndex numberIndex =>
      exact Course.discard (guards_objectLiteral guarded specs callSignatures stringIndex numberIndex)
  | openMapped key constraint optional =>
      exact Course.discard (guards_openMapped guarded key constraint optional)
  | closeMapped draft value =>
      have opened := known.draft draft value rfl
      have inside := site_inside (fun s => s.kind = .mappedType) opened.kind nofun
      exact Course.discard (guards_closeMapped guarded inside opened.kind value)
  | variableOf header type initializer =>
      exact Course.discard (guards_variableOf guarded header type initializer)
  | namespaceOf name fileName => exact Course.discard (guards_namespaceOf guarded name fileName)
  | addExport symbol => exact guards_addExport guarded symbol
  | defaultExport target doc => exact Course.discard (guards_defaultExport guarded target doc)
  | defaultFunction spec doc => exact Course.discard (guards_defaultFunction guarded spec doc)
  | writtenType type parent => exact Course.discard (guards_writtenType guarded type parent)

theorem parametric_start (fileName : String) (lastId : Nat) :
    (Program.start fileName lastId).Parametric := by
  have empty (p : Program) (sites : p.sites = #[]) (types : p.types = #[]) : p.Parametric := by
    have none (id : TypeId) : p.type id = default :=
      p.type_of_size_le (by rw [types]; exact Nat.zero_le _)
    refine ⟨fun id => ?_, fun a b inside => ?_, fun id => accords_of_other ?_, fun id => ?_⟩
    · rw [none]
      exact Int.natCast_nonneg _
    · rw [types] at inside
      cases inside
    · rw [p.site_of_size_le (by rw [sites]; exact Nat.zero_le _)]
      rfl
    · rw [none]
      exact ⟨fun _ => rfl, fun _ => rfl, Slots.full_of []⟩
  have grown (items : List (TypeFlag × String)) (p : Program) (parametric : p.Parametric) :
      (items.foldl (fun p item =>
        (p.addType { flags := [item.1], intrinsicName := some item.2 }).2) p).Parametric := by
    induction items generalizing p with
    | nil => exact parametric
    | cons item rest ih => exact ih _ (parametric.addType ⟨fun _ => rfl, fun _ => rfl, Slots.full_of []⟩)
  exact (grown intrinsics _ (empty _ rfl rfl)).addType ⟨fun _ => rfl, fun _ => rfl, Slots.full_of []⟩

theorem parametric_of_built {allowed : Call → Program → Prop} (built : p.Built allowed) :
    p.Parametric := by
  induction built with
  | start fileName lastId => exact parametric_start fileName lastId
  | call call built known permitted ih => exact (guards_call ih known).after rfl

end TypeAtlas
