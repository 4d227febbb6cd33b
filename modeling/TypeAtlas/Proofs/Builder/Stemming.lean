import TypeAtlas.Proofs.Builder.Declared
import TypeAtlas.Proofs.Program.Calls
import TypeAtlas.Proofs.Program.Stemming

/-!
Every call keeps the properties of types stemming from declared members. Most of what calls do takes
nothing back and touches no properties; the few writes that give a type its properties take them from
what was just declared, from other types, or from instantiated members.
-/

namespace TypeAtlas

namespace Build

open Program

variable {α : Type} {base p q : Program}

theorem quietly_declarationOf (type : Option TypeId) :
    Quietly q (declarationOf type) fun _ _ => True :=
  quietly_ask fun _ _ => trivial

theorem quietly_source (fileName : String) : Quietly q (source fileName) fun _ _ => True := by
  apply Course.get_bind
  split
  · exact quietly_pure trivial
  · refine quietly_bind (quietly_newSite _) ?_
    intro id r _ _
    refine quietly_bind (quietly_modify ((Carries.refl r).aside rfl rfl rfl rfl)) ?_
    exact fun _ _ _ _ => quietly_pure trivial

theorem quietly_declare (kind : SiteKind) (name : String) (flags : SymbolFlags)
    (doc fileName : Option String) :
    Quietly q (declare kind name flags doc fileName) fun _ _ => True := by
  apply Course.get_bind
  refine Course.bind ((quietly_source _).onto (Carries.refl q)) ?_
  intro parent r carries _ _
  refine Course.bind (carrying_newPlace carries _) ?_
  rintro site t carries - ⟨fresh, there⟩
  refine carrying_declaredAt carries fresh there rfl rfl ?_
  exact fun symbol u carries _ => Course.pure carries trivial

theorem quietly_setExports (exports : Slots SymbolId) :
    Quietly q (setExports exports) fun _ _ => True :=
  Course.get_bind (quietly_setSymbol _ (fun _ => rfl) fun _ => ⟨rfl, rfl⟩)

theorem quietly_addExport (symbol : Option SymbolId) :
    Quietly q (addExport symbol) fun _ _ => True := by
  apply Course.get_bind
  refine quietly_lift_bind fun listed _ => ?_
  split
  · exact quietly_pure trivial
  · exact quietly_lift_bind fun exports _ => quietly_setExports exports

theorem quietly_pushExport (symbol : SymbolId) : Quietly q (pushExport symbol) fun _ _ => True := by
  apply Course.get_bind
  exact quietly_lift_bind fun exports _ => quietly_setExports _

theorem quietly_exportIf (exported : Bool) (symbol : SymbolId) :
    Quietly q (exportIf exported symbol) fun _ _ => True := by
  unfold exportIf
  split
  · exact quietly_addExport _
  · exact quietly_pure trivial

theorem quietly_written (fuel : Nat) :
    (∀ q type parent, Quietly q (writtenFrom fuel type parent) fun _ _ => True) ∧
    ∀ q types parent, Quietly q (writtenEach fuel types parent) fun _ _ => True := by
  induction fuel with
  | zero =>
      constructor
      · exact fun q _ _ => Course.throw (Carries.refl q) _
      · exact fun q _ _ => Course.throw (Carries.refl q) _
  | succ fuel ih =>
      constructor
      · intro q type parent
        unfold writtenFrom
        apply Course.get_bind
        refine quietly_lift_bind fun id _ => ?_
        have finish {r : Program} (site : SiteId) :
            Quietly r (do bindSite site (some id); pure site) fun _ _ => True :=
          quietly_bind (quietly_bindSite _ _) fun _ _ _ _ => quietly_pure trivial
        have place {r : Program} (s : Site) :
            Quietly r (do let site ← newSite s; bindSite site (some id); pure site) fun _ _ => True :=
          quietly_bind (quietly_newSite s) fun site _ _ _ => finish site
        dsimp only
        split
        · refine quietly_bind (quietly_newSite _) fun site r _ _ => ?_
          refine quietly_bind (quietly_declarationOf _) fun declared t _ _ => ?_
          refine quietly_bind (quietly_setSite site fun _ => rfl) fun _ u _ _ => ?_
          exact finish site
        · split
          · exact place _
          · split
            · refine quietly_bind (quietly_newSite _) fun site r _ _ => ?_
              refine quietly_bind (ih.1 r _ _) fun child t _ _ => ?_
              refine quietly_bind (quietly_setSite site fun _ => rfl) fun _ u _ _ => ?_
              exact finish site
            · split
              · refine quietly_bind (quietly_newSite _) fun site r _ _ => ?_
                refine quietly_lift_bind fun types _ => ?_
                refine quietly_bind (ih.2 r _ _) fun children t _ _ => ?_
                refine quietly_bind (quietly_setSite site fun _ => rfl) fun _ u _ _ => ?_
                exact finish site
              · exact place _
      · intro q types parent
        cases types with
        | nil => exact quietly_pure trivial
        | cons type rest =>
            unfold writtenEach
            refine quietly_bind (ih.1 q _ _) fun first r _ _ => ?_
            refine quietly_bind (ih.2 r _ _) fun others t _ _ => ?_
            exact quietly_pure trivial

theorem quietly_writtenType (type : Option TypeId) (parent : Option SiteId) :
    Quietly q (writtenType type parent) fun _ _ => True :=
  Course.get_bind ((quietly_written _).1 q type parent)

theorem quietly_cached (key : LiteralKey) {type : TypeInfo} (empty : type.properties.slots = []) :
    Quietly q (cached key type) fun _ _ => True := by
  apply Course.get_bind
  split
  · exact quietly_pure trivial
  · refine quietly_bind (quietly_newType empty) fun id r _ _ => ?_
    refine quietly_bind (quietly_modify ((Carries.refl r).aside rfl rfl rfl rfl)) ?_
    exact fun _ _ _ _ => quietly_pure trivial

theorem quietly_literal (value : Option Literal) : Quietly q (literal value) fun _ _ => True := by
  unfold literal
  split
  · exact quietly_cached _ rfl
  · exact quietly_pure trivial
  · exact quietly_pure trivial
  all_goals exact quietly_cached _ rfl

theorem quietly_tuple (elements : List (Option TypeId)) :
    Quietly q (tuple elements) fun _ _ => True := by
  apply Course.get_bind
  split
  · exact quietly_newType rfl
  · refine quietly_bind (quietly_newType rfl) fun id r _ _ => ?_
    refine quietly_bind (quietly_modify ((Carries.refl r).aside rfl rfl rfl rfl)) ?_
    exact fun _ _ _ _ => quietly_newType rfl

theorem quietly_writingDefault (default : Option TypeId) (site : SiteId) {rest : Build α}
    (quiet : ∀ r, Quietly r rest fun _ _ => True) :
    Quietly q (writingDefault default site rest) fun _ _ => True := by
  cases default with
  | none => exact quiet q
  | some fallback =>
      refine quietly_bind (quietly_writtenType _ _) fun written r _ _ => ?_
      refine quietly_bind (quietly_setSite site fun _ => rfl) ?_
      exact fun _ t _ _ => quiet t

theorem quietly_typeParameter (name : String) (constraint default : Option TypeId) :
    Quietly q (typeParameter name constraint default) fun _ _ => True := by
  refine quietly_bind (quietly_declare _ _ _ _ _) ?_
  rintro ⟨symbol, site⟩ r - -
  refine quietly_bind (quietly_setSite site fun _ => rfl) fun _ t _ _ => ?_
  refine quietly_bind (quietly_newType rfl) fun type u _ _ => ?_
  have rest (v : Program) : Quietly v (writingDefault default site do
      bindDeclared symbol type
      bindSite site type
      pure type) fun _ _ => True := by
    refine quietly_writingDefault default site fun w => ?_
    refine quietly_bind (quietly_bindDeclared _ _) fun _ x _ _ => ?_
    exact quietly_bind (quietly_bindSite _ _) fun _ _ _ _ => quietly_pure trivial
  cases constraint with
  | none => exact rest u
  | some bound =>
      refine quietly_bind (quietly_writtenType _ _) fun written v _ _ => ?_
      refine quietly_bind (quietly_setSite site fun _ => rfl) ?_
      exact fun _ w _ _ => rest w

theorem quietly_infer (name : String) : Quietly q (infer name) fun _ _ => True := by
  refine quietly_bind (quietly_typeParameter name none none) fun type r _ _ => ?_
  refine quietly_bind (quietly_modify ((Carries.refl r).aside rfl rfl rfl rfl)) ?_
  exact fun _ _ _ _ => quietly_pure trivial

theorem quietly_fillDefaults (params : List (Option TypeId)) :
    Quietly q (fillDefaults params) fun _ _ => True := by
  induction params generalizing q with
  | nil => exact quietly_pure trivial
  | cons param rest ih =>
      unfold fillDefaults
      refine quietly_bind (quietly_declarationOf _) fun declared r _ _ => ?_
      refine quietly_lift_bind fun site _ => ?_
      apply Course.get_bind
      split
      · exact quietly_pure trivial
      · refine quietly_ask_bind fun type _ => ?_
        exact quietly_bind ih fun _ _ _ _ => quietly_pure trivial

theorem quietly_withDefaults (params arguments : List (Option TypeId)) :
    Quietly q (withDefaults params arguments) fun _ _ => True :=
  quietly_bind (quietly_fillDefaults _) fun _ _ _ _ => quietly_pure trivial

theorem quietly_attachTypeParameters (site : SiteId) (params : List (Option TypeId)) :
    Quietly q (attachTypeParameters site params) fun _ _ => True := by
  refine quietly_forM fun param _ r => ?_
  refine quietly_bind (quietly_declarationOf _) fun declared t _ _ => ?_
  refine quietly_lift_bind fun paramSite _ => ?_
  refine quietly_bind (quietly_setSite paramSite fun _ => rfl) ?_
  exact fun _ u _ _ => quietly_setSite site fun _ => rfl

theorem quietly_parameter (parent : SiteId) (spec : ParamSpec) :
    Quietly q (parameter parent spec) fun _ _ => True := by
  refine Course.bind (carrying_newPlace (Carries.refl q) _) ?_
  rintro site r carries - ⟨fresh, there⟩
  refine carrying_declaredAt carries fresh there rfl rfl ?_
  intro symbol t carries _
  split
  · rename_i type _
    have rest : Quietly t (do
        let written ← writtenType type site
        setSite site ({ · with type := some written })
        bindSymbol symbol type
        pure (symbol, site)) fun _ _ => True := by
      refine quietly_bind (quietly_writtenType _ _) fun written u _ _ => ?_
      refine quietly_bind (quietly_setSite site fun _ => rfl) fun _ v _ _ => ?_
      exact quietly_bind (quietly_bindSymbol _ _) fun _ _ _ _ => quietly_pure trivial
    exact (rest.onto carries).weaken fun _ _ _ _ _ => trivial
  · exact Course.pure carries trivial

theorem quietly_addParameters (parent : SiteId) (specs : List ParamSpec) :
    Quietly q (addParameters parent specs) fun _ _ => True := by
  refine quietly_bind (quietly_mapM (fun _ _ _ _ known => known)
    fun spec _ r _ => quietly_parameter parent spec) fun params r _ _ => ?_
  refine quietly_bind (quietly_setSite parent fun _ => rfl) ?_
  exact fun _ _ _ _ => quietly_pure trivial

theorem quietly_callable (symbol : SymbolId) (site : SiteId) (parameters : List ParamSpec)
    (returns : Option TypeId) (typeParameters : List (Option TypeId)) :
    Quietly q (callable symbol site parameters returns typeParameters) fun _ _ => True := by
  refine quietly_bind (quietly_attachTypeParameters _ _) fun _ r _ _ => ?_
  refine quietly_bind (quietly_addParameters _ _) fun params t _ _ => ?_
  refine quietly_bind (quietly_writtenType _ _) fun written u _ _ => ?_
  refine quietly_bind (quietly_setSite site fun _ => rfl) fun _ v _ _ => ?_
  refine quietly_bind (quietly_newSignature _) fun signature w _ _ => ?_
  refine quietly_bind (quietly_bindSignature _ _) fun _ x _ _ => ?_
  refine quietly_bind (quietly_newType rfl) fun type y _ _ => ?_
  exact quietly_bind (quietly_bindSite _ _) fun _ _ _ _ => quietly_pure trivial

theorem carrying_rooted {step : Build PUnit} {symbol : SymbolId} (carries : base.Carries q)
    (rooted : q.Rooted symbol symbol) (quiet : Quietly q step fun _ _ => True) :
    (carrying base).Keeps q (do step; pure symbol) fun r symbol => r.Rooted symbol symbol := by
  refine Course.bind (quiet.onto carries) ?_
  intro _ r carries _ known
  exact Course.pure carries (known.1.rooted rooted)

theorem quietly_propMember (name : String) (spec : PropSpec) (parent : SiteId) (kind : SiteKind) :
    Quietly q (propMember name spec parent kind) fun r symbol => r.Rooted symbol symbol := by
  refine Course.bind (carrying_newPlace (Carries.refl q) _) ?_
  rintro site r carries - ⟨fresh, there⟩
  refine Course.bind ((quietly_writtenType _ _).onto carries) ?_
  rintro written t carries - ⟨first, -⟩
  have write : Quietly t (setSite site ({ · with type := some written })) fun _ _ => True :=
    quietly_setSite site fun _ => rfl
  refine Course.bind (write.onto carries) ?_
  rintro _ u carries - ⟨second, -⟩
  have there := Nat.lt_of_lt_of_le there (Nat.le_trans first.sites second.sites)
  refine carrying_declaredAt carries fresh there rfl rfl ?_
  intro symbol v carries rooted
  exact carrying_rooted carries rooted (quietly_bindSymbol _ _)

theorem quietly_methodMember (name : String) (spec : MethodSpec) (parent : SiteId) :
    Quietly q (methodMember name spec parent) fun r symbol => r.Rooted symbol symbol := by
  refine Course.bind (carrying_newPlace (Carries.refl q) _) ?_
  rintro site r carries - ⟨fresh, there⟩
  refine carrying_declaredAt carries fresh there rfl rfl ?_
  intro symbol t carries rooted
  refine Course.bind ((quietly_callable _ _ _ _ _).onto carries) ?_
  rintro type u carries - ⟨further, -⟩
  exact carrying_rooted carries (further.rooted rooted) (quietly_bindSymbol _ _)

theorem quietly_member (parent : SiteId) (kind : SiteKind) (name : String) (spec : MemberSpec) :
    Quietly q (member parent kind name spec) fun r symbol => r.Rooted symbol symbol := by
  unfold member
  split
  · exact Course.throw (Carries.refl q) _
  · exact quietly_propMember _ _ _ _
  · exact quietly_propMember _ _ _ _
  · exact quietly_methodMember _ _ _

theorem quietly_members (parent : SiteId) (kind : SiteKind) (specs : Table String MemberSpec) :
    Quietly q (members parent kind specs) fun r symbols =>
      ∀ symbol ∈ symbols, r.Rooted symbol symbol :=
  quietly_mapM (fun _ _ _ carries rooted => carries.rooted rooted)
    fun item _ _ _ => quietly_member parent kind item.1 item.2

theorem quietly_indexSignature (keyType : TypeId) (spec : Option IndexSpec) (parent : SiteId) :
    Quietly q (indexSignature keyType spec parent) fun _ _ => True := by
  cases spec with
  | none => exact quietly_pure trivial
  | some spec =>
      refine quietly_bind (quietly_newSite _) fun site r _ _ => ?_
      have made (t : Program) (info : IndexInfo) :
          Quietly t (some <$> newIndexInfo info) fun _ _ => True :=
        quietly_map _ (quietly_newIndexInfo info) fun _ _ _ => trivial
      split
      · refine quietly_bind (quietly_newSite _) fun key t _ _ => ?_
        exact quietly_bind (quietly_setSite site fun _ => rfl) fun _ u _ _ => made u _
      · exact made r _

theorem quietly_heritageSite (parent : SiteId) (type : Option TypeId) :
    Quietly q (heritageSite parent type) fun _ _ => True := by
  apply Course.get_bind
  refine quietly_lift_bind fun id _ => ?_
  refine quietly_bind (quietly_newSite _) fun site r _ _ => ?_
  refine quietly_bind (quietly_newSite _) fun expression t _ _ => ?_
  refine quietly_bind (quietly_setSite site fun _ => rfl) fun _ u _ _ => ?_
  exact quietly_bind (quietly_bindSite _ _) fun _ _ _ _ => quietly_pure trivial

theorem quietly_addHeritage (site : SiteId) (token : HeritageToken) (bases : List (Option TypeId)) :
    Quietly q (addHeritage site token bases) fun _ _ => True := by
  unfold addHeritage
  split
  · exact quietly_pure trivial
  · refine quietly_bind (quietly_mapM (fun _ _ _ _ known => known)
      fun type _ r _ => quietly_heritageSite site type) fun types r _ _ => ?_
    exact quietly_setSite site fun _ => rfl

theorem quietly_instantiateMember (mapping : Mapping) {slot : Option SymbolId}
    (stemmed : q.Stemmed slot) :
    Quietly q (instantiateMember mapping slot) fun r symbol => r.Stemmed (some symbol) := by
  obtain ⟨member, declared, rfl, rooted⟩ := stemmed
  apply Course.get_bind
  refine quietly_lift_bind fun original found => ?_
  cases found
  refine quietly_bind (quietly_newSymbol _) ?_
  rintro _ _ - ⟨rfl, rfl⟩
  split
  · refine quietly_bind (quietly_bindSymbol _ _) fun _ r carries _ => ?_
    exact quietly_pure ⟨_, declared, rfl, carries.rooted (rooted.copied rfl rfl)⟩
  · exact quietly_pure ⟨_, declared, rfl, rooted.copied rfl rfl⟩

theorem quietly_instantiateMembers (mapping : Mapping) {slots : List (Option SymbolId)}
    (stemmed : ∀ slot ∈ slots, q.Stemmed slot) :
    Quietly q (slots.mapM (instantiateMember mapping)) fun r symbols =>
      ∀ symbol ∈ symbols, r.Stemmed (some symbol) :=
  quietly_mapM (fun _ _ _ carries stemmed => carries.stemmed stemmed)
    fun slot member _ carries =>
      quietly_instantiateMember mapping (carries.stemmed (stemmed slot member))

theorem quietly_instantiateIndex (mapping : Mapping) (index : Option IndexId) :
    Quietly q (instantiateIndex mapping index) fun _ _ => True := by
  cases index with
  | none => exact quietly_pure trivial
  | some id =>
      apply Course.get_bind
      dsimp only
      split
      · exact quietly_pure trivial
      · exact quietly_map _ (quietly_newIndexInfo _) fun _ _ _ => trivial

section Steps

variable (traced : q.Traced)
include traced

theorem traced_instantiate (generic : Option TypeId) (arguments : List (Option TypeId)) :
    tracing.Keeps q (instantiate generic arguments) fun _ _ => True := by
  refine Course.lift_bind traced fun target _ => ?_
  apply Course.get_bind
  refine traced_bind traced (quietly_withDefaults _ _) fun filled r traced carries _ => ?_
  refine Course.lift_bind traced fun items listed => ?_
  -- the members to copy were read before the defaults were filled in, which changed no properties
  have stemmed (item : Option SymbolId) (member : item ∈ items) : r.Stemmed item := by
    apply traced.properties target
    rw [carries.properties, slots_of_each listed]
    exact member
  refine traced_bind traced (quietly_instantiateMembers _ stemmed) ?_
  intro properties t traced _ copied
  refine Course.lift_bind traced fun calls _ => ?_
  refine traced_bind traced (quietly_instantiateIndex _ _) fun stringIndex u traced first _ => ?_
  refine traced_bind traced (quietly_instantiateIndex _ _) fun numberIndex v traced second _ => ?_
  refine traced_newType traced ?_
  intro slot held
  obtain ⟨symbol, member, rfl⟩ := List.mem_map.mp held
  exact (first.trans second).stemmed (copied symbol member)

theorem traced_instantiateAlias (aliased : Option TypeId) (arguments : List (Option TypeId)) :
    tracing.Keeps q (instantiateAlias aliased arguments) fun _ _ => True := by
  apply Course.get_bind
  refine Course.lift_bind traced fun id _ => ?_
  dsimp only
  split
  · exact Course.throw traced _
  · refine Course.lift_bind traced fun first _ => Course.lift_bind traced fun site _ => ?_
    refine Course.lift_bind traced fun written _ => ?_
    refine traced_bind traced (quietly_mapM (fun _ _ _ _ known => known)
      fun param _ r _ => quietly_ask fun _ _ => trivial) fun params r traced carries _ => ?_
    refine Course.bind (traced_newType traced fun slot held => ?_) fun copy t traced _ _ => ?_
    · rw [← carries.properties id] at held
      exact traced.properties id slot held
    · refine traced_bind traced (quietly_withDefaults _ _) fun filled u traced _ _ => ?_
      refine traced_bind traced (quietly_setType copy fun _ => rfl) fun _ v traced _ _ => ?_
      exact Course.pure traced trivial

theorem traced_populate (type : TypeId) (site : SiteId) (specs : Table String MemberSpec)
    (bases : List (Option TypeId)) (kind : SiteKind) (stringIndex numberIndex : Option IndexSpec) :
    tracing.Keeps q (populate type site specs bases kind stringIndex numberIndex)
      fun _ _ => True := by
  refine traced_bind traced (quietly_members site kind specs) fun own r traced _ declared => ?_
  refine Course.ask_bind traced fun inherited found => ?_
  have stemmed (symbol : SymbolId) (member : symbol ∈ own ++ inherited) :
      r.Stemmed (some symbol) := by
    rcases List.mem_append.mp member with new | old
    · exact ⟨symbol, symbol, rfl, declared symbol new⟩
    · obtain ⟨base, -, held⟩ := of_inheritedProperties found old
      exact traced.properties base _ held
  refine traced_bind traced (quietly_indexSignature _ _ _) fun ownString t traced first _ => ?_
  refine traced_bind traced (quietly_indexSignature _ _ _) fun ownNumber u traced second _ => ?_
  apply Course.get_bind
  refine traced_setType traced type ?_
  intro slot held
  obtain ⟨symbol, member, rfl⟩ := List.mem_map.mp held
  exact (first.trans second).stemmed (stemmed symbol member)

omit traced in
theorem quietly_stand (symbol : SymbolId) (site : SiteId) (type : TypeId) (exported : Bool) :
    Quietly q (do
      bindDeclared symbol type
      bindSite site type
      exportIf exported symbol
      pure type) fun _ _ => True := by
  refine quietly_bind (quietly_bindDeclared _ _) fun _ r _ _ => ?_
  refine quietly_bind (quietly_bindSite _ _) fun _ t _ _ => ?_
  refine quietly_bind (quietly_exportIf _ _) fun _ u _ _ => ?_
  exact quietly_pure trivial

theorem traced_interface (spec : InterfaceSpec) :
    tracing.Keeps q (interface spec) fun _ _ => True := by
  refine traced_bind traced (quietly_declare _ _ _ _ _) ?_
  rintro ⟨symbol, site⟩ r traced - -
  refine traced_bind traced (quietly_setSymbol symbol (fun _ => rfl) fun _ => ⟨rfl, rfl⟩) ?_
  intro _ t traced _ _
  refine traced_bind traced (quietly_newType rfl) fun type u traced _ _ => ?_
  refine traced_bind traced (quietly_attachTypeParameters _ _) fun _ v traced _ _ => ?_
  refine Course.bind (traced_populate traced _ _ _ _ _ _ _) fun _ w traced _ _ => ?_
  refine traced_bind traced (quietly_setType type fun _ => rfl) fun _ x traced _ _ => ?_
  refine traced_bind traced (quietly_addHeritage _ _ _) fun _ y traced _ _ => ?_
  exact ((quietly_stand symbol site type _).traces traced).weaken fun _ _ _ _ _ => trivial

omit traced in
theorem quietly_staticMember (site : SiteId) (name : String) (spec : MemberSpec) :
    Quietly q (staticMember site name spec) fun r symbol => r.Rooted symbol symbol := by
  refine quietly_bind (quietly_member site _ name spec) fun symbol r _ rooted => ?_
  apply Course.get_bind
  split
  · rename_i declaration _
    refine quietly_bind (quietly_setSite declaration fun _ => rfl) fun _ t carries _ => ?_
    exact quietly_pure (carries.rooted rooted)
  · exact quietly_pure rooted

omit traced in
theorem quietly_statics (site : SiteId) (specs : Table String MemberSpec) :
    Quietly q (specs.mapM fun (name, spec) => staticMember site name spec) fun r symbols =>
      ∀ symbol ∈ symbols, r.Rooted symbol symbol :=
  quietly_mapM (fun _ _ _ carries rooted => carries.rooted rooted)
    fun item _ _ _ => quietly_staticMember site item.1 item.2

omit traced in
theorem quietly_constructorSite (classSite : SiteId) (instanceType : TypeId)
    (parameters : List ParamSpec) :
    Quietly q (constructorSite classSite instanceType parameters) fun _ _ => True := by
  refine quietly_bind (quietly_newSite _) fun site r _ _ => ?_
  refine quietly_bind (quietly_addParameters _ _) fun params t _ _ => ?_
  refine quietly_bind (quietly_newSignature _) fun signature u _ _ => ?_
  refine quietly_bind (quietly_bindSignature _ _) fun _ v _ _ => ?_
  exact quietly_pure trivial

theorem traced_classType (spec : ClassSpec) :
    tracing.Keeps q (classType spec) fun _ _ => True := by
  refine traced_bind traced (quietly_declare _ _ _ _ _) ?_
  rintro ⟨symbol, site⟩ r traced - -
  refine traced_bind traced (quietly_newType rfl) fun type t traced _ _ => ?_
  refine traced_bind traced (quietly_attachTypeParameters _ _) fun _ u traced _ _ => ?_
  refine Course.bind (traced_populate traced _ _ _ _ _ _ _) fun _ v traced _ _ => ?_
  refine traced_bind traced (quietly_addHeritage _ _ _) fun _ w traced _ _ => ?_
  refine traced_bind traced (quietly_addHeritage _ _ _) fun _ x traced _ _ => ?_
  refine traced_bind traced (quietly_newSymbol _) fun prototype y traced _ _ => ?_
  refine traced_bind traced (quietly_statics site spec.statics) fun statics z traced _ _ => ?_
  refine traced_bind traced (quietly_setSymbol symbol (fun _ => rfl) fun _ => ⟨rfl, rfl⟩) ?_
  intro _ a traced _ _
  refine traced_bind traced (quietly_mapM (fun _ _ _ _ known => known)
    fun parameters _ t _ => quietly_constructorSite site type parameters) fun constructors b traced _ _ => ?_
  have stand {c : Program} (traced : c.Traced) := (quietly_stand symbol site type
    spec.header.exported).traces traced
  split
  · refine traced_bind traced (quietly_newSymbol _) fun held c traced _ _ => ?_
    refine traced_bind traced (quietly_setSymbol symbol (fun _ => rfl) fun _ => ⟨rfl, rfl⟩) ?_
    exact fun _ d traced _ _ => (stand traced).weaken fun _ _ _ _ _ => trivial
  · exact (stand traced).weaken fun _ _ _ _ _ => trivial

theorem traced_addMembers (target : Option TypeId) (specs : Table String MemberSpec) :
    tracing.Keeps q (addMembers target specs) fun _ _ => True := by
  refine Course.lift_bind traced fun type _ => ?_
  refine Course.ask_bind traced fun declared _ => Course.lift_bind traced fun site _ => ?_
  apply Course.get_bind
  refine traced_bind traced (quietly_members site _ specs) fun added r traced _ declared => ?_
  refine Course.ask_bind traced fun properties found => ?_
  refine Course.bind (traced_setType traced type fun slot held => ?_) fun _ t traced _ _ =>
    Course.pure traced trivial
  rcases mem_propertiesWith found held with old | ⟨symbol, new, rfl⟩
  · exact traced.properties type slot old
  · exact ⟨symbol, symbol, rfl, declared symbol new⟩

theorem traced_objectLiteral (specs : Table String MemberSpec)
    (callSignatures : List (Option SignatureId)) (stringIndex numberIndex : Option IndexSpec) :
    tracing.Keeps q (objectLiteral specs callSignatures stringIndex numberIndex)
      fun _ _ => True := by
  refine traced_bind traced (quietly_declare _ _ _ _ _) ?_
  rintro ⟨symbol, site⟩ r traced - -
  refine traced_bind traced (quietly_newType rfl) fun type t traced _ _ => ?_
  refine Course.bind (traced_populate traced _ _ _ _ _ _ _) fun _ u traced _ _ => ?_
  refine traced_bind traced (quietly_setType type fun _ => rfl) fun _ v traced _ _ => ?_
  refine traced_bind traced (quietly_bindSite _ _) fun _ w traced _ _ => ?_
  exact Course.pure traced trivial

end Steps

theorem quietly_aliasType (header : Header) (aliased : Option TypeId)
    (typeParameters : List (Option TypeId)) :
    Quietly q (aliasType header aliased typeParameters) fun _ _ => True := by
  refine quietly_bind (quietly_declare _ _ _ _ _) ?_
  rintro ⟨symbol, site⟩ r - -
  refine quietly_bind (quietly_attachTypeParameters _ _) fun _ t _ _ => ?_
  refine quietly_bind (quietly_writtenType _ _) fun written u _ _ => ?_
  refine quietly_bind (quietly_setSite site fun _ => rfl) fun _ v _ _ => ?_
  apply Course.get_bind
  refine quietly_lift_bind fun type _ => ?_
  split
  · refine quietly_bind (quietly_setType type fun _ => rfl) fun _ w _ _ => ?_
    exact quietly_stand symbol site type _
  · exact quietly_stand symbol site type _

theorem quietly_enumMember (site : SiteId) (docs : Table String String) (name : String)
    (value : Option Literal) : Quietly q (enumMember site docs name value) fun _ _ => True := by
  refine quietly_bind (quietly_declare _ _ _ _ _) ?_
  rintro ⟨symbol, place⟩ r - -
  refine quietly_bind (quietly_setSite place fun _ => rfl) fun _ t _ _ => ?_
  exact quietly_newType rfl

theorem quietly_enumeration (spec : EnumSpec) :
    Quietly q (enumeration spec) fun _ _ => True := by
  refine quietly_bind (quietly_declare _ _ _ _ _) ?_
  rintro ⟨symbol, site⟩ r - -
  refine quietly_bind (quietly_mapM (fun _ _ _ _ known => known)
    fun item _ t _ => quietly_enumMember site spec.memberDocs item.1 item.2) fun types t _ _ => ?_
  refine quietly_bind (quietly_newType rfl) fun type u _ _ => ?_
  exact quietly_stand symbol site type _

theorem quietly_function (header : Header) (spec : CallSpec) :
    Quietly q (function header spec) fun _ _ => True := by
  refine quietly_bind (quietly_declare _ _ _ _ _) ?_
  rintro ⟨symbol, site⟩ r - -
  refine quietly_bind (quietly_setSymbol symbol (fun _ => rfl) fun _ => ⟨rfl, rfl⟩) fun _ t _ _ => ?_
  refine quietly_bind (quietly_callable _ _ _ _ _) fun type u _ _ => ?_
  refine quietly_bind (quietly_bindSymbol _ _) fun _ v _ _ => ?_
  refine quietly_bind (quietly_exportIf _ _) fun _ w _ _ => ?_
  exact quietly_pure trivial

theorem quietly_functionType (spec : CallSpec) :
    Quietly q (functionType spec) fun _ _ => True := by
  refine quietly_bind (quietly_declare _ _ _ _ _) ?_
  rintro ⟨symbol, site⟩ r - -
  exact quietly_callable _ _ _ _ _

theorem quietly_constructorType (parameters : List ParamSpec) (returns : Option TypeId)
    (parent : Option SiteId) (fileName : Option String) :
    Quietly q (constructorType parameters returns parent fileName) fun _ _ => True := by
  refine quietly_bind (quietly_declare _ _ _ _ _) ?_
  rintro ⟨symbol, site⟩ r - -
  have finish (t : Program) : Quietly t (do
      let params ← addParameters site parameters
      let signature ← newSignature { declaration := some site, parameters := Slots.of params, returns }
      bindSignature site signature
      let type ← newType
        { flags := [.object], objectFlags := [.anonymous], symbol := some symbol,
          constructSignatures := Slots.of [signature] }
      bindSite site type
      pure type) fun _ _ => True := by
    refine quietly_bind (quietly_addParameters _ _) fun params u _ _ => ?_
    refine quietly_bind (quietly_newSignature _) fun signature v _ _ => ?_
    refine quietly_bind (quietly_bindSignature _ _) fun _ w _ _ => ?_
    refine quietly_bind (quietly_newType rfl) fun type x _ _ => ?_
    refine quietly_bind (quietly_bindSite _ _) fun _ y _ _ => ?_
    exact quietly_pure trivial
  dsimp only
  split
  · exact quietly_bind (quietly_setSite site fun _ => rfl) fun _ t _ _ => finish t
  · exact finish r

theorem quietly_callSignature (spec : CallSpec) :
    Quietly q (callSignature spec) fun _ _ => True := by
  refine quietly_bind (quietly_newSite _) fun site r _ _ => ?_
  refine quietly_bind (quietly_addParameters _ _) fun params t _ _ => ?_
  refine quietly_bind (quietly_newSignature _) fun signature u _ _ => ?_
  refine quietly_bind (quietly_bindSignature _ _) fun _ v _ _ => ?_
  exact quietly_pure trivial

theorem quietly_openMapped (key : String) (constraint : Option TypeId) (optional : Bool) :
    Quietly q (openMapped key constraint optional) fun _ _ => True := by
  refine quietly_bind (quietly_declare _ _ _ _ _) ?_
  rintro ⟨symbol, site⟩ r - -
  refine quietly_bind (quietly_setSite site fun _ => rfl) fun _ t _ _ => ?_
  refine quietly_bind (quietly_typeParameter _ _ _) fun keyType u _ _ => ?_
  refine quietly_bind (quietly_declarationOf _) fun declared v _ _ => ?_
  refine quietly_lift_bind fun keySite _ => ?_
  refine quietly_bind (quietly_setSite keySite fun _ => rfl) fun _ w _ _ => ?_
  refine quietly_bind (quietly_setSite site fun _ => rfl) fun _ x _ _ => ?_
  exact quietly_pure trivial

theorem quietly_closeMapped (draft : MappedDraft) (value : Option TypeId) :
    Quietly q (closeMapped draft value) fun _ _ => True := by
  refine quietly_bind (quietly_writtenType _ _) fun written r _ _ => ?_
  refine quietly_bind (quietly_setSite draft.site fun _ => rfl) fun _ t _ _ => ?_
  refine quietly_bind (quietly_newType rfl) fun type u _ _ => ?_
  refine quietly_bind (quietly_bindSite _ _) fun _ v _ _ => ?_
  exact quietly_pure trivial

theorem quietly_placingInitializer (initializer : Option TypeId) (site : SiteId) {rest : Build α}
    (quiet : ∀ r, Quietly r rest fun _ _ => True) :
    Quietly q (placingInitializer initializer site rest) fun _ _ => True := by
  cases initializer with
  | none => exact quiet q
  | some value =>
      refine quietly_bind (quietly_newSite _) fun expression r _ _ => ?_
      refine quietly_bind (quietly_setSite site fun _ => rfl) fun _ t _ _ => ?_
      exact quietly_bind (quietly_bindSite _ _) fun _ u _ _ => quiet u

theorem quietly_bindingValue (value : Option TypeId) (symbol : SymbolId) (site : SiteId)
    {rest : Build α} (quiet : ∀ r, Quietly r rest fun _ _ => True) :
    Quietly q (bindingValue value symbol site rest) fun _ _ => True := by
  cases value with
  | none => exact quiet q
  | some type =>
      refine quietly_bind (quietly_bindSymbol _ _) fun _ r _ _ => ?_
      exact quietly_bind (quietly_bindSite _ _) fun _ t _ _ => quiet t

theorem quietly_variableOf (header : Header) (type initializer : Option TypeId) :
    Quietly q (variableOf header type initializer) fun _ _ => True := by
  refine quietly_bind (quietly_declare _ _ _ _ _) ?_
  rintro ⟨symbol, site⟩ r - -
  refine quietly_bind (quietly_setSymbol symbol (fun _ => rfl) fun _ => ⟨rfl, rfl⟩) fun _ t _ _ => ?_
  have rest (u : Program) :
      Quietly u (placingInitializer initializer site <|
        bindingValue (type <|> initializer) symbol site do
          exportIf header.exported symbol
          pure symbol) fun _ _ => True := by
    refine quietly_placingInitializer _ _ fun v => quietly_bindingValue _ _ _ fun w => ?_
    exact quietly_bind (quietly_exportIf _ _) fun _ _ _ _ => quietly_pure trivial
  cases type with
  | none => exact rest t
  | some annotation =>
      refine quietly_bind (quietly_writtenType _ _) fun written u _ _ => ?_
      exact quietly_bind (quietly_setSite site fun _ => rfl) fun _ v _ _ => rest v

theorem quietly_namespaceOf (name : String) (fileName : Option String) :
    Quietly q (namespaceOf name fileName) fun _ _ => True :=
  quietly_bind (quietly_declare _ _ _ _ _) fun _ _ _ _ => quietly_pure trivial

theorem quietly_valueType (symbol : SymbolId) : Quietly q (valueType symbol) fun _ _ => True := by
  apply Course.get_bind
  dsimp only
  split
  · exact quietly_ask fun _ _ => trivial
  · split
    · exact quietly_ask fun _ _ => trivial
    · exact quietly_lift_bind fun _ _ => quietly_ask fun _ _ => trivial

theorem quietly_defaultExport (target : DefaultTarget) (doc : Option String) :
    Quietly q (defaultExport target doc) fun _ _ => True := by
  -- the symbol gets its declaration only after it was made, but it was not there at the start
  refine Course.bind ((quietly_newSymbol _).onto (Carries.refl q)) ?_
  rintro _ _ carries - ⟨-, rfl, rfl⟩
  apply Course.get_bind
  refine Course.bind ((quietly_source _).onto carries) fun parent r carries _ _ => ?_
  refine Course.bind ((quietly_newSite _).onto carries) fun site t carries _ _ => ?_
  have moved : q.Carries (t.modifySymbol ⟨q.symbols.size⟩
      ({ · with declarations := Slots.of [site] })) :=
    carries.modifySymbol _ (fun _ => rfl) fun inside => absurd inside (Nat.lt_irrefl _)
  refine Course.bind (carrying_write (setSymbol ⟨q.symbols.size⟩ _) rfl moved) ?_
  rintro _ u carries - -
  have finish (v : Program) (expression : SiteId) (value : Option TypeId) :
      Quietly v (do
        bindSite expression value
        pushExport ⟨q.symbols.size⟩
        pure (⟨q.symbols.size⟩ : SymbolId)) fun _ _ => True := by
    refine quietly_bind (quietly_bindSite _ _) fun _ w _ _ => ?_
    refine quietly_bind (quietly_pushExport _) fun _ x _ _ => ?_
    exact quietly_pure trivial
  cases target with
  | symbol named =>
      have rest : Quietly u (do
          let name := ((← get).symbol named).name
          let expression ← newSite
            { kind := .identifier, name := some name, symbol := some named, parent := some site }
          setSite site ({ · with expression := some expression })
          let value ← valueType named
          bindSite expression value
          pushExport ⟨q.symbols.size⟩
          pure (⟨q.symbols.size⟩ : SymbolId)) fun _ _ => True := by
        apply Course.get_bind
        refine quietly_bind (quietly_newSite _) fun expression v _ _ => ?_
        refine quietly_bind (quietly_setSite site fun _ => rfl) fun _ w _ _ => ?_
        exact quietly_bind (quietly_valueType _) fun value x _ _ => finish x expression value
      exact (rest.onto carries).weaken fun _ _ _ _ _ => trivial
  | type value =>
      have rest : Quietly u (do
          let expression ← newSite { kind := .expression, parent := some site }
          setSite site ({ · with expression := some expression })
          bindSite expression value
          pushExport ⟨q.symbols.size⟩
          pure (⟨q.symbols.size⟩ : SymbolId)) fun _ _ => True := by
        refine quietly_bind (quietly_newSite _) fun expression v _ _ => ?_
        exact quietly_bind (quietly_setSite site fun _ => rfl) fun _ w _ _ => finish w expression value
      exact (rest.onto carries).weaken fun _ _ _ _ _ => trivial

theorem quietly_defaultFunction (spec : CallSpec) (doc : Option String) :
    Quietly q (defaultFunction spec doc) fun _ _ => True := by
  refine quietly_bind (quietly_declare _ _ _ _ _) ?_
  rintro ⟨symbol, site⟩ r - -
  refine quietly_bind (quietly_setSymbol symbol (fun _ => rfl) fun _ => ⟨rfl, rfl⟩) fun _ t _ _ => ?_
  refine quietly_bind (quietly_callable _ _ _ _ _) fun type u _ _ => ?_
  refine quietly_bind (quietly_bindSymbol _ _) fun _ v _ _ => ?_
  refine quietly_bind (quietly_pushExport _) fun _ w _ _ => ?_
  exact quietly_pure trivial

end Build

end TypeAtlas
