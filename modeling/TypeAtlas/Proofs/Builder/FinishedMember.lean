import TypeAtlas.Proofs.Builder.Finished
import TypeAtlas.Proofs.Builder.Member

/-!
Parameters, signatures and members leave no question open, as long as they are given types.
-/

namespace TypeAtlas

/-- A parameter that is given a name and a type. -/
def ParamSpec.Regular (spec : ParamSpec) : Prop := spec.name ≠ "" ∧ spec.type ≠ none

instance (spec : ParamSpec) : Decidable spec.Regular := inferInstanceAs (Decidable (_ ∧ _))

/-- A member that is given a type, and so are its parameters. -/
def MemberSpec.Regular : MemberSpec → Prop
  | plain type => type ≠ none
  | prop spec => spec.type ≠ none
  | method spec => spec.returns ≠ none ∧ ∀ param ∈ spec.parameters, param.Regular

instance : (spec : MemberSpec) → Decidable spec.Regular
  | .plain _ => inferInstanceAs (Decidable (_ ≠ _))
  | .prop _ => inferInstanceAs (Decidable (_ ≠ _))
  | .method _ => inferInstanceAs (Decidable (_ ∧ _))

namespace Build

open Program

def Generics (q : Program) (params : List (Option TypeId)) : Prop :=
  ∀ param ∈ params, ∃ type, param = some type ∧ q.Generic type

variable {q : Program}

theorem Generics.later {r : Program} {params : List (Option TypeId)} (generics : Generics q params)
    (retains : q.Retains r) : Generics r params := by
  intro param member
  obtain ⟨type, same, generic⟩ := generics param member
  exact ⟨type, same, retains.generic generic⟩

theorem Generics.mono {params more : List (Option TypeId)} (generics : Generics q more)
    (fewer : params ⊆ more) : Generics q params :=
  fun param member => generics param (fewer member)

theorem Generics.whole {params : List (Option TypeId)} (generics : Generics q params) : none ∉ params := by
  intro gap
  obtain ⟨type, same, -⟩ := generics none gap
  cases same

variable (whole : q.Whole)
include whole

theorem finishes_attachTypeParameters (site : SiteId) {params : List (Option TypeId)}
    (generics : Generics q params) :
    finishing.Keeps q (attachTypeParameters site params) fun _ _ => True := by
  refine Course.forM (fun _ => True) whole trivial fun param member r wholeR grown _ => ?_
  obtain ⟨type, rfl, symbol, place, held, first, owned, answered⟩ := generics.later grown.1 param member
  refine Course.ask_bind wholeR fun declared asked => ?_
  obtain ⟨_, _, ⟨⟩, same, known⟩ := first_of_declarationOf asked
  rw [held] at same
  cases same
  rw [first] at known
  subst known
  refine Course.lift_bind wholeR fun paramSite found => ?_
  obtain ⟨⟩ := of_present found
  refine Course.bind (finishes_arrange wholeR (f := fun s => { s with parent := some site })
    (fun s => Site.retains_of_same rfl rfl rfl rfl rfl rfl) fun site => { site with }) ?_
  intro _ t wholeT further _
  refine finishes_arrange wholeT
    (f := fun s => { s with typeParameters := some (s.typeParameters.slots ++ [some place]) })
    (fun s => Site.retains_of_same rfl rfl rfl rfl rfl rfl) fun site =>
      { site with typeParameters := Slots.full_some ?_, parameter := ?_ }
  · simpa using site.typeParameters.whole
  · intro other listed
    rcases List.mem_append.mp listed with old | new
    · exact site.parameter other old
    · cases List.mem_singleton.mp new
      exact further.1.answered answered

theorem finishes_parameter (parent : SiteId) {spec : ParamSpec} (regular : spec.Regular) :
    finishing.Keeps q (parameter parent spec) fun r made => r.Annotated made.1 := by
  obtain ⟨named, typed⟩ := regular
  obtain ⟨type, given⟩ := Option.ne_none_iff_exists'.mp typed
  have place : SiteWhole q
      { kind := .parameter, name := some spec.name, parent := some parent,
        optional := some spec.optional, spread := some spec.spread } :=
    { siteWhole_fresh .parameter (some spec.name) none (some parent) none (by rintro ⟨⟩) fun _ => rfl with
      spread := by rintro ⟨⟩, optional := by rintro ⟨⟩ }
  refine Course.bind (finishes_newSite whole place rfl) ?_
  rintro site r wholeR - ⟨-, -, made, inside⟩
  have new := symbolWhole_announced (q := r) spec.name [.variableKind] site (some site) none fun _ => named
  refine Course.begin (fun symbol => .symbol symbol) (fills_newSymbol wholeR new) ?_
  rintro symbol t wholeT retains ⟨sites, there, known⟩
  have stands : Stands t site .parameter := by
    rw [Stands, Program.site, sites]
    exact ⟨inside, congrArg Site.kind made⟩
  refine Course.bind (finishes_giveSymbol wholeT symbol ?_ ?_) fun _ u wholeU first _ => ?_
  · rw [stands.2]
    rfl
  · rw [stands.2]
    rintro ⟨⟩
  simp only [given]
  refine Course.bind (finishes_writtenType wholeU _ _) fun written v wholeV second answered => ?_
  refine Course.bind (finishes_giveType wholeV answered) ?_
  rintro _ w wholeW third ⟨-, told⟩
  refine Course.bind (finishes_bindSymbol wholeW symbol type) fun _ x wholeX last _ => ?_
  have upto := (first.1.trans second.1).trans (third.1.trans last.1)
  have typed := last.1.siteType (told ((stands.later first.1).later second.1).1)
  have first : (x.symbol symbol).declarations.first? = some site :=
    upto.first (congrArg (fun s => s.declarations.first?) known)
  have value : (x.symbol symbol).valueDeclaration = some site :=
    upto.value (congrArg Symbol.valueDeclaration known)
  refine Course.pure wholeX ⟨⟨site, value, typed⟩, SymbolDone.of_flags
    ((upto.symbol symbol there).flags.trans (congrArg Symbol.flags known)) ?_⟩
  refine ⟨?_, ?_, ?_, ?_, fun _ => ⟨site, first, value, .inl typed⟩, ?_, ?_⟩
  all_goals rintro ⟨⟩

theorem finishes_addParameters (parent : SiteId) {specs : List ParamSpec}
    (regular : ∀ spec ∈ specs, spec.Regular) :
    finishing.Keeps q (addParameters parent specs) fun r params => ∀ param ∈ params, r.Annotated param := by
  have stable (q r : Program) (made : SymbolId × SiteId) (grown : finishing.grows q r)
      (known : q.Annotated made.1) : r.Annotated made.1 := grown.1.annotated known
  refine Course.bind (Course.mapM stable whole fun spec member r wholeR _ =>
    finishes_parameter wholeR parent (regular spec member)) ?_
  intro made r wholeR _ known
  refine Course.bind (finishes_arrange wholeR
    (f := fun s => { s with parameters := Slots.of (made.map Prod.snd) })
    (fun s => Site.retains_of_same rfl rfl rfl rfl rfl rfl)
    fun site => { site with parameters := Slots.full_of _ }) ?_
  intro _ t wholeT grown _
  refine Course.pure wholeT fun param listed => ?_
  obtain ⟨pair, inMade, rfl⟩ := List.mem_map.mp listed
  exact grown.1.annotated (known pair inMade)

omit whole in
theorem signatureWhole_of (site : SiteId) {params : List SymbolId} (typeParameters : Slots TypeId)
    {returns : Option TypeId} (generic : none ∉ typeParameters.slots)
    (annotated : ∀ param ∈ params, q.Annotated param) (given : returns ≠ none) :
    SignatureWhole q
      { declaration := some site, typeParameters, parameters := Slots.of params, returns } :=
  ⟨generic, Slots.full_of params, fun param held => annotated param (Slots.mem_of held), given⟩

theorem finishes_callable {symbol : SymbolId} {site : SiteId} {kind : SiteKind}
    (stands : Stands q site kind)
    (function : kind = .functionDeclaration → (q.symbol symbol).hasFlag .function = true)
    {parameters : List ParamSpec} (regular : ∀ spec ∈ parameters, spec.Regular)
    {returns : Option TypeId} (given : returns ≠ none) {typeParameters : List (Option TypeId)}
    (generics : Generics q typeParameters) :
    finishing.Keeps q (callable symbol site parameters returns typeParameters) fun r _ =>
      r.Signed site ∧ r.Answered site := by
  refine Course.bind (finishes_attachTypeParameters whole site generics) fun _ r wholeR first _ => ?_
  refine Course.bind (finishes_addParameters wholeR site regular) fun params t wholeT second annotated => ?_
  refine Course.bind (finishes_writtenType wholeT _ _) fun written u wholeU third answered => ?_
  refine Course.bind (finishes_giveType wholeU answered) fun _ v wholeV fourth _ => ?_
  have upto := ((first.1.trans second.1).trans third.1).trans fourth.1
  have new : SignatureWhole v
      { declaration := some site, typeParameters := some typeParameters,
        parameters := Slots.of params, returns } :=
    signatureWhole_of site _ generics.whole
      (fun param held => (third.1.trans fourth.1).annotated (annotated param held)) given
  refine Course.bind (finishes_newSignature wholeV new) fun signature w wholeW fifth _ => ?_
  have upto := upto.trans fifth.1
  refine Course.bind (finishes_bindSignature wholeW signature) fun _ x wholeX sixth signed => ?_
  have signed := signed (stands.later upto).1
  have upto := upto.trans sixth.1
  refine Course.bind (finishes_newType wholeX ?_) ?_
  · exact { typeWhole_fresh [.object] rfl with callSignatures := Slots.full_of _ }
  rintro type y wholeY seventh ⟨-, -, made⟩
  have upto := upto.trans seventh.1
  refine Course.bind (finishes_bindSite wholeY fun same => ?_) fun _ z wholeZ last told => ?_
  · rw [(stands.later upto).2] at same
    refine ⟨?_, symbol, congrArg TypeInfo.symbol made, upto.hasFlag (function same)⟩
    rw [made]
    simp [Slots.of, Slots.slots]
  · exact Course.pure wholeZ ⟨(seventh.1.trans last.1).signed signed, told.2 (stands.later upto).1⟩

def Shows (q : Program) (member : SymbolId) : Prop :=
  (q.symbol member).isShown = true ∧
    ∃ site, (q.symbol member).valueDeclaration = some site ∧ (q.site site).kind.isMember = true

omit whole in
theorem Shows.later {r : Program} {member : SymbolId} (shows : Shows q member) (retains : q.Retains r) :
    Shows r member := by
  obtain ⟨shown, site, held, kind⟩ := shows
  refine ⟨retains.isShown shown, site, retains.value held, ?_⟩
  rw [(retains.site site (site_inside (fun s => s.kind.isMember = true) kind nofun)).kind, kind]

theorem finishes_propMember (name : String) {spec : PropSpec} (typed : spec.type ≠ none)
    (parent : SiteId) {kind : SiteKind}
    (sort : kind = .propertySignature ∨ kind = .propertyDeclaration) :
    finishing.Keeps q (propMember name spec parent kind) Shows := by
  obtain ⟨type, given⟩ := Option.ne_none_iff_exists'.mp typed
  have apart : kind.isExpression = false := by rcases sort with rfl | rfl <;> rfl
  have isMember : kind.isMember = true := by rcases sort with rfl | rfl <;> rfl
  have place : SiteWhole q
      { kind, name := some name, parent := some parent, modifiers := Slots.of spec.modifiers } :=
    { siteWhole_fresh kind (some name) none (some parent) none nofun fun _ => rfl with
      modifiers := Slots.full_of _ }
  refine Course.bind (finishes_newSite whole place ?_) ?_
  · rcases sort with rfl | rfl <;> rfl
  rintro site r wholeR - ⟨-, -, made, inside⟩
  have stands : Stands r site kind := ⟨inside, congrArg Site.kind made⟩
  refine Course.bind (finishes_writtenType wholeR _ _) fun written t wholeT first answered => ?_
  refine Course.bind (finishes_giveType wholeT answered) ?_
  rintro _ u wholeU second ⟨-, told⟩
  have stands := (stands.later first.1).later second.1
  have typed := told (Nat.lt_of_lt_of_le inside first.1.sites)
  have new := symbolWhole_announced (q := u) name (.property :: optionalFlag spec.optional) site
    (some site) spec.doc (by cases spec.optional <;> nofun)
  have unsigned : u.isMethodSite (some site) = false := by
    rw [isMethodSite, hasKind, Option.any_some, stands.2]
    rcases sort with rfl | rfl <;> rfl
  have done : SymbolDone u
      { name, flags := .property :: optionalFlag spec.optional, declarations := Slots.of [site],
        valueDeclaration := some site, documentation := docList spec.doc } := by
    cases spec.optional <;> exact symbolDone_of_plain rfl rfl rfl rfl fun _ =>
      ⟨site, rfl, by rw [unsigned]; exact typed⟩
  refine Course.bind (finishes_newSymbol wholeU new done) ?_
  rintro symbol v wholeV third ⟨sites, there, known⟩
  have shown : (v.symbol symbol).isShown = true := by
    rw [known]
    cases spec.optional <;> rfl
  have stands := stands.later third.1
  refine Course.bind (finishes_giveSymbol wholeV symbol ?_ fun _ => shown) ?_
  · rw [stands.2, apart]
  intro _ w wholeW fourth _
  simp only [given]
  refine Course.bind (finishes_bindSymbol wholeW symbol type) fun _ x wholeX last _ => ?_
  have shows : Shows v symbol :=
    ⟨shown, site, congrArg Symbol.valueDeclaration known, by rw [stands.2, isMember]⟩
  exact Course.pure wholeX (shows.later (fourth.1.trans last.1))

theorem finishes_methodMember (name : String) {spec : MethodSpec} (given : spec.returns ≠ none)
    (regular : ∀ param ∈ spec.parameters, param.Regular) (generics : Generics q spec.typeParameters)
    (parent : SiteId) : finishing.Keeps q (methodMember name spec parent) Shows := by
  refine Course.bind (finishes_newSite whole
    (siteWhole_fresh .methodSignature (some name) none (some parent) none nofun fun _ => rfl) rfl) ?_
  rintro site r wholeR first ⟨-, -, made, inside⟩
  have stands : Stands r site .methodSignature := ⟨inside, congrArg Site.kind made⟩
  have new := symbolWhole_announced (q := r) name (.method :: optionalFlag spec.optional) site
    (some site) spec.doc (by cases spec.optional <;> nofun)
  refine Course.begin (fun symbol => .symbol symbol) (fills_newSymbol wholeR new) ?_
  rintro symbol t wholeT second ⟨sites, there, known⟩
  have shown : (t.symbol symbol).isShown = true := by
    rw [known]
    cases spec.optional <;> rfl
  have stands := stands.later second
  refine Course.bind (finishes_giveSymbol wholeT symbol ?_ fun _ => shown) ?_
  · rw [stands.2]
    rfl
  intro _ u wholeU third _
  refine Course.bind (finishes_callable wholeU (stands.later third.1) nofun regular given
    (generics.later ((first.1.trans second).trans third.1))) ?_
  rintro type v wholeV fourth ⟨signed, -⟩
  refine Course.bind (finishes_bindSymbol wholeV symbol type) fun _ w wholeW last _ => ?_
  have upto := (third.1.trans fourth.1).trans last.1
  have shows : Shows t symbol :=
    ⟨shown, site, congrArg Symbol.valueDeclaration known, by rw [stands.2]; rfl⟩
  refine Course.pure wholeW ⟨shows.later upto, SymbolDone.of_flags
    ((upto.symbol symbol there).flags.trans (congrArg Symbol.flags known)) ?_⟩
  have first : (w.symbol symbol).declarations.first? = some site :=
    upto.first (congrArg (fun s => s.declarations.first?) known)
  have method : w.isMethodSite (some site) = true := by
    rw [isMethodSite, hasKind, Option.any_some, (stands.later upto).2]
    rfl
  cases spec.optional <;> exact symbolDone_of_plain rfl rfl rfl rfl fun _ =>
    ⟨site, first, by rw [method]; exact last.1.signed signed⟩

theorem finishes_member (parent : SiteId) {kind : SiteKind}
    (sort : kind = .propertySignature ∨ kind = .propertyDeclaration) (name : String)
    {spec : MemberSpec} (regular : spec.Regular)
    (generics : Generics q spec.typeParameters) :
    finishing.Keeps q (member parent kind name spec) Shows := by
  cases spec with
  | plain type =>
      cases type with
      | none => exact absurd rfl regular
      | some type =>
          exact finishes_propMember whole name (Option.some_ne_none type) parent sort
  | prop spec => exact finishes_propMember whole name regular parent sort
  | method spec => exact finishes_methodMember whole name regular.1 regular.2 generics parent

theorem finishes_members (parent : SiteId) {kind : SiteKind}
    (sort : kind = .propertySignature ∨ kind = .propertyDeclaration) {specs : Table String MemberSpec}
    (regular : ∀ entry ∈ specs, entry.2.Regular) (generics : Generics q (memberParameters specs)) :
    finishing.Keeps q (members parent kind specs) fun r made => ∀ symbol ∈ made, Shows r symbol :=
  Course.mapM (fun _ _ _ grown shows => shows.later grown.1) whole fun entry member _ wholeR grown =>
    finishes_member wholeR parent sort entry.1 (regular entry member)
      ((generics.later grown.1).mono fun _ held => List.mem_flatMap.mpr ⟨entry, member, held⟩)

theorem finishes_indexSignature (keyType : TypeId) (spec : Option IndexSpec) (parent : SiteId) :
    finishing.Keeps q (indexSignature keyType spec parent) fun _ _ => True := by
  cases spec with
  | none => exact Course.pure whole trivial
  | some spec =>
      refine Course.bind (finishes_newSite whole
        (siteWhole_fresh .indexSignature none none (some parent) none nofun fun _ => rfl) rfl) ?_
      intro site _ wholeR _ _
      have finish {t : Program} (wholeT : t.Whole) : finishing.Keeps t
          (some <$> newIndexInfo { keyType := some keyType, type := spec.type, declaration := some site })
          fun _ _ => True := Course.map _ (finishes_newIndexInfo wholeT _) fun _ _ _ => trivial
      cases spec.keyName with
      | none => exact finish wholeR
      | some keyName =>
          refine Course.bind (finishes_newSite wholeR
            (siteWhole_fresh .parameter (some keyName) none (some site) none nofun fun _ => rfl) rfl) ?_
          intro key t wholeT _ _
          refine Course.bind (finishes_arrange wholeT
            (f := fun s => { s with parameters := Slots.of [key] })
            (fun s => Site.retains_of_same rfl rfl rfl rfl rfl rfl)
            fun site => { site with parameters := Slots.full_of _ }) ?_
          exact fun _ u wholeU _ _ => finish wholeU

theorem finishes_populate (type : TypeId) (site : SiteId) {specs : Table String MemberSpec}
    (bases : List (Option TypeId)) {kind : SiteKind}
    (sort : kind = .propertySignature ∨ kind = .propertyDeclaration)
    (regular : ∀ entry ∈ specs, entry.2.Regular)
    (generics : Generics q (memberParameters specs)) (stringIndex numberIndex : Option IndexSpec) :
    finishing.Keeps q (populate type site specs bases kind stringIndex numberIndex)
      fun _ _ => True := by
  refine Course.bind (finishes_members whole site sort regular generics) ?_
  intro own r wholeR _ made
  refine Course.ask_bind wholeR fun inherited found => ?_
  refine Course.bind (finishes_indexSignature wholeR _ _ _) fun ownString t wholeT first _ => ?_
  refine Course.bind (finishes_indexSignature wholeT _ _ _) fun ownNumber u wholeU second _ => ?_
  refine Course.get_bind (finishes_setType wholeU rfl (.inl rfl) fun known =>
    { known with properties := Slots.full_of _, shown := fun member listed => ?_ })
  refine (first.1.trans second.1).isShown ?_
  rcases List.mem_append.mp (Slots.mem_of listed) with new | old
  · exact (made member new).1
  · obtain ⟨base, -, held⟩ := of_inheritedProperties found old
    exact (wholeR.types base).shown member held

theorem finishes_heritageSite (parent : SiteId) (base : Option TypeId) :
    finishing.Keeps q (heritageSite parent base) fun r site => r.Answered site := by
  apply Course.get_bind
  refine Course.lift_bind whole fun id found => ?_
  obtain rfl := of_present found
  refine Course.bind (finishes_newSite whole (siteWhole_fresh .expressionWithTypeArguments none none
    (some parent) none nofun fun _ => rfl) rfl) ?_
  rintro site r wholeR - ⟨-, -, made, inside⟩
  have stands : Stands r site .expressionWithTypeArguments := ⟨inside, congrArg Site.kind made⟩
  refine Course.bind (finishes_newSite wholeR
    (siteWhole_fresh .identifier _ none (some site) none nofun fun _ => rfl) rfl) ?_
  intro expression t wholeT first _
  have stands := stands.later first.1
  refine Course.bind (finishes_arrange wholeT (f := fun s => { s with expression := some expression })
    (fun s => ⟨rfl, fun held => held, fun _ => rfl, fun held => held, fun held => held,
      fun _ => nofun, fun held => held, fun held => held⟩)
    fun known => { known with expression := fun kind => ?_ }) fun _ u wholeU second _ => ?_
  · cases stands.2.symm.trans kind
  have stands := stands.later second.1
  refine Course.bind (finishes_bindSite wholeU fun kind => ?_) fun _ v wholeV _ told => ?_
  · rw [stands.2] at kind
    cases kind
  · exact Course.pure wholeV (told.2 stands.1)

theorem finishes_addHeritage (site : SiteId) (token : HeritageToken) (bases : List (Option TypeId)) :
    finishing.Keeps q (addHeritage site token bases) fun _ _ => True := by
  unfold addHeritage
  split
  · exact Course.pure whole trivial
  · have stable (q r : Program) (site : SiteId) (grown : finishing.grows q r)
        (answered : q.Answered site) : r.Answered site := grown.1.answered answered
    refine Course.bind (Course.mapM stable whole fun base _ _ wholeR _ =>
      finishes_heritageSite wholeR site base) ?_
    intro types r wholeR _ answered
    refine finishes_arrange wholeR
      (f := fun s => { s with heritage := s.heritage ++ [{ token, types := types.map some }] })
      (fun s => Site.retains_of_same rfl rfl rfl rfl rfl rfl)
      fun known => { known with heritage := fun clause held slot listed => ?_ }
    rcases List.mem_append.mp held with old | new
    · exact known.heritage clause old slot listed
    · cases List.mem_singleton.mp new
      obtain ⟨base, inTypes, rfl⟩ := List.mem_map.mp listed
      exact ⟨base, rfl, answered base inTypes⟩

end Build

end TypeAtlas
