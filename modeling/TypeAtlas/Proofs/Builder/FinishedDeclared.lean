import TypeAtlas.Proofs.Builder.Declared
import TypeAtlas.Proofs.Builder.FinishedMember

/-!
Declared types leave no question open: interfaces, classes, aliases and enumerations.
-/

namespace TypeAtlas

namespace Build

open Program

variable {q : Program} (whole : q.Whole)
include whole

/-- A declaration of which nothing more has to be told. -/
theorem finishes_declare {kind : SiteKind} (plain : kind.isPlain = true) {name : String}
    (flags : SymbolFlags) (titled : flags.contains .typeAlias || flags.contains .variableKind → name ≠ "")
    (settled : ∀ {r : Program} {s : Symbol}, s.flags = flags → SymbolDone r s)
    (doc fileName : Option String) :
    finishing.Keeps q (declare kind name flags doc fileName) fun r made =>
      Announced r kind flags made.1 made.2 := by
  apply Course.close
  refine (fills_declare whole plain flags titled doc fileName).weaken ?_
  rintro r ⟨symbol, site⟩ - - ⟨announced, begins⟩
  refine ⟨announced, fun item done => ?_⟩
  by_cases same : item = .symbol symbol
  · rw [same]
    exact settled announced.flagged
  · exact begins item same done

theorem finishes_conclude {symbol : SymbolId} (there : symbol.index < q.symbols.size) {site : SiteId}
    {kind : SiteKind} (stands : Stands q site kind) (other : kind ≠ .functionDeclaration)
    (type : TypeId) (exported : Bool) :
    finishing.Keeps q (do
      bindDeclared symbol type
      bindSite site type
      exportIf exported symbol
      pure type) fun r _ => (r.symbol symbol).answers.declared ≠ none ∧ r.Answered site := by
  refine Course.bind (finishes_bindDeclared whole symbol type) ?_
  rintro _ r wholeR first ⟨-, declares⟩
  have stands := stands.later first.1
  refine Course.bind (finishes_bindSite wholeR fun kind => ?_) fun _ t wholeT second told => ?_
  · exact absurd (stands.2.symm.trans kind) other
  refine Course.bind (finishes_exportIf wholeT exported symbol) fun _ u wholeU third _ => ?_
  have upto := second.1.trans third.1
  have thereR := Nat.lt_of_lt_of_le there first.1.symbols
  exact Course.pure wholeU
    ⟨(upto.symbol symbol thereR).declared (declares there), third.1.answered (told.2 stands.1)⟩

omit whole in
/-- A symbol that declares a type and is nothing else. -/
theorem symbolDone_of_declared {s : Symbol} {flag : SymbolFlag} (flagged : s.flags = [flag])
    (sort : flag ∈ [SymbolFlag.interface, .classKind, .regularEnum, .constEnum])
    (declared : s.answers.declared ≠ none) : SymbolDone q s := by
  refine SymbolDone.of_flags flagged ?_
  simp only [List.mem_cons, List.not_mem_nil, or_false] at sort
  rcases sort with rfl | rfl | rfl | rfl <;>
    exact ⟨fun _ => declared, nofun, nofun, nofun, nofun, nofun, nofun⟩

omit whole in
theorem slots_someUnlessEmpty {α : Type} (items : List (Option α)) :
    Slots.slots (someUnlessEmpty items) = items := by
  cases items <;> rfl

omit whole in
theorem not_callable {type : TypeId} {symbol : SymbolId} (held : (q.type type).symbol = some symbol)
    (plain : (q.symbol symbol).hasFlag .function = false) : ¬ q.Callable type := by
  rintro ⟨-, other, same, flagged⟩
  rw [held] at same
  cases same
  rw [plain] at flagged
  cases flagged

/-- Call signatures are given to a type that is not the type of a function. -/
theorem finishes_setCalls {type : TypeId} {symbol : SymbolId} (held : (q.type type).symbol = some symbol)
    (plain : (q.symbol symbol).hasFlag .function = false) {signatures : List (Option SignatureId)}
    (given : none ∉ signatures) :
    finishing.Keeps q (setType type ({ · with callSignatures := some signatures })) fun _ _ => True :=
  finishes_setType whole (f := fun t => { t with callSignatures := some signatures }) rfl
    (.inr (not_callable held plain)) fun known => { known with callSignatures := Slots.full_some given }

theorem finishes_interface {spec : InterfaceSpec} (regular : ∀ entry ∈ spec.members, entry.2.Regular)
    (generics : Generics q (spec.typeParameters ++ memberParameters spec.members))
    (signatures : none ∉ spec.callSignatures) :
    finishing.Keeps q (interface spec) fun _ _ => True := by
  have own : Generics q spec.typeParameters := generics.mono (List.subset_append_left _ _)
  refine Course.begin (fun made => .symbol made.1)
    (fills_declare whole rfl [.interface] (by rintro ⟨⟩) _ _) ?_
  rintro ⟨symbol, site⟩ r wholeR zeroth announced
  refine Course.bind (finishes_setSymbol wholeR (f := fun s => { s with parent := spec.enclosing })
    ⟨rfl, fun _ => rfl, fun _ held => held, fun held => held⟩ fun known => { known with })
    fun _ t wholeT first _ => ?_
  refine Course.bind (finishes_newType wholeT ?_) ?_
  · refine { typeWhole_fresh [.object] rfl with typeParameters := ?_ }
    rw [slots_someUnlessEmpty]
    exact own.whole
  rintro type u wholeU second ⟨-, -, made⟩
  have begun := zeroth.trans (first.1.trans second.1)
  refine Course.bind (finishes_attachTypeParameters wholeU site (own.later begun)) ?_
  intro _ v wholeV third _
  refine Course.bind (finishes_populate wholeV type site spec.bases (.inl rfl) regular
    ((generics.later (begun.trans third.1)).mono (List.subset_append_right _ _)) _ _) ?_
  intro _ w wholeW fourth _
  have since := third.1.trans fourth.1
  have upto := (first.1.trans second.1).trans since
  have flagged : (w.symbol symbol).flags = [.interface] :=
    (upto.symbol symbol announced.there).flags.trans announced.flagged
  refine Course.bind (finishes_setCalls wholeW (since.typeSymbol (congrArg TypeInfo.symbol made))
    (by rw [Symbol.hasFlag, flagged]; rfl) signatures) fun _ x wholeX fifth _ => ?_
  refine Course.bind (finishes_addHeritage wholeX site .bases spec.bases) fun _ y wholeY sixth _ => ?_
  have upto := upto.trans (fifth.1.trans sixth.1)
  refine (finishes_conclude wholeY (Nat.lt_of_lt_of_le announced.there upto.symbols)
    (announced.stands.later upto) (by rintro ⟨⟩) type _).weaken ?_
  rintro z _ - last ⟨declared, -⟩
  have flagged : (z.symbol symbol).flags = [.interface] :=
    ((upto.trans last.1).symbol symbol announced.there).flags.trans announced.flagged
  exact ⟨trivial, symbolDone_of_declared flagged (by decide) declared⟩

theorem finishes_staticMember (site : SiteId) (name : String) {spec : MemberSpec}
    (regular : spec.Regular) (generics : Generics q spec.typeParameters) :
    finishing.Keeps q (staticMember site name spec) Shows := by
  refine Course.bind (finishes_member whole site (.inr rfl) name regular generics) ?_
  intro symbol r wholeR _ shows
  apply Course.get_bind
  dsimp only
  split
  · refine Course.bind (finishes_arrange wholeR
      (f := fun s => { s with modifiers := some (some "static" :: s.modifiers.slots) })
      (fun s => Site.retains_of_same rfl rfl rfl rfl rfl rfl)
      fun known => { known with modifiers := Slots.full_some ?_ }) fun _ t wholeT grown _ => ?_
    · simpa using known.modifiers.whole
    · exact Course.pure wholeT (shows.later grown.1)
  · exact Course.pure wholeR shows

theorem finishes_statics (site : SiteId) {specs : Table String MemberSpec}
    (regular : ∀ entry ∈ specs, entry.2.Regular) (generics : Generics q (memberParameters specs)) :
    finishing.Keeps q (specs.mapM fun (name, member) => staticMember site name member)
      fun r statics => ∀ symbol ∈ statics, Shows r symbol :=
  Course.mapM (fun _ _ _ grown shows => shows.later grown.1) whole fun entry member _ wholeR grown =>
    finishes_staticMember wholeR site entry.1 (regular entry member)
      ((generics.later grown.1).mono fun _ held => List.mem_flatMap.mpr ⟨entry, member, held⟩)

theorem finishes_constructorSite (classSite : SiteId) (instanceType : TypeId)
    {parameters : List ParamSpec} (regular : ∀ spec ∈ parameters, spec.Regular) :
    finishing.Keeps q (constructorSite classSite instanceType parameters) fun r site => r.Signed site := by
  refine Course.bind (finishes_newSite whole (siteWhole_fresh .constructorDeclaration none none
    (some classSite) none nofun fun _ => rfl) rfl) ?_
  rintro site r wholeR - ⟨-, -, -, inside⟩
  refine Course.bind (finishes_addParameters wholeR site regular) fun params t wholeT first made => ?_
  refine Course.bind (finishes_newSignature wholeT
    (signatureWhole_of site (some []) List.not_mem_nil made
      (Option.some_ne_none instanceType))) fun signature u wholeU second _ => ?_
  refine Course.bind (finishes_bindSignature wholeU signature) fun _ v wholeV _ signed => ?_
  exact Course.pure wholeV (signed (Nat.lt_of_lt_of_le inside (first.1.trans second.1).sites))

theorem finishes_constructors (classSite : SiteId) (instanceType : TypeId)
    {specs : List (List ParamSpec)} (regular : ∀ parameters ∈ specs, ∀ param ∈ parameters, param.Regular) :
    finishing.Keeps q (specs.mapM (constructorSite classSite instanceType))
      fun r sites => ∀ site ∈ sites, r.Signed site :=
  Course.mapM (fun _ _ _ grown signed => grown.1.signed signed) whole fun parameters member _ wholeR _ =>
    finishes_constructorSite wholeR classSite instanceType (regular parameters member)

theorem finishes_hold {constructors : List SiteId} (some : constructors ≠ [])
    (signed : ∀ site ∈ constructors, q.Signed site) :
    finishing.Keeps q (newSymbol { name := constructorKey, declarations := Slots.of constructors })
      fun r held => r.Constructs held := by
  have new : SymbolWhole q { name := constructorKey, declarations := Slots.of constructors } :=
    { documentation := Slots.full_of []
      exports := Slots.full_of []
      statics := nofun
      constructors := nofun
      value := nofun
      declared := nofun
      titled := nofun }
  refine (finishes_newSymbol whole new (symbolDone_of_plain rfl rfl rfl rfl nofun)).weaken ?_
  rintro r held - grown ⟨-, -, known⟩
  exact ⟨held, constructors, rfl, some, congrArg Symbol.declarations known,
    fun site member => grown.1.signed (signed site member)⟩

theorem finishes_classType {spec : ClassSpec} (regular : ∀ entry ∈ spec.members, entry.2.Regular)
    (statics : ∀ entry ∈ spec.statics, entry.2.Regular)
    (constructors : ∀ parameters ∈ spec.constructors, ∀ param ∈ parameters, param.Regular)
    (generics : Generics q
      (spec.typeParameters ++ memberParameters spec.members ++ memberParameters spec.statics)) :
    finishing.Keeps q (classType spec) fun _ _ => True := by
  have own : Generics q spec.typeParameters := generics.mono (by simp)
  refine Course.begin (fun made => .symbol made.1) (fills_declare whole rfl [.classKind] nofun _ _) ?_
  rintro ⟨symbol, site⟩ r wholeR zeroth announced
  refine Course.bind (finishes_newType wholeR ?_) fun type t wholeT next _ => ?_
  · refine { typeWhole_fresh [.object] rfl with typeParameters := ?_ }
    rw [slots_someUnlessEmpty]
    exact own.whole
  have upto := next.1
  refine Course.bind (finishes_attachTypeParameters wholeT site (own.later (zeroth.trans upto))) ?_
  intro _ u wholeU next _
  have upto := upto.trans next.1
  refine Course.bind (finishes_populate wholeU type site _ (.inr rfl) regular
    ((generics.later (zeroth.trans upto)).mono (by simp)) none none) ?_
  intro _ v wholeV next _
  have upto := upto.trans next.1
  refine Course.bind (finishes_addHeritage wholeV site .bases _) fun _ w wholeW next _ => ?_
  have upto := upto.trans next.1
  refine Course.bind (finishes_addHeritage wholeW site .implemented _) fun _ x wholeX next _ => ?_
  have upto := upto.trans next.1
  have hidden : SymbolWhole x { name := "prototype", flags := [.property, .prototype] } :=
    { documentation := Slots.full_of []
      exports := Slots.full_of []
      statics := nofun
      constructors := nofun
      value := nofun
      declared := nofun
      titled := nofun }
  refine Course.bind (finishes_newSymbol wholeX hidden
    (symbolDone_of_plain rfl rfl rfl rfl nofun)) ?_
  rintro prototype y wholeY next ⟨-, -, known⟩
  have upto := upto.trans next.1
  have isPrototype : (y.symbol prototype).hasFlag .prototype = true := by
    rw [known]
    rfl
  refine Course.bind (finishes_statics wholeY site statics
    ((generics.later (zeroth.trans upto)).mono (by simp))) fun made z wholeZ next shown => ?_
  have upto := upto.trans next.1
  have static (member : SymbolId) (held : member ∈ prototype :: made) : z.StaticMember member := by
    rcases List.mem_cons.mp held with rfl | later
    · exact .inl (next.1.hasFlag isPrototype)
    · exact .inr (shown member later)
  refine Course.bind (finishes_setSymbol wholeZ
    (f := fun s => { s with exports := Slots.of (prototype :: made) })
    ⟨rfl, fun _ => rfl, fun _ held => held, fun held => held⟩ fun known =>
    { known with
      exports := Slots.full_of _
      statics := fun _ member held => static member (Slots.mem_of held) }) fun _ a wholeA next _ => ?_
  have upto := upto.trans next.1
  refine Course.bind (finishes_constructors wholeA site type constructors)
    fun sites b wholeB next signed => ?_
  have upto := upto.trans next.1
  have conclude {c : Program} (wholeC : c.Whole) (since : b.Retains c) :
      finishing.Keeps c (do
        bindDeclared symbol type
        bindSite site type
        exportIf spec.header.exported symbol
        pure type) fun d _ => True ∧ d.Done (.symbol symbol) := by
    have upto := upto.trans since
    refine (finishes_conclude wholeC (Nat.lt_of_lt_of_le announced.there upto.symbols)
      (announced.stands.later upto) nofun type _).weaken ?_
    rintro d _ - last ⟨declared, -⟩
    have flagged : (d.symbol symbol).flags = [.classKind] :=
      ((upto.trans last.1).symbol symbol announced.there).flags.trans announced.flagged
    exact ⟨trivial, symbolDone_of_declared flagged (by decide) declared⟩
  dsimp only
  split
  · rename_i given
    refine Course.bind (finishes_hold wholeB (by simpa using given) signed) ?_
    intro held c wholeC next constructs
    refine Course.bind (finishes_setSymbol wholeC
      (f := fun s => { s with members := Table.put s.members constructorKey (some held) })
      ⟨rfl, fun _ => rfl, fun _ held => held, fun held => held⟩ fun known =>
      { known with constructors := fun other found => ?_ }) fun _ d wholeD last _ => ?_
    · rw [Table.get?_put_self] at found
      cases found
      exact constructs
    · exact conclude wholeD (next.1.trans last.1)
  · exact conclude wholeB (Retains.refl b)

theorem finishes_addMembers {target : Option TypeId} {specs : Table String MemberSpec}
    (regular : ∀ entry ∈ specs, entry.2.Regular) (generics : Generics q (memberParameters specs)) :
    finishing.Keeps q (addMembers target specs) fun _ _ => True := by
  refine Course.lift_bind whole fun type _ => ?_
  refine Course.ask_bind whole fun declared _ => ?_
  refine Course.lift_bind whole fun site _ => Course.get_bind ?_
  dsimp only
  have sort : (if (q.site site).kind = .classDeclaration then SiteKind.propertyDeclaration
      else .propertySignature) = .propertySignature ∨
      (if (q.site site).kind = .classDeclaration then SiteKind.propertyDeclaration
      else .propertySignature) = .propertyDeclaration := by
    split
    · exact .inr rfl
    · exact .inl rfl
  refine Course.bind (finishes_members whole site sort regular generics) ?_
  intro added r wholeR _ made
  refine Course.ask_bind wholeR fun properties found => ?_
  have gapless : none ∉ properties := by
    obtain ⟨held, listed, found⟩ := of_except_bind_ok found
    obtain ⟨own, filtered, found⟩ := of_except_bind_ok found
    cases found
    intro gap
    rcases List.mem_append.mp gap with inOwn | others
    · have inHeld := (sublist_of_filterM filtered).subset inOwn
      rw [← slots_of_each listed] at inHeld
      exact (wholeR.types type).properties.whole inHeld
    · simp at others
  refine Course.bind (finishes_setType wholeR (f := fun t => { t with properties := some properties })
    rfl (.inl rfl) fun known =>
    { known with properties := Slots.full_some gapless, shown := fun member held => ?_ })
    fun _ t wholeT _ _ => Course.pure wholeT trivial
  rcases of_propertiesWith found held with old | new
  · exact known.shown member old
  · exact (made member new).1

theorem finishes_aliasType {header : Header} (named : header.name ≠ "") (aliased : Option TypeId)
    {typeParameters : List (Option TypeId)} (generics : Generics q typeParameters) :
    finishing.Keeps q (aliasType header aliased typeParameters) fun _ _ => True := by
  refine Course.begin (fun made => .symbol made.1)
    (fills_declare whole rfl [.typeAlias] (fun _ => named) _ _) ?_
  rintro ⟨symbol, site⟩ r wholeR zeroth announced
  refine Course.bind (finishes_attachTypeParameters wholeR site (generics.later zeroth)) ?_
  intro _ t wholeT next _
  have upto := next.1
  refine Course.bind (finishes_writtenType wholeT _ _) fun written u wholeU next answered => ?_
  have upto := upto.trans next.1
  refine Course.bind (finishes_giveType wholeU answered) ?_
  rintro _ v wholeV next ⟨-, told⟩
  have typed := told (announced.stands.later upto).1
  have upto := upto.trans next.1
  apply Course.get_bind
  refine Course.lift_bind wholeV fun type _ => ?_
  have conclude {w : Program} (wholeW : w.Whole) (since : v.Retains w) :
      finishing.Keeps w (do
        bindDeclared symbol type
        bindSite site type
        exportIf header.exported symbol
        pure type) fun x _ => True ∧ x.Done (.symbol symbol) := by
    have upto := upto.trans since
    refine (finishes_conclude wholeW (Nat.lt_of_lt_of_le announced.there upto.symbols)
      (announced.stands.later upto) nofun type _).weaken ?_
    rintro x _ - last ⟨declared, answered⟩
    have upto := upto.trans last.1
    refine ⟨trivial, SymbolDone.of_flags
      ((upto.symbol symbol announced.there).flags.trans announced.flagged) ?_⟩
    refine ⟨fun _ => declared, fun _ => ⟨site, upto.first announced.first, ?_, answered⟩, nofun, nofun,
      nofun, nofun, nofun⟩
    exact (since.trans last.1).siteType typed
  dsimp only
  split
  · refine Course.bind (finishes_setType wholeV
      (f := fun t => { t with alias? := some symbol, aliasArguments := someUnlessEmpty typeParameters })
      rfl (.inl rfl) fun known => { known with aliasArguments := ?_ }) fun _ w wholeW last _ => ?_
    · rw [slots_someUnlessEmpty]
      exact generics.whole
    · exact conclude wholeW last.1
  · exact conclude wholeV (Retains.refl v)

theorem finishes_enumMember (site : SiteId) (docs : Table String String) (name : String)
    (value : Literal) :
    finishing.Keeps q (enumMember site docs name (some value)) fun _ _ => True := by
  refine Course.bind (finishes_declare whole rfl [.enumMember] nofun (fun flagged =>
    SymbolDone.of_flags flagged (symbolDone_of_plain rfl rfl rfl rfl nofun)) _ none) ?_
  rintro ⟨symbol, memberSite⟩ r wholeR - -
  refine Course.bind (finishes_arrange wholeR (f := fun s => { s with parent := some site })
    (fun s => Site.retains_of_same rfl rfl rfl rfl rfl rfl) fun known => { known with }) ?_
  intro _ t wholeT _ _
  refine finishes_combine wholeT
    { typeWhole_fresh [] rfl with value := fun _ => nofun, conditional := ?_, substitution := ?_ }
  · cases value <;> nofun
  · cases value <;> nofun

theorem finishes_enumeration {spec : EnumSpec} (given : ∀ entry ∈ spec.members, entry.2 ≠ none) :
    finishing.Keeps q (enumeration spec) fun _ _ => True := by
  unfold enumeration
  dsimp only
  generalize sort : (if spec.isConst then SymbolFlag.constEnum else .regularEnum) = flag
  have declares : flag ∈ [SymbolFlag.interface, .classKind, .regularEnum, .constEnum] := by
    rw [← sort]
    split <;> decide
  refine Course.begin (fun made => .symbol made.1) (fills_declare whole rfl [flag] ?_ _ none) ?_
  · rw [← sort]
    split <;> nofun
  rintro ⟨symbol, site⟩ r wholeR - announced
  have stable (q r : Program) (type : TypeId) (_ : finishing.grows q r) (_ : True) : True := trivial
  refine Course.bind (Course.mapM stable wholeR fun entry member t wholeT _ => ?_)
    fun types t wholeT first _ => ?_
  · obtain ⟨value, held⟩ := Option.ne_none_iff_exists'.mp (given entry member)
    dsimp only
    rw [held]
    exact finishes_enumMember wholeT site _ entry.1 value
  refine Course.bind (finishes_newType wholeT ?_) fun type u wholeU second _ => ?_
  · cases spec.literal <;>
      exact { typeWhole_fresh [] rfl with
        types := Slots.full_of _, value := nofun, conditional := nofun, substitution := nofun }
  have upto := first.1.trans second.1
  refine (finishes_conclude wholeU (Nat.lt_of_lt_of_le announced.there upto.symbols)
    (announced.stands.later upto) nofun type _).weaken ?_
  rintro v _ - last ⟨declared, -⟩
  have flagged : (v.symbol symbol).flags = [flag] :=
    ((upto.trans last.1).symbol symbol announced.there).flags.trans announced.flagged
  exact ⟨trivial, symbolDone_of_declared flagged declares declared⟩

end Build

end TypeAtlas
