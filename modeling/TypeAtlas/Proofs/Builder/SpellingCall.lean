import TypeAtlas.Proofs.Builder.Spelling

/-!
What is written keeps going with its types along the calls that declare something, and along every call.
-/

namespace TypeAtlas

namespace Build

open Program

variable {p q : Program} (amid : p.Amid q)
include amid

theorem spells_interface (spec : InterfaceSpec) :
    (spelling p).Keeps q (interface spec) fun _ _ => True := by
  refine Course.bind (spells_declare amid rfl _ _ _ _) ?_
  rintro ⟨symbol, site⟩ r amidR - ⟨there, placed⟩
  refine Course.bind (spells_setSymbol amidR symbol ⟨rfl, rfl, fun _ => rfl⟩) fun _ t amidT first _ => ?_
  refine Course.bind (spells_newObject amidT (Nat.lt_of_lt_of_le there first.symbols) rfl rfl rfl rfl
    rfl rfl) fun type u amidU second _ => ?_
  refine Course.bind (spells_attachTypeParameters amidU _) fun _ v amidV third _ => ?_
  refine Course.bind (spells_populate amidV _ _ _ _ rfl _ _) fun _ w amidW fourth _ => ?_
  refine Course.bind
    (spells_setType amidW type (fun _ => ⟨rfl, fun _ held => held⟩) fun _ => rfl) fun _ x amidX fifth _ => ?_
  refine Course.bind (spells_addHeritage amidX _ _ _) fun _ y amidY sixth _ => ?_
  refine Course.bind (spells_bindDeclared amidY _ _) fun _ z amidZ seventh _ => ?_
  have grown := (((((first.trans second).trans third).trans fourth).trans fifth).trans sixth).trans seventh
  refine Course.bind (spells_bindSite amidZ (placed.later grown).2 _) fun _ z' amidZ' _ _ => ?_
  refine Course.bind (spells_exportIf amidZ' _ _) fun _ z'' last _ _ => ?_
  exact Course.pure last trivial

theorem spells_staticMember (site : SiteId) (name : String) (spec : MemberSpec) :
    (spelling p).Keeps q (staticMember site name spec) fun _ _ => True := by
  refine Course.bind (spells_member amid site rfl name spec) fun symbol r amidR _ _ => ?_
  apply Course.get_bind
  split
  · rename_i declaration _
    refine Course.bind (spells_touchSite amidR declaration fun _ => ⟨rfl, rfl, rfl, rfl, rfl⟩) ?_
    exact fun _ t amidT _ _ => Course.pure amidT trivial
  · exact Course.pure amidR trivial

theorem spells_constructorSite (classSite : SiteId) (instanceType : TypeId)
    (parameters : List ParamSpec) :
    (spelling p).Keeps q (constructorSite classSite instanceType parameters) fun _ _ => True := by
  refine Course.bind (spells_place amid rfl rfl) fun site r amidR _ _ => ?_
  refine Course.bind (spells_addParameters amidR _ _) fun params t amidT _ _ => ?_
  refine Course.bind (spells_newSignature amidT _) fun signature u amidU _ _ => ?_
  refine Course.bind (spells_bindSignature amidU _ _) fun _ v amidV _ _ => ?_
  exact Course.pure amidV trivial

theorem spells_classType (spec : ClassSpec) :
    (spelling p).Keeps q (classType spec) fun _ _ => True := by
  refine Course.bind (spells_declare amid rfl _ _ _ _) ?_
  rintro ⟨symbol, site⟩ r amidR - ⟨there, placed⟩
  refine Course.bind (spells_newObject amidR there rfl rfl rfl rfl rfl rfl) ?_
  intro type t amidT first _
  refine Course.bind (spells_attachTypeParameters amidT _) fun _ u amidU second _ => ?_
  refine Course.bind (spells_populate amidU _ _ _ _ rfl _ _) fun _ v amidV third _ => ?_
  refine Course.bind (spells_addHeritage amidV _ _ _) fun _ w amidW fourth _ => ?_
  refine Course.bind (spells_addHeritage amidW _ _ _) fun _ x amidX fifth _ => ?_
  refine Course.bind (spells_newSymbol amidX _) fun prototype y amidY sixth _ => ?_
  refine Course.bind (Course.mapM (fun _ _ _ _ _ => trivial) amidY fun member _ _ amidZ _ =>
    spells_staticMember amidZ site member.1 member.2) fun statics z amidZ seventh _ => ?_
  refine Course.bind (spells_setSymbol amidZ symbol ⟨rfl, rfl, fun _ => rfl⟩) fun _ a amidA eighth _ => ?_
  refine Course.bind (Course.mapM (fun _ _ _ _ _ => trivial) amidA fun parameters _ _ amidB _ =>
    spells_constructorSite amidB site type parameters) fun constructors b amidB ninth _ => ?_
  have grown := (((((((first.trans second).trans third).trans fourth).trans fifth).trans sixth).trans
    seventh).trans eighth).trans ninth
  have finish {c : Program} (amidC : p.Amid c) (more : r.Kinds c) :
      (spelling p).Keeps c
        (do
          bindDeclared symbol type
          bindSite site type
          exportIf spec.header.exported symbol
          pure type)
        fun _ _ => True := by
    refine Course.bind (spells_bindDeclared amidC _ _) fun _ d amidD last _ => ?_
    refine Course.bind (spells_bindSite amidD (placed.later (more.trans last)).2 _) ?_
    intro _ f amidF _ _
    refine Course.bind (spells_exportIf amidF _ _) fun _ g amidG _ _ => ?_
    exact Course.pure amidG trivial
  split
  · refine Course.bind (spells_newSymbol amidB _) fun held c amidC tenth _ => ?_
    refine Course.bind (spells_setSymbol amidC symbol ⟨rfl, rfl, fun _ => rfl⟩) fun _ d amidD eleventh _ => ?_
    exact finish amidD ((grown.trans tenth).trans eleventh)
  · exact finish amidB grown

theorem spells_addMembers (target : Option TypeId) (specs : Table String MemberSpec) :
    (spelling p).Keeps q (addMembers target specs) fun _ _ => True := by
  refine Course.lift_bind amid fun type _ => ?_
  refine Course.ask_bind amid fun declared _ => Course.lift_bind amid fun site _ => ?_
  apply Course.get_bind
  refine Course.bind (spells_members amid site ?_ specs) fun added r amidR _ _ => ?_
  · split <;> rfl
  · refine Course.ask_bind amidR fun properties _ => ?_
    refine Course.bind (spells_setType amidR type (fun _ => ⟨rfl, fun _ held => held⟩) fun _ => rfl) ?_
    exact fun _ t amidT _ _ => Course.pure amidT trivial

/-- A type takes the alias it is declared through, unless it has one. The place of the alias is told at
the same time what it stands for. -/
theorem spells_remember {type : TypeId} {symbol : SymbolId} {site written : SiteId}
    {name : String} (introduced : Introduced p q .typeAlias name [.typeAlias] symbol site)
    (right : (q.site site).type = some written) (isWritten : (q.site written).kind.isWritten = true)
    (plain : (q.site written).kind ≠ .typeReference)
    (stands : (q.site written).answers.type = some (some type))
    (fresh : (q.type type).alias? = none) (arguments : Slots TypeId) :
    (spelling p).Keeps q
      (do
        setType type ({ · with alias? := some symbol, aliasArguments := arguments })
        bindDeclared symbol type
        bindSite site type)
      fun _ _ => True := by
  have settles : (q.type type).Settles
      { q.type type with alias? := some symbol, aliasArguments := arguments } := by
    refine ⟨rfl, ?_⟩
    intro named held
    rw [fresh] at held
    cases held
  let named := q.modifyType type ({ · with alias? := some symbol, aliasArguments := arguments })
  let declared := named.modifySymbolAnswers ({ · with declared := some (some type) }) (some symbol)
  let told := declared.modifySiteAnswers ({ · with type := some (some type) }) (some site)
  have grownNamed : q.Kinds named := kinds_modifyType settles
  have grownDeclared : named.Kinds declared := kinds_modifySymbol ⟨rfl, rfl, fun _ => rfl⟩
  have grownTold : declared.Kinds told := kinds_modifySite rfl (.inr (.inr introduced.unanswered))
  have kinds : q.Kinds told := (grownNamed.trans grownDeclared).trans grownTold
  have siteOf (id : SiteId) : told.site id = if id = site ∧ id.index < q.sites.size then
      { q.site id with answers := { (q.site id).answers with type := some (some type) } }
      else q.site id := declared.site_modifySite site id _
  have here := (siteOf site).trans (if_pos ⟨rfl, introduced.there⟩)
  have elsewhere : told.site written = q.site written := by
    refine (siteOf written).trans (if_neg ?_)
    rintro ⟨rfl, -⟩
    rw [introduced.kind] at isWritten
    cases isWritten
  have typeOf (id : TypeId) : told.type id = if id = type ∧ id.index < q.types.size then
      { q.type id with alias? := some symbol, aliasArguments := arguments } else q.type id :=
    q.type_modifyType type id _
  refine Course.write (q := told) rfl (amid.extend kinds ?_ (fun _ held => held) ?_
    (amid.caches.carry kinds rfl rfl)) kinds trivial
  · intro id
    rw [siteOf]
    split
    · rename_i same
      refine .inr (.inl ?_)
      change (q.site id).kind.isWritten = false
      rw [same.1, introduced.kind]
      rfl
    · exact .inl (Site.Like.refl _)
  · intro id
    rw [typeOf]
    split
    · rename_i same
      have formed := (amid.formed id).carry kinds
      refine ⟨formed.symbol, ?_, formed.tuple, formed.target, formed.named, formed.unnamed⟩
      rintro _ ⟨⟩
      have settles := kinds.symbol symbol introduced.held
      refine ⟨site, written, type, ?_, ?_, ?_, ?_, ?_, ?_, ?_, ?_, ?_⟩
      · rw [settles.hasFlag, Symbol.hasFlag, introduced.flagged]
        rfl
      · rw [settles.declarations (by rw [Symbol.hasFlag, introduced.flagged]; rfl),
          introduced.declarations rfl]
      · rw [here]
        exact introduced.kind
      · rw [here]
        exact right
      · rw [here]
      · rw [elsewhere, isWritten]
      · rw [elsewhere]
        exact plain
      · rw [elsewhere, stands]
      · rw [typeOf, if_pos ⟨rfl, same.1 ▸ same.2⟩]
    · exact (amid.formed id).carry kinds

omit amid in
/-- A type that remembers its alias has no name of its own and no other alias. -/
theorem unnamed_of_remembersAlias {t : TypeInfo} (remembers : remembersAlias q t = true) :
    t.alias? = none ∧ q.ownName? t = none := by
  unfold remembersAlias at remembers
  split at remembers
  · cases remembers
  · rename_i fresh
    simp only [Bool.or_eq_true, not_or, Bool.not_eq_true, Option.isSome_eq_false_iff,
      Option.isNone_iff_eq_none] at fresh
    refine ⟨fresh.1, ?_⟩
    split at remembers
    · cases remembers
    · split at remembers
      · cases remembers
      · unfold ownName? writtenName?
        dsimp only
        cases held : t.symbol with
        | none => rfl
        | some symbol =>
            rw [held] at remembers
            exact if_pos remembers

theorem spells_aliasType (header : Header) (aliased : Option TypeId)
    (typeParameters : List (Option TypeId)) :
    (spelling p).Keeps q (aliasType header aliased typeParameters) fun _ _ => True := by
  refine Course.bind (spells_declareAs amid _ _ _ _ _) ?_
  rintro ⟨symbol, site⟩ r amidR - introduced
  refine Course.bind (spells_attachTypeParameters amidR _) fun _ t amidT first alike => ?_
  refine Course.bind (spells_writtenType amidT _ _) fun written u amidU second wrote => ?_
  have introduced := introduced.later first (alike site).answer
  have introduced := introduced.later second (congrArg (fun s => s.answers.type)
    (wrote.adds.site site introduced.there))
  have apart : written ≠ site := by
    rintro rfl
    have isWritten := wrote.written
    rw [introduced.kind] at isWritten
    cases isWritten
  refine Course.bind (spells_setSite amidU site _ rfl
    (.inr (.inr ⟨introduced.new, introduced.unanswered, ?_⟩))) ?_
  · intro isWritten
    rw [introduced.kind] at isWritten
    cases isWritten
  rintro _ v amidV third rfl
  have here := (u.site_modifySite site site fun s => { s with type := some written }).trans
    (if_pos ⟨rfl, introduced.there⟩)
  have introduced := introduced.later third (congrArg (fun s => s.answers.type) here)
  apply Course.get_bind
  refine Course.lift_bind amidV fun type found => ?_
  obtain rfl : aliased = some type := of_present found
  have finish {w : Program} (amidW : p.Amid w) :
      (spelling p).Keeps w
        (do
          exportIf header.exported symbol
          pure type)
        fun _ _ => True :=
    Course.bind (spells_exportIf amidW _ _) fun _ _ amidX _ _ => Course.pure amidX trivial
  split
  · rename_i remembers
    obtain ⟨fresh, unnamed⟩ := unnamed_of_remembersAlias remembers
    have same : (u.modifySite site fun s => { s with type := some written }).site written =
        u.site written := by
      rw [site_modifySite, if_neg fun at_ => apart at_.1]
    have plain : (u.site written).kind ≠ .typeReference := by
      intro kind
      rcases (wrote.spells type rfl).titled kind with ⟨named, held, -⟩ | ⟨name, own, -⟩
      · have held : (u.type type).alias? = some named := held
        rw [show (u.type type).alias? = none from fresh] at held
        cases held
      · rw [show u.ownName? (u.type type) = none from unnamed] at own
        cases own
    have known := spells_remember amidV introduced (congrArg Site.type here)
      (by rw [same, wrote.written]) (by rw [same]; exact plain) (by rw [same, wrote.answer]) fresh
      (someUnlessEmpty typeParameters)
    have block := Course.bind known fun _ w amidW _ _ => finish amidW
    simpa only [bind_assoc] using block
  · refine Course.bind (spells_bindDeclared amidV _ _) fun _ w amidW fourth sites => ?_
    have introduced := introduced.later fourth (by rw [Program.site, sites, Program.site])
    refine Course.bind (spells_setSite amidW site _ rfl
      (.inr (.inr ⟨introduced.new, introduced.unanswered, ?_⟩))) fun _ _ amidX _ _ => finish amidX
    intro isWritten
    rw [introduced.kind] at isWritten
    cases isWritten

theorem spells_enumMember (site : SiteId) (docs : Table String String) (name : String)
    (value : Option Literal) :
    (spelling p).Keeps q (enumMember site docs name value) fun _ _ => True := by
  refine Course.bind (spells_declare amid rfl _ _ _ _) ?_
  rintro ⟨symbol, place⟩ r amidR - ⟨there, -⟩
  refine Course.bind (spells_touchSite amidR place fun _ => ⟨rfl, rfl, rfl, rfl, rfl⟩) ?_
  intro _ t amidT grown _
  refine (spells_newType amidT (formed_of_declared rfl (Nat.lt_of_lt_of_le there grown.symbols) rfl rfl
    rfl (.inr (.inr (.inr ?_))))).weaken fun _ _ _ _ _ => trivial
  split <;> rfl

theorem spells_enumeration (spec : EnumSpec) :
    (spelling p).Keeps q (enumeration spec) fun _ _ => True := by
  refine Course.bind (spells_declare amid rfl _ _ _ _) ?_
  rintro ⟨symbol, site⟩ r amidR - ⟨there, placed⟩
  refine Course.bind (Course.mapM (fun _ _ _ _ _ => trivial) amidR fun member _ _ amidT _ =>
    spells_enumMember amidT site spec.memberDocs member.1 member.2) fun types t amidT first _ => ?_
  refine Course.bind (spells_newType amidT (formed_of_declared rfl
    (Nat.lt_of_lt_of_le there first.symbols) rfl rfl rfl (.inr (.inr (.inl ?_))))) ?_
  · split <;> rfl
  · intro type u amidU second _
    refine Course.bind (spells_bindDeclared amidU _ _) fun _ v amidV third _ => ?_
    refine Course.bind (spells_bindSite amidV
      (((placed.later first).later second).later third).2 _) fun _ w amidW _ _ => ?_
    refine Course.bind (spells_exportIf amidW _ _) fun _ x amidX _ _ => ?_
    exact Course.pure amidX trivial

theorem spells_function (header : Header) (spec : CallSpec) :
    (spelling p).Keeps q (function header spec) fun _ _ => True := by
  refine Course.bind (spells_declare amid rfl _ _ _ _) ?_
  rintro ⟨symbol, site⟩ r amidR - ⟨there, placed⟩
  refine Course.bind (spells_setSymbol amidR symbol ⟨rfl, rfl, fun _ => rfl⟩) fun _ t amidT grown _ => ?_
  refine Course.bind (spells_callable amidT (Nat.lt_of_lt_of_le there grown.symbols)
    (placed.later grown) _ _ _) fun type u amidU _ _ => ?_
  refine Course.bind (spells_bindSymbol amidU _ _) fun _ v amidV _ _ => ?_
  refine Course.bind (spells_exportIf amidV _ _) fun _ w amidW _ _ => ?_
  exact Course.pure amidW trivial

theorem spells_functionType (spec : CallSpec) :
    (spelling p).Keeps q (functionType spec) fun _ _ => True := by
  refine Course.bind (spells_declare amid rfl _ _ _ _) ?_
  rintro ⟨symbol, site⟩ r amidR - ⟨there, placed⟩
  exact spells_callable amidR there placed _ _ _

theorem spells_constructorType (parameters : List ParamSpec) (returns : Option TypeId)
    (parent : Option SiteId) (fileName : Option String) :
    (spelling p).Keeps q (constructorType parameters returns parent fileName) fun _ _ => True := by
  refine Course.bind (spells_declare amid rfl _ _ _ _) ?_
  rintro ⟨symbol, site⟩ r amidR - ⟨there, placed⟩
  have finish {t : Program} (amidT : p.Amid t) (grown : r.Kinds t) :
      (spelling p).Keeps t
        (do
          let params ← addParameters site parameters
          let signature ← newSignature { declaration := some site, parameters := Slots.of params, returns }
          bindSignature site signature
          let type ← newType
            { flags := [.object], objectFlags := [.anonymous], symbol := some symbol,
              constructSignatures := Slots.of [signature] }
          bindSite site type
          pure type)
        fun _ _ => True := by
    refine Course.bind (spells_addParameters amidT _ _) fun params u amidU first _ => ?_
    refine Course.bind (spells_newSignature amidU _) fun signature v amidV second _ => ?_
    refine Course.bind (spells_bindSignature amidV _ _) fun _ w amidW third _ => ?_
    have more := ((grown.trans first).trans second).trans third
    refine Course.bind (spells_newObject amidW (Nat.lt_of_lt_of_le there more.symbols) rfl rfl rfl rfl
      rfl rfl) fun type x amidX fourth _ => ?_
    refine Course.bind (spells_bindSite amidX (placed.later (more.trans fourth)).2 _) ?_
    exact fun _ y amidY _ _ => Course.pure amidY trivial
  dsimp only
  split
  · refine Course.bind (spells_touchSite amidR site fun _ => ⟨rfl, rfl, rfl, rfl, rfl⟩) ?_
    exact fun _ t amidT grown _ => finish amidT grown
  · exact finish amidR (Kinds.refl r)

theorem spells_callSignature (spec : CallSpec) :
    (spelling p).Keeps q (callSignature spec) fun _ _ => True := by
  refine Course.bind (spells_place amid rfl rfl) fun site r amidR _ _ => ?_
  refine Course.bind (spells_addParameters amidR _ _) fun params t amidT _ _ => ?_
  refine Course.bind (spells_newSignature amidT _) fun signature u amidU _ _ => ?_
  refine Course.bind (spells_bindSignature amidU _ _) fun _ v amidV _ _ => ?_
  exact Course.pure amidV trivial

theorem spells_objectLiteral (specs : Table String MemberSpec)
    (callSignatures : List (Option SignatureId)) (stringIndex numberIndex : Option IndexSpec) :
    (spelling p).Keeps q (objectLiteral specs callSignatures stringIndex numberIndex)
      fun _ _ => True := by
  refine Course.bind (spells_declare amid rfl _ _ _ _) ?_
  rintro ⟨symbol, site⟩ r amidR - ⟨there, placed⟩
  refine Course.bind (spells_newObject amidR there rfl rfl rfl rfl rfl rfl) ?_
  intro type t amidT first _
  refine Course.bind (spells_populate amidT _ _ _ _ rfl _ _) fun _ u amidU second _ => ?_
  refine Course.bind
    (spells_setType amidU type (fun _ => ⟨rfl, fun _ held => held⟩) fun _ => rfl) fun _ v amidV third _ => ?_
  refine Course.bind (spells_bindSite amidV (((placed.later first).later second).later third).2 _) ?_
  exact fun _ w amidW _ _ => Course.pure amidW trivial

theorem spells_openMapped (key : String) (constraint : Option TypeId) (optional : Bool) :
    (spelling p).Keeps q (openMapped key constraint optional) fun _ _ => True := by
  refine Course.bind (spells_declare amid rfl _ _ _ _) ?_
  rintro ⟨symbol, site⟩ r amidR - -
  refine Course.bind (spells_touchSite amidR site fun _ => ⟨rfl, rfl, rfl, rfl, rfl⟩) ?_
  intro _ t amidT _ _
  refine Course.bind (spells_typeParameter amidT _ _ _) fun keyType u amidU _ _ => ?_
  refine Course.ask_bind amidU fun declared _ => Course.lift_bind amidU fun keySite _ => ?_
  refine Course.bind (spells_touchSite amidU keySite fun _ => ⟨rfl, rfl, rfl, rfl, rfl⟩) ?_
  intro _ v amidV _ _
  refine Course.bind (spells_touchSite amidV site fun _ => ⟨rfl, rfl, rfl, rfl, rfl⟩) ?_
  exact fun _ w amidW _ _ => Course.pure amidW trivial

theorem spells_closeMapped {draft : MappedDraft} (placed : Placed q draft.site)
    (there : draft.symbol.index < q.symbols.size) (value : Option TypeId) :
    (spelling p).Keeps q (closeMapped draft value) fun _ _ => True := by
  refine Course.bind (spells_writtenType amid _ _) fun written r amidR first _ => ?_
  refine Course.bind (spells_changeSite amidR (fun _ => rfl) (placed.later first).2) ?_
  intro _ t amidT second _
  refine Course.bind (spells_newObject amidT
    (Nat.lt_of_lt_of_le there (first.trans second).symbols) rfl rfl rfl rfl rfl rfl) ?_
  intro type u amidU third _
  refine Course.bind (spells_bindSite amidU (((placed.later first).later second).later third).2 _) ?_
  exact fun _ v amidV _ _ => Course.pure amidV trivial

theorem spells_variableOf (header : Header) (type initializer : Option TypeId) :
    (spelling p).Keeps q (variableOf header type initializer) fun _ _ => True := by
  refine Course.bind (spells_declare amid rfl _ _ _ _) ?_
  rintro ⟨symbol, site⟩ r amidR - ⟨-, placed⟩
  refine Course.bind (spells_setSymbol amidR symbol ⟨rfl, rfl, fun _ => rfl⟩) fun _ t amidT first _ => ?_
  have placed := placed.later first
  have finish {u : Program} (amidU : p.Amid u) :
      (spelling p).Keeps u
        (do
          exportIf header.exported symbol
          pure symbol)
        fun _ _ => True :=
    Course.bind (spells_exportIf amidU _ _) fun _ _ amidV _ _ => Course.pure amidV trivial
  have bound {u : Program} (amidU : p.Amid u) (grown : t.Kinds u) :
      (spelling p).Keeps u
        (bindingValue (type <|> initializer) symbol site do
          exportIf header.exported symbol
          pure symbol)
        fun _ _ => True := by
    cases type <|> initializer with
    | none => exact finish amidU
    | some value =>
        refine Course.bind (spells_bindSymbol amidU _ _) fun _ v amidV further _ => ?_
        refine Course.bind (spells_bindSite amidV ((placed.later grown).later further).2 _) ?_
        exact fun _ w amidW _ _ => finish amidW
  have initialized {u : Program} (amidU : p.Amid u) (grown : t.Kinds u) :
      (spelling p).Keeps u
        (placingInitializer initializer site <| bindingValue (type <|> initializer) symbol site do
          exportIf header.exported symbol
          pure symbol)
        fun _ _ => True := by
    cases initializer with
    | none => exact bound amidU grown
    | some value =>
        refine Course.bind (spells_place amidU rfl rfl) fun expression v amidV further there => ?_
        refine Course.bind (spells_touchSite amidV site fun _ => ⟨rfl, rfl, rfl, rfl, rfl⟩) ?_
        intro _ w amidW more _
        refine Course.bind (spells_bindSite amidW (there.later more).2 _) fun _ x amidX last _ => ?_
        exact bound amidX (((grown.trans further).trans more).trans last)
  cases type with
  | none => exact initialized amidT (Kinds.refl t)
  | some annotation =>
      refine Course.bind (spells_writtenType amidT _ _) fun written u amidU second _ => ?_
      refine Course.bind (spells_changeSite amidU (fun _ => rfl) (placed.later second).2) ?_
      exact fun _ v amidV third _ => initialized amidV (second.trans third)

theorem spells_namespaceOf (name : String) (fileName : Option String) :
    (spelling p).Keeps q (namespaceOf name fileName) fun _ _ => True :=
  Course.bind (spells_declare amid rfl _ _ _ _) fun _ _ amidR _ _ => Course.pure amidR trivial

theorem spells_valueType (symbol : SymbolId) :
    (spelling p).Keeps q (valueType symbol) fun _ _ => True := by
  apply Course.get_bind
  dsimp only
  split
  · exact Course.ask amid fun _ _ => trivial
  · split
    · exact Course.ask amid fun _ _ => trivial
    · exact Course.lift_bind amid fun _ _ => Course.ask amid fun _ _ => trivial

theorem spells_defaultExport (target : DefaultTarget) (doc : Option String) :
    (spelling p).Keeps q (defaultExport target doc) fun _ _ => True := by
  refine Course.bind (spells_newSymbol amid _) ?_
  rintro symbol r amidR - ⟨there, -, -, flagged, -⟩
  apply Course.get_bind
  refine Course.bind (spells_source amidR _) fun parent t amidT first _ => ?_
  refine Course.bind (spells_place amidT rfl rfl) fun site u amidU second _ => ?_
  refine Course.bind (spells_setSymbol amidU symbol ⟨rfl, rfl, fun named => ?_⟩) fun _ v amidV _ _ => ?_
  · rw [((first.trans second).symbol symbol there).hasFlag, Symbol.hasFlag, flagged] at named
    cases named
  have finish {w : Program} (amidW : p.Amid w) {expression : SiteId} (placed : Placed w expression)
      (value : Option TypeId) :
      (spelling p).Keeps w
        (do
          bindSite expression value
          pushExport symbol
          pure symbol)
        fun _ _ => True := by
    refine Course.bind (spells_bindSite amidW placed.2 _) fun _ x amidX _ _ => ?_
    refine Course.bind (spells_pushExport amidX _) fun _ y amidY _ _ => ?_
    exact Course.pure amidY trivial
  cases target with
  | symbol named =>
      apply Course.get_bind
      refine Course.bind (spells_place amidV rfl rfl) fun expression w amidW _ placed => ?_
      refine Course.bind (spells_touchSite amidW site fun _ => ⟨rfl, rfl, rfl, rfl, rfl⟩) ?_
      intro _ x amidX grown _
      refine Course.bind (spells_valueType amidX named) fun value y amidY further _ => ?_
      exact finish amidY ((placed.later grown).later further) value
  | type value =>
      refine Course.bind (spells_place amidV rfl rfl) fun expression w amidW _ placed => ?_
      refine Course.bind (spells_touchSite amidW site fun _ => ⟨rfl, rfl, rfl, rfl, rfl⟩) ?_
      exact fun _ x amidX grown _ => finish amidX (placed.later grown) value

theorem spells_defaultFunction (spec : CallSpec) (doc : Option String) :
    (spelling p).Keeps q (defaultFunction spec doc) fun _ _ => True := by
  refine Course.bind (spells_declare amid rfl _ _ _ _) ?_
  rintro ⟨symbol, site⟩ r amidR - ⟨there, placed⟩
  refine Course.bind (spells_setSymbol amidR symbol ⟨rfl, rfl, fun _ => rfl⟩) fun _ t amidT grown _ => ?_
  refine Course.bind (spells_callable amidT (Nat.lt_of_lt_of_le there grown.symbols)
    (placed.later grown) _ _ _) fun type u amidU _ _ => ?_
  refine Course.bind (spells_bindSymbol amidU _ _) fun _ v amidV _ _ => ?_
  refine Course.bind (spells_pushExport amidV _) fun _ w amidW _ _ => ?_
  exact Course.pure amidW trivial

end Build

open Build Program

variable {p : Program}

theorem spells_call (formed : ∀ id, p.FormedType (p.type id)) (caches : p.Caches) {call : Call}
    (known : call.Known p) : (spelling p).Keeps p call.step fun _ _ => True := by
  have amid := Amid.refl formed caches
  cases call with
  | literal value => exact Course.discard (spells_literal amid value)
  | bigintLiteral digits => exact Course.discard (spells_cached amid (.bigint digits))
  | union types => exact Course.discard (spells_union amid types)
  | intersection types | keyof operand | indexedAccess objectType indexType
  | conditional checkType extendsType trueType falseType | substitution baseType =>
      exact Course.discard (spells_newType amid (formed_of_plain rfl rfl rfl))
  | tuple elements => exact Course.discard (spells_tuple amid elements)
  | typeParameter name constraint default =>
      exact Course.discard (spells_typeParameter amid name constraint default)
  | infer name => exact Course.discard (spells_infer amid name)
  | instantiate generic arguments => exact Course.discard (spells_instantiate amid generic arguments)
  | instantiateAlias aliased arguments =>
      exact Course.discard (spells_instantiateAlias amid aliased arguments)
  | interface spec => exact Course.discard (spells_interface amid spec)
  | classType spec => exact Course.discard (spells_classType amid spec)
  | addMembers target specs => exact Course.discard (spells_addMembers amid target specs)
  | aliasType header aliased typeParameters =>
      exact Course.discard (spells_aliasType amid header aliased typeParameters)
  | enumeration spec => exact Course.discard (spells_enumeration amid spec)
  | function header spec => exact Course.discard (spells_function amid header spec)
  | functionType spec => exact Course.discard (spells_functionType amid spec)
  | constructorType parameters returns parent fileName =>
      exact Course.discard (spells_constructorType amid parameters returns parent fileName)
  | callSignature spec => exact Course.discard (spells_callSignature amid spec)
  | objectLiteral specs callSignatures stringIndex numberIndex =>
      exact Course.discard (spells_objectLiteral amid specs callSignatures stringIndex numberIndex)
  | openMapped key constraint optional =>
      exact Course.discard (spells_openMapped amid key constraint optional)
  | closeMapped draft value =>
      have opened := known.draft draft value rfl
      refine Course.discard (spells_closeMapped amid ⟨?_, by rw [opened.kind]; rfl⟩ ?_ value)
      · apply Nat.lt_of_not_le
        intro outside
        have kind := opened.kind
        rw [p.site_of_size_le outside] at kind
        cases kind
      · apply Nat.lt_of_not_le
        intro outside
        have flags := opened.structural
        rw [p.symbol_of_size_le outside] at flags
        cases flags
  | variableOf header type initializer =>
      exact Course.discard (spells_variableOf amid header type initializer)
  | namespaceOf name fileName => exact Course.discard (spells_namespaceOf amid name fileName)
  | addExport symbol => exact spells_addExport amid symbol
  | defaultExport target doc => exact Course.discard (spells_defaultExport amid target doc)
  | defaultFunction spec doc => exact Course.discard (spells_defaultFunction amid spec doc)
  | writtenType type parent => exact Course.discard (spells_writtenType amid type parent)

structure Program.Spelled (p : Program) : Prop where
  formed : ∀ id, p.FormedType (p.type id)
  spells : ∀ site, (p.site site).kind.isWritten = true → ∀ type,
    (p.site site).answers.type = some (some type) → p.Spells (p.site site) type
  caches : p.Caches

theorem spelled_start (fileName : String) (lastId : Nat) :
    (Program.start fileName lastId).Spelled := by
  unfold Program.start
  dsimp only
  generalize made : List.foldl _ _ _ = q
  obtain ⟨same, size, types⟩ := foldl_addType
    (fun item : TypeFlag × String => { flags := [item.1], intrinsicName := some item.2 }) _ _ q made
  refine ⟨?_, ?_, ?_⟩
  · intro id
    rw [Program.type_addType]
    split
    · exact ⟨nofun, nofun, fun _ => rfl, fun other => absurd rfl other, fun other => absurd rfl other,
        fun _ _ => .inr rfl⟩
    · rcases types id with old | ⟨item, member, number, new⟩
      · rw [old, Program.type_of_size_le _ (Nat.zero_le _)]
        exact formed_of_plain rfl rfl rfl
      · rw [new]
        have single : ∀ item ∈ intrinsics, item.1 ≠ .union := by decide
        refine formed_of_plain rfl rfl ?_
        simpa [TypeInfo.hasFlag] using Ne.symm (single item member)
  · intro site written
    have none : q.sites = #[] := by rw [same]; rfl
    change (q.sites.getD site.index default).kind.isWritten = true at written
    rw [none, getD_of_size_le _ (Nat.zero_le _)] at written
    cases written
  · refine ⟨fun entry kept => ?_, fun entry kept => ?_⟩
    · have none : q.literals = [] := by rw [same]; rfl
      change entry ∈ q.literals at kept
      rw [none] at kept
      cases kept
    · have none : q.tuples = [] := by rw [same]; rfl
      change entry ∈ q.tuples at kept
      rw [none] at kept
      cases kept

theorem spelled_of_built {allowed : Call → Program → Prop} (built : Program.Built allowed p) :
    p.Spelled := by
  induction built with
  | start fileName lastId => exact spelled_start fileName lastId
  | @call p call built known permitted ih =>
      obtain ⟨ages, live⟩ := live_of_built ⟨False, False⟩ built fun _ _ _ => ⟨nofun, nofun⟩
      have after := (keeps_call live known ⟨nofun, nofun⟩).live
      have amid : p.Amid (call.step p).2 := (spells_call ih.formed ih.caches known).after rfl
      refine ⟨amid.formed, ?_, amid.caches⟩
      intro site written type answer
      have older : type.index < p.types.size :=
        Nat.lt_of_lt_of_le ((after.sites site).denotes written type answer) (after.site site)
      rcases Nat.lt_or_ge site.index p.sites.size with inside | outside
      · have writtenBefore : (p.site site).kind.isWritten = true := by
          rw [← amid.kind site inside, written]
        have like := amid.site site inside writtenBefore
        refine (ih.spells site writtenBefore type (like.answer.symm.trans answer)).carry like
          (ih.formed type) (amid.type type older) amid.name ?_ amid.inferred
        intro child childWritten given known
        have there := inside_of_answered known
        refine ⟨?_, ?_⟩
        · rw [amid.kind child there, childWritten]
        · rw [(amid.site child there childWritten).answer, known]
      · exact amid.spelled site outside written type answer older

end TypeAtlas
