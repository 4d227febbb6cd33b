import TypeAtlas.Program.Builder.Export
import TypeAtlas.Proofs.Builder.FinishedDeclared

/-!
Functions, types written in place, variables and default exports leave no question open.
-/

namespace TypeAtlas

namespace Build

open Program

variable {q : Program} (whole : q.Whole)
include whole

omit whole in
theorem value_of_fresh {s : Symbol} {site : SiteId} (fresh : s.valueDeclaration = none) :
    s.Retains { s with valueDeclaration := some site } := by
  refine ⟨rfl, fun _ => rfl, fun other held => ?_, fun held => held⟩
  rw [fresh] at held
  cases held

/-- A function that is declared, whatever is done with it in the end. -/
theorem finishes_functionAt {symbol : SymbolId} {site : SiteId}
    (announced : Announced q .functionDeclaration [.function] symbol site)
    {parameters : List ParamSpec} (regular : ∀ spec ∈ parameters, spec.Regular) (returns : TypeId)
    {typeParameters : List (Option TypeId)} (generics : Generics q typeParameters) {finish : Build Unit}
    (ends : ∀ r : Program, r.Whole → finishing.Keeps r finish fun _ _ => True) :
    finishing.Keeps q (do
      setSymbol symbol ({ · with valueDeclaration := some site })
      let type ← callable symbol site parameters returns typeParameters
      bindSymbol symbol type
      finish
      pure symbol) fun r _ => r.Done (.symbol symbol) := by
  refine Course.bind (finishes_setSymbol whole (value_of_fresh announced.fresh)
    fun known => { known with }) ?_
  rintro _ r wholeR first rfl
  have flagged {t : Program} (retains : q.Retains t) : (t.symbol symbol).flags = [.function] :=
    (retains.symbol symbol announced.there).flags.trans announced.flagged
  have value : ((q.modifySymbol symbol ({ · with valueDeclaration := some site })).symbol
      symbol).valueDeclaration = some site := by
    rw [symbol_modifySymbol, if_pos ⟨rfl, announced.there⟩]
  refine Course.bind (finishes_callable wholeR (announced.stands.later first.1) (fun _ => ?_) regular
    (Option.some_ne_none returns) (generics.later first.1)) ?_
  · rw [Symbol.hasFlag, flagged first.1]
    rfl
  rintro type t wholeT second ⟨-, answered⟩
  refine Course.bind (finishes_bindSymbol wholeT symbol type) fun _ u wholeU third _ => ?_
  refine Course.bind (ends u wholeU) fun _ v wholeV fourth _ => Course.pure wholeV ?_
  have since := third.1.trans fourth.1
  have upto := (first.1.trans second.1).trans since
  refine SymbolDone.of_flags (flagged upto) ?_
  refine ⟨?_, ?_, ?_, fun _ => ⟨site, upto.first announced.first,
    (second.1.trans since).value value, (announced.stands.later upto).2, since.answered answered⟩,
    ?_, ?_, ?_⟩
  all_goals rintro ⟨⟩

theorem finishes_function (header : Header) {spec : CallSpec}
    (regular : ∀ param ∈ spec.parameters, param.Regular) (generics : Generics q spec.typeParameters) :
    finishing.Keeps q (function header spec) fun _ _ => True := by
  refine Course.begin (fun made => .symbol made.1) (fills_declare whole rfl [.function] nofun _ none) ?_
  rintro ⟨symbol, site⟩ r wholeR first announced
  exact (finishes_functionAt wholeR announced regular _ (generics.later first) fun t wholeT =>
    finishes_exportIf wholeT header.exported symbol).weaken fun _ _ _ _ done => ⟨trivial, done⟩

theorem finishes_defaultFunction {spec : CallSpec} (regular : ∀ param ∈ spec.parameters, param.Regular)
    (doc : Option String) : finishing.Keeps q (defaultFunction spec doc) fun _ _ => True := by
  refine Course.begin (fun made => .symbol made.1) (fills_declare whole rfl [.function] nofun doc none) ?_
  rintro ⟨symbol, site⟩ r wholeR first announced
  exact (finishes_functionAt wholeR announced regular _
    (fun _ held => absurd held List.not_mem_nil) fun t wholeT =>
    finishes_pushExport wholeT symbol).weaken fun _ _ _ _ done => ⟨trivial, done⟩

theorem finishes_structural {kind : SiteKind} (plain : kind.isPlain = true) (fileName : Option String) :
    finishing.Keeps q (declare kind structuralName [.typeLiteral] none fileName) fun r made =>
      Announced r kind [.typeLiteral] made.1 made.2 :=
  finishes_declare whole plain [.typeLiteral] nofun (fun flagged =>
    SymbolDone.of_flags flagged (symbolDone_of_plain rfl rfl rfl rfl nofun)) none fileName

theorem finishes_functionType {spec : CallSpec} (regular : ∀ param ∈ spec.parameters, param.Regular)
    (generics : Generics q spec.typeParameters) :
    finishing.Keeps q (functionType spec) fun _ _ => True := by
  refine Course.bind (finishes_structural whole rfl none) ?_
  rintro ⟨symbol, site⟩ r wholeR first announced
  have apart : SiteKind.functionType ≠ .functionDeclaration := nofun
  exact (finishes_callable wholeR announced.stands (absurd · apart) regular (Option.some_ne_none _)
    (generics.later first.1)).weaken fun _ _ _ _ _ => trivial

theorem finishes_declareSignature {site : SiteId} {params : List SymbolId}
    (typeParameters : Slots TypeId) (generic : none ∉ typeParameters.slots)
    (annotated : ∀ param ∈ params, q.Annotated param) {returns : Option TypeId} (given : returns ≠ none) :
    finishing.Keeps q (newSignature
      { declaration := some site, typeParameters, parameters := Slots.of params, returns })
      fun _ _ => True :=
  finishes_newSignature whole (signatureWhole_of site typeParameters generic annotated given)

theorem finishes_constructorType {parameters : List ParamSpec}
    (regular : ∀ param ∈ parameters, param.Regular) {returns : Option TypeId} (given : returns ≠ none)
    (parent : Option SiteId) (fileName : Option String) :
    finishing.Keeps q (constructorType parameters returns parent fileName) fun _ _ => True := by
  refine Course.bind (finishes_structural whole rfl fileName) ?_
  rintro ⟨symbol, site⟩ r wholeR - announced
  have finish {t : Program} (wholeT : t.Whole) (since : r.Retains t) :
      finishing.Keeps t (do
        let params ← addParameters site parameters
        let signature ← newSignature { declaration := some site, parameters := Slots.of params, returns }
        bindSignature site signature
        let type ← newType
          { flags := [.object], objectFlags := [.anonymous], symbol := some symbol,
            constructSignatures := Slots.of [signature] }
        bindSite site type
        pure type) fun _ _ => True := by
    refine Course.bind (finishes_addParameters wholeT site regular) fun params u wholeU first made => ?_
    refine Course.bind (finishes_declareSignature wholeU (some []) List.not_mem_nil made given) ?_
    intro signature v wholeV second _
    refine Course.bind (finishes_bindSignature wholeV signature) fun _ w wholeW third _ => ?_
    refine Course.bind (finishes_newType wholeW { typeWhole_fresh [.object] rfl with }) ?_
    intro type x wholeX fourth _
    have upto := since.trans ((first.1.trans second.1).trans (third.1.trans fourth.1))
    refine Course.bind (finishes_bindSite wholeX fun kind => ?_) fun _ y wholeY _ _ =>
      Course.pure wholeY trivial
    cases (announced.stands.later upto).2.symm.trans kind
  dsimp only
  split
  · refine Course.bind (finishes_arrange wholeR (f := fun s => { s with parent })
      (fun s => Site.retains_of_same rfl rfl rfl rfl rfl rfl) fun known => { known with }) ?_
    exact fun _ t wholeT first _ => finish wholeT first.1
  · exact finish wholeR (Retains.refl r)

theorem finishes_callSignature {spec : CallSpec} (regular : ∀ param ∈ spec.parameters, param.Regular)
    (generics : Generics q spec.typeParameters) :
    finishing.Keeps q (callSignature spec) fun _ _ => True := by
  refine Course.bind (finishes_newSite whole (siteWhole_fresh .functionType (some "__call") none none
    none nofun fun _ => rfl) rfl) fun site r wholeR _ _ => ?_
  refine Course.bind (finishes_addParameters wholeR site regular) fun params t wholeT _ made => ?_
  refine Course.bind (finishes_declareSignature wholeT (some spec.typeParameters)
    generics.whole made (Option.some_ne_none _)) fun signature u wholeU _ _ => ?_
  refine Course.bind (finishes_bindSignature wholeU signature) fun _ v wholeV _ _ => ?_
  exact Course.pure wholeV trivial

theorem finishes_objectLiteral {specs : Table String MemberSpec}
    (regular : ∀ entry ∈ specs, entry.2.Regular) (generics : Generics q (memberParameters specs))
    {callSignatures : List (Option SignatureId)} (given : none ∉ callSignatures)
    (stringIndex numberIndex : Option IndexSpec) :
    finishing.Keeps q (objectLiteral specs callSignatures stringIndex numberIndex) fun _ _ => True := by
  refine Course.bind (finishes_structural whole rfl none) ?_
  rintro ⟨symbol, site⟩ r wholeR zeroth announced
  refine Course.bind (finishes_newType wholeR { typeWhole_fresh [.object] rfl with }) ?_
  rintro type t wholeT first ⟨-, -, made⟩
  refine Course.bind (finishes_populate wholeT type site [] (.inl rfl) regular
    (generics.later (zeroth.1.trans first.1)) _ _) fun _ u wholeU second _ => ?_
  have flagged : (u.symbol symbol).flags = [.typeLiteral] :=
    ((first.1.trans second.1).symbol symbol announced.there).flags.trans announced.flagged
  refine Course.bind (finishes_setCalls wholeU (second.1.typeSymbol (congrArg TypeInfo.symbol made))
    (by rw [Symbol.hasFlag, flagged]; rfl) given) fun _ v wholeV third _ => ?_
  have upto := first.1.trans (second.1.trans third.1)
  refine Course.bind (finishes_bindSite wholeV fun kind => ?_) fun _ w wholeW _ _ =>
    Course.pure wholeW trivial
  cases (announced.stands.later upto).2.symm.trans kind

theorem finishes_openMapped (key : String) (constraint : Option TypeId) (optional : Bool) :
    finishing.Keeps q (openMapped key constraint optional) fun _ _ => True := by
  refine Course.bind (finishes_structural whole rfl none) ?_
  rintro ⟨symbol, site⟩ r wholeR _ announced
  refine Course.bind (finishes_arrange wholeR (f := fun s => { s with optional := some optional })
    (fun s => Site.retains_of_same rfl rfl rfl rfl rfl rfl)
    fun known => { known with optional := nofun }) fun _ t wholeT first _ => ?_
  refine Course.bind (finishes_typeParameter wholeT key constraint none) fun keyType u wholeU second _ => ?_
  refine Course.ask_bind wholeU fun declared _ => Course.lift_bind wholeU fun keySite _ => ?_
  refine Course.bind (finishes_arrange wholeU (f := fun s => { s with parent := some site })
    (fun s => Site.retains_of_same rfl rfl rfl rfl rfl rfl) fun known => { known with }) ?_
  intro _ v wholeV third _
  have stands := announced.stands.later ((first.1.trans second.1).trans third.1)
  refine Course.bind (finishes_arrange wholeV (f := fun s => { s with typeParameter := some keySite })
    (fun s => Site.retains_of_same rfl rfl rfl rfl rfl rfl)
    fun known => { known with inferred := fun kind => ?_ }) fun _ w wholeW _ _ =>
      Course.pure wholeW trivial
  cases stands.2.symm.trans kind

theorem finishes_closeMapped {draft : MappedDraft} (kind : (q.site draft.site).kind = .mappedType)
    (value : Option TypeId) : finishing.Keeps q (closeMapped draft value) fun _ _ => True := by
  have stands : Stands q draft.site .mappedType :=
    ⟨site_inside (fun s => s.kind = .mappedType) kind nofun, kind⟩
  refine Course.bind (finishes_writtenType whole _ _) fun written r wholeR first answered => ?_
  refine Course.bind (finishes_giveType wholeR answered) fun _ t wholeT second _ => ?_
  refine Course.bind (finishes_newType wholeT { typeWhole_fresh [.object] rfl with }) ?_
  intro type u wholeU third _
  have stands := stands.later ((first.1.trans second.1).trans third.1)
  refine Course.bind (finishes_bindSite wholeU fun kind => ?_) fun _ v wholeV _ _ =>
    Course.pure wholeV trivial
  cases stands.2.symm.trans kind

theorem finishes_variableOf {header : Header} (named : header.name ≠ "")
    {type initializer : Option TypeId} (given : type ≠ none ∨ initializer ≠ none) :
    finishing.Keeps q (variableOf header type initializer) fun _ _ => True := by
  refine Course.begin (fun made => .symbol made.1)
    (fills_declare whole rfl [.variableKind] (fun _ => named) _ none) ?_
  rintro ⟨symbol, site⟩ r wholeR - announced
  refine Course.bind (finishes_setSymbol wholeR (value_of_fresh announced.fresh)
    fun known => { known with }) ?_
  rintro _ t wholeT zeroth declared
  have held : (t.symbol symbol).valueDeclaration = some site := by
    rw [declared, symbol_modifySymbol, if_pos ⟨rfl, announced.there⟩]
  have finish {u : Program} (wholeU : u.Whole) (since : t.Retains u) (value : TypeId)
      (known : (u.site site).type ≠ none ∨ (u.site site).initializer ≠ none) :
      finishing.Keeps u (do
        bindSymbol symbol value
        bindSite site value
        exportIf header.exported symbol
        pure symbol) fun v _ => True ∧ v.Done (.symbol symbol) := by
    refine Course.bind (finishes_bindSymbol wholeU symbol value) fun _ v wholeV first _ => ?_
    have stands := announced.stands.later (zeroth.1.trans (since.trans first.1))
    refine Course.bind (finishes_bindSite wholeV fun kind => ?_) fun _ w wholeW second _ => ?_
    · cases stands.2.symm.trans kind
    refine Course.bind (finishes_exportIf wholeW _ _) fun _ x wholeX third _ =>
      Course.pure wholeX ⟨trivial, ?_⟩
    have since' := first.1.trans (second.1.trans third.1)
    have upto := zeroth.1.trans (since.trans since')
    refine SymbolDone.of_flags ((upto.symbol symbol announced.there).flags.trans announced.flagged) ?_
    have inside := (announced.stands.later (zeroth.1.trans since)).1
    refine ⟨?_, ?_, ?_, ?_, fun _ => ⟨site, upto.first announced.first,
      (since.trans since').value held, known.imp (since'.site site inside).type
        (since'.site site inside).initializer⟩, ?_, ?_⟩
    all_goals rintro ⟨⟩
  have complete {u : Program} (wholeU : u.Whole) (since : t.Retains u) (value : TypeId)
      (known : initializer = none → (u.site site).type ≠ none) :
      finishing.Keeps u (placingInitializer initializer site do
        bindSymbol symbol value
        bindSite site value
        exportIf header.exported symbol
        pure symbol) fun v _ => True ∧ v.Done (.symbol symbol) := by
    cases initializer with
    | none => exact finish wholeU since value (.inl (known rfl))
    | some initial =>
        refine Course.begin (fun expression => .site expression) (fills_newSite wholeU
          (siteWhole_fresh .expression none none (some site) none (by rintro - _ ⟨⟩) fun _ => rfl)) ?_
        rintro expression v wholeV first ⟨-, -, made, inside⟩
        have isExpression : (v.site expression).isExpression = true := by
          rw [made]
          rfl
        refine Course.bind (finishes_setSite wholeV
          (f := fun s => { s with initializer := some expression })
          (fun s => ⟨rfl, fun held => held, fun _ => rfl, fun held => held, fun _ => by rintro ⟨⟩,
            fun held => held, fun held => held, fun held => held⟩)
          fun known => { known with initializer := ?_ }) ?_
        · rintro _ ⟨⟩
          exact isExpression
        rintro _ w wholeW second written
        have stands := announced.stands.later (zeroth.1.trans (since.trans first))
        have given : (w.site site).initializer ≠ none := by
          rw [written, site_modifySite, if_pos ⟨rfl, stands.1⟩]
          rintro ⟨⟩
        have kind : (w.site expression).kind = .expression :=
          second.1.kind (congrArg Site.kind made) (by rintro ⟨⟩)
        refine Course.bind (finishes_bindSite wholeW fun same => ?_) fun _ x wholeX third told => ?_
        · cases kind.symm.trans same
        have answered := told.2 (Nat.lt_of_lt_of_le inside second.1.sites)
        have stands := (stands.later second.1).1
        refine (finish wholeX (since.trans (first.trans (second.1.trans third.1))) value
          (.inr ((third.1.site site stands).initializer given))).weaken ?_
        rintro y _ - last done
        exact ⟨done, fun _ => last.1.answered answered⟩
  cases type with
  | some annotation =>
      refine Course.bind (finishes_writtenType wholeT _ _) fun written u wholeU first answered => ?_
      refine Course.bind (finishes_giveType wholeU answered) ?_
      rintro _ v wholeV second ⟨-, told⟩
      have inside := (announced.stands.later (zeroth.1.trans first.1)).1
      exact complete wholeV (first.1.trans second.1) annotation fun _ => told inside
  | none =>
      cases initializer with
      | none => rcases given with given | given <;> exact absurd rfl given
      | some value => exact complete wholeT (Retains.refl t) value (by rintro ⟨⟩)

theorem finishes_namespaceOf (name : String) (fileName : Option String) :
    finishing.Keeps q (namespaceOf name fileName) fun _ _ => True := by
  refine Course.bind (finishes_declare whole rfl [.namespaceKind] nofun (fun flagged =>
    SymbolDone.of_flags flagged (symbolDone_of_plain rfl rfl rfl rfl nofun)) none fileName) ?_
  exact fun made r wholeR _ _ => Course.pure wholeR trivial

theorem finishes_valueType (symbol : SymbolId) :
    finishing.Keeps q (valueType symbol) fun _ value => value ≠ none := by
  have told (site : Option SiteId) {value : Option TypeId}
      (found : q.valueTypeAt symbol site = .ok value) : value ≠ none := by
    unfold valueTypeAt at found
    split at found
    · rename_i held
      cases found
      rintro rfl
      exact (whole.symbols symbol).value held
    · obtain ⟨place, -, found⟩ := of_except_bind_ok found
      dsimp only at found
      split at found
      · rename_i held
        cases found
        rintro rfl
        obtain ⟨written, -, answer⟩ := Option.bind_eq_some_iff.mp held
        exact (whole.sites written).answer answer
      · cases found
  apply Course.get_bind
  dsimp only
  split
  · refine Course.ask whole fun value found => ?_
    unfold declaredType at found
    split at found
    · rename_i held
      cases found
      rintro rfl
      exact (whole.symbols symbol).declared held
    · cases found
  · split
    · exact Course.ask whole fun _ found => told _ found
    · exact Course.lift_bind whole fun site _ => Course.ask whole fun _ found => told _ found

/-- What a default export names can be named, or its type is given. -/
def DefaultTarget.Regular (p : Program) : DefaultTarget → Prop
  | symbol id => (p.symbol id).isNameable = true
  | type id => id ≠ none

/-- The expression at a default export, which is told its type before the export is over. -/
theorem finishes_expression {s : Site} (new : SiteWhole q s) (isExpression : s.isExpression = true)
    {site : SiteId} (stands : Stands q site .exportAssignment) (symbol : SymbolId)
    (value : Build (Option TypeId))
    (known : ∀ r : Program, r.Whole → finishing.Keeps r value fun _ type => type ≠ none) :
    finishing.Keeps q (do
      let expression ← newSite s
      setSite site ({ · with expression := some expression })
      let type ← value
      bindSite expression type
      pushExport symbol
      pure symbol) fun r _ => (r.site site).expression ≠ none := by
  refine Course.begin (fun expression => .site expression) (fills_newSite whole new) ?_
  rintro expression r wholeR first ⟨-, -, made, there⟩
  rw [← made] at isExpression
  refine Course.bind (finishes_setSite wholeR (f := fun s => { s with expression := some expression })
    (fun s => ⟨rfl, fun held => held, fun _ => rfl, fun held => held, fun held => held,
      fun _ => nofun, fun held => held, fun held => held⟩)
    fun known => { known with expression := ?_ }) ?_
  · rintro _ _ ⟨⟩
    exact isExpression
  rintro _ t wholeT second written
  have given : (t.site site).expression ≠ none := by
    rw [written, site_modifySite, if_pos ⟨rfl, (stands.later first).1⟩]
    nofun
  have inside := (stands.later (first.trans second.1)).1
  refine Course.bind (known t wholeT) fun type u wholeU third told => ?_
  obtain ⟨type, rfl⟩ := Option.ne_none_iff_exists'.mp told
  refine Course.bind (finishes_bindSite wholeU fun kind => ?_) fun _ v wholeV fourth told => ?_
  · have isExpression := (second.1.trans third.1).isExpression isExpression
    rw [Site.isExpression, kind] at isExpression
    cases isExpression
  refine Course.bind (finishes_pushExport wholeV symbol) fun _ w wholeW last _ => Course.pure wholeW ?_
  refine ⟨((third.1.trans (fourth.1.trans last.1)).site site inside).expression given, fun _ => ?_⟩
  exact last.1.answered (told.2 (Nat.lt_of_lt_of_le there (second.1.trans third.1).sites))

theorem finishes_defaultExport {target : DefaultTarget} (regular : target.Regular q)
    (doc : Option String) : finishing.Keeps q (defaultExport target doc) fun _ _ => True := by
  have new : SymbolWhole q
      { name := defaultName, flags := [.aliasKind], documentation := docList doc } :=
    { symbolWhole_announced defaultName [.aliasKind] ⟨0⟩ none doc nofun with }
  refine Course.begin (fun symbol => .symbol symbol) (fills_newSymbol whole new) ?_
  rintro symbol r wholeR zeroth ⟨-, there, made⟩
  apply Course.get_bind
  refine Course.bind (finishes_source wholeR _) fun parent t wholeT first symbols => ?_
  refine Course.bind (finishes_newSite wholeT (siteWhole_fresh .exportAssignment none (some symbol)
    (some parent) none nofun nofun) rfl) ?_
  rintro site u wholeU second ⟨added, -, placed, inside⟩
  have bare : (u.symbol symbol).declarations = some [] := by
    rw [added]
    change (t.symbols.getD symbol.index default).declarations = _
    rw [symbols]
    exact congrArg Symbol.declarations made
  refine Course.bind (finishes_setSymbol wholeU
    (f := fun s => { s with declarations := Slots.of [site] })
    ⟨rfl, fun given => absurd bare given, fun _ held => held, fun held => held⟩
    fun known => { known with }) ?_
  rintro _ v wholeV third written
  have since := (first.1.trans second.1).trans third.1
  have declared : (v.symbol symbol).declarations.first? = some site := by
    rw [written, symbol_modifySymbol, if_pos
      ⟨rfl, Nat.lt_of_lt_of_le there (first.1.trans second.1).symbols⟩]
    rfl
  have stands : Stands v site .exportAssignment :=
    Stands.later ⟨inside, congrArg Site.kind placed⟩ third.1
  have done {w : Program} (last : v.Retains w) (given : (w.site site).expression ≠ none) :
      w.Done (.symbol symbol) := by
    have flags := ((since.trans last).symbol symbol there).flags.trans (congrArg Symbol.flags made)
    exact SymbolDone.of_flags flags ⟨nofun, nofun, nofun, nofun, nofun,
      fun _ => ⟨site, last.first declared, (stands.later last).2, given⟩, nofun⟩
  cases target with
  | symbol named =>
      have nameable := (zeroth.trans since).isNameable regular
      refine Course.get_bind ((finishes_expression wholeV ?_ rfl stands symbol (valueType named)
        fun r wholeR => finishes_valueType wholeR named).weaken
          fun w _ _ last given => ⟨trivial, done last.1 given⟩)
      refine siteWhole_fresh .identifier _ (some named) (some site) none ?_ nofun
      rintro _ _ ⟨⟩
      exact nameable
  | type type =>
      exact (finishes_expression wholeV
        (siteWhole_fresh .expression none none (some site) none nofun fun _ => rfl) rfl stands symbol
        (pure type) fun r wholeR => Course.pure wholeR regular).weaken
          fun w _ _ last given => ⟨trivial, done last.1 given⟩

end Build

end TypeAtlas
