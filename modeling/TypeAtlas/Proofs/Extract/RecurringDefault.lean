import TypeAtlas.Proofs.Extract.Default
import TypeAtlas.Proofs.Extract.Recurring

/-!
Default exports repeated in another order. What a default export names has its entry by then, so that the
reference to it comes to the same arguments.
-/

namespace TypeAtlas

open Extract

variable {e : Engine} {final : Walk} {manner : Manner} {ages : Ages} {now : Nat} {rank : TypeId → Nat}

theorem isSynthesized_eq (name : String) :
    Build.isSynthesized name = "__".toList.isPrefixOf name.toList := by
  rw [Bool.eq_iff_iff, List.isPrefixOf_iff_prefix]
  simp [Build.isSynthesized, String.startsWith_string_iff]

theorem Walk.Unreserved.stands {w : Walk} (unreserved : w.Unreserved) {name : String}
    (known : w.registry.has name = true) : w.Stands name := by
  rcases stands_of_has known with stands | reserved
  · exact stands
  · rw [unreserved name] at reserved
    cases reserved

namespace Engine

/-- The type that a default export names goes by its own name. -/
def DefaultsBare (e : Engine) : Prop :=
  ∀ site symbol type own, e.program.HasDefault site → e.program.DefaultOf site symbol →
    e.program.declaredType (some symbol) = .ok (some type) → (e.program.type type).symbol = some own →
      (e.originOf (some own)).scope? = some .global → e.program.globalName own = (e.program.symbol own).name

/-- With names made up as the compiler makes them up, no declared type of a usable name has an alias. -/
theorem unaliased_of_usable (fits : e.program.Fits manner ages now)
    (prefixed : e.settings.anonymousStart = "__") {type : TypeId} {name : String}
    (declares : e.program.Declares type name) (usable : e.isAnonymous name = false) :
    (e.program.type type).alias? = none := by
  obtain ⟨symbol, held, -, rfl⟩ := declares.1
  by_contra aliased
  obtain ⟨named, aliased⟩ := Option.ne_none_iff_exists'.mp aliased
  have synthesized := ((fits.types type).aliased named aliased).2 symbol held
  rw [isAnonymous, prefixed, ← isSynthesized_eq, synthesized, Bool.or_true] at usable
  cases usable

section Registered

variable (steady : e.Steady manner ages now rank) (prefixed : e.settings.anonymousStart = "__")
include steady prefixed

omit steady prefixed in
theorem visited_of_declares (fits : e.program.Fits manner ages now) {type : TypeId} {name : String}
    (declares : e.program.Declares type name) (usable : e.isAnonymous name = false)
    (unaliased : (e.program.type type).alias? = none) {w after : Walk} {node : Node}
    (ran : e.includeType type w = (.ok node, after)) :
    e.includeExternal type w = (.ok (some node), after) ∨
      ∃ between, e.makeRef (some type) name between = (.ok node, after) := by
  obtain ⟨plain, declared, object, -⟩ := plain_of_declares fits declares
  have nonempty : name.isEmpty = false := (Bool.or_eq_false_iff.mp usable).1
  unfold includeType at ran
  simp only [plain, nameOf_declared declares unaliased] at ran
  rw [includeKnown_of_other e _ (Or.inl declared)] at ran
  simp only [includeTitled, nonempty, unaliased, usable, object, Option.isSome_none, Bool.false_and,
    Bool.or_self, Bool.false_eq_true, if_false] at ran
  obtain ⟨external, between, asked, ran⟩ := of_bind_ok ran
  cases external with
  | none => exact Or.inr ⟨between, ran⟩
  | some held =>
      cases ran
      exact Or.inl asked

omit prefixed in
/-- An import goes by its own name. -/
theorem has_of_includeExternal {type : TypeId} {own : SymbolId}
    (held : (e.program.type type).symbol = some own) (made : e.isMade type = true)
    (object : (e.program.type type).isAnonymousObject = false)
    (usable : e.isAnonymous (e.program.symbol own).name = false) {w after : Walk} {node : Node}
    (homed : w.Homed e) (ran : e.whole.includeExternal type w = (.ok (some node), after)) :
    ∃ scope, (e.originOf (some own)).scope? = some scope ∧
      after.registry.has (e.titleOf own scope) = true := by
  have same : (e.whole.program.type type).symbol = some own := held
  have isUsable : e.whole.isAnonymous (e.whole.program.symbol own).name = false := usable
  have isObject : (e.whole.program.type type).isAnonymousObject = false := object
  unfold includeExternal at ran
  cases outside : (e.whole.originOf (some own)).scope? with
  | none =>
      simp only [same, outside] at ran
      cases ran
  | some scope =>
      have claims : e.Claims (e.titleOf own scope) (.imported (e.importOf own scope)) :=
        .imported outside usable (.own held made (by rw [object, Bool.and_false]))
      obtain ⟨bound, binds⟩ := Walk.binds_of_homed steady.unrivalled homed claims outside
      simp only [same, outside, isUsable, isObject, Bool.and_false, Bool.false_eq_true, if_false] at ran
      obtain ⟨name, between, named, ran⟩ := of_bind_ok ran
      cases binds.ran.symm.trans named
      rw [map_eq] at ran
      obtain ⟨_, _, referred, ended⟩ := of_bind_ok ran
      cases ended
      exact ⟨scope, outside, ((advances_includeRef orderly_whole _ _ _).after referred).has
        (has_of_bindImport binds.ran)⟩

/-- A declared type is there after its root, under its own name. -/
theorem has_of_includeExportedType {type : TypeId} {own : SymbolId}
    (declares : e.program.Declares type (e.program.symbol own).name)
    (held : (e.program.type type).symbol = some own)
    (usable : e.isAnonymous (e.program.symbol own).name = false)
    (bare : (e.originOf (some own)).scope? = some .global →
      e.program.globalName own = (e.program.symbol own).name)
    {w after : Walk} (homed : w.Homed e) (ran : e.whole.includeExportedType type w = (.ok (), after)) :
    after.registry.has (e.program.symbol own).name = true := by
  have same : (e.whole.program.type type).symbol = some own := held
  have unaliased := unaliased_of_usable steady.fits prefixed declares usable
  unfold includeExportedType at ran
  simp only [same] at ran
  obtain ⟨node, between, entered, ended⟩ := of_bind_ok ran
  obtain ⟨inner, visited, rfl⟩ := of_inScope_ok entered
  obtain ⟨r, rfl⟩ := ref_of_declares (e := e.whole) steady.fits declares usable visited
  cases ended
  rw [Walk.registry_closeScope]
  rcases visited_of_declares (e := e.whole) steady.fits declares usable unaliased visited with
    asked | ⟨middle, referred⟩
  · obtain ⟨-, parameter, object, -⟩ := plain_of_declares steady.fits declares
    have opened : w.openScope.Homed e := homed.of_same rfl rfl
    obtain ⟨scope, outside, known⟩ := has_of_includeExternal steady held
      (by rw [isMade, parameter, Bool.not_false, Bool.or_true]) object usable opened asked
    cases scope with
    | global => rwa [titleOf, bare outside] at known
    | _ => exact known
  · exact has_of_makeRef orderly_whole referred

variable (apart : e.program.RootsApart e.settings) (bare : e.DefaultsBare)
include apart bare

/-- The entry that a default export refers to is there after its root. -/
theorem has_of_includeNamedDefault {site : SiteId} {symbol : SymbolId}
    (default : e.program.HasDefault site)
    (isNamed : (e.program.site site).kind ≠ .functionDeclaration)
    (named : e.program.DefaultOf site symbol) {w after : Walk}
    (homed : w.Homed e) (ran : e.whole.includeNamedDefault symbol w = (.ok (), after)) :
    after.registry.has (e.program.symbol symbol).name = true := by
  cases exports_of_includeNamedDefault (e := e.whole) steady.fits ran with
  | named _ _ _ made => exact made.stands.has
  | function _ _ _ made => exact made.stands.has
  | value _ _ _ made => exact made.stands.has
  | type type unaliased uncalled isType asked ran =>
      obtain ⟨-, -, declares⟩ := declares_of_declaredType (e := e.whole) steady.fits isType asked
      obtain ⟨own, held, -, called⟩ := id declares.1
      have plain : (e.program.symbol own).name = (e.program.symbol symbol).name := called
      have sort : RootKind.sortOf (e.program.symbol symbol) = .type := by
        have flags : (e.program.symbol symbol).hasFlag .typeAlias = false := unaliased
        have function : (e.program.symbol symbol).hasFlag .function = false := uncalled
        have type : RootKind.isTypeSymbol (e.program.symbol symbol) = true := isType
        simp [RootKind.sortOf, flags, function, type]
      have usable := usable_of_exported apart (.named default isNamed named) sort
      rw [← plain] at usable ⊢
      refine has_of_includeExportedType steady prefixed ?_ held usable
        (bare site symbol type own default named asked held) homed ran
      rwa [plain]

omit prefixed apart bare in
theorem uncounted_of_default {site : SiteId} {r : Registry} {name : String} {node last : Node}
    (claims : e.Claims name (.root .default site)) (filled : r.Filled name node) (alike : node.Alike last)
    (noted : e.Noted final name last) : r.parameterCount? name = none := by
  have unrivalled : e.Unrivalled := steady.unrivalled
  obtain ⟨value, comment, rfl⟩ : ∃ value comment, last = .defaultExport value comment := by
    rcases noted.wrote with rival | ⟨maker, step, entries, w, built, wrote⟩
    · cases unrivalled claims rival
    · obtain rfl := unrivalled claims wrote.claims
      cases wrote.builds
      obtain ⟨value, _, -, ran⟩ := of_bind_ok wrote.ran
      obtain ⟨comment, _, -, ran⟩ := of_bind_ok ran
      cases ran
      exact ⟨value, comment, rfl⟩
  cases alike
  rw [Registry.parameterCount?, filled.1, filled.2]
  rfl

omit prefixed apart bare in
/-- As many arguments are left of a reference wherever its entry stands. -/
theorem counts_agree (told : final.Told e) {r other : Registry} {name : String} {node held : Node}
    (filled : r.Filled name node) (noted : ∃ last, node.Alike last ∧ e.Noted final name last)
    (there : other.Filled name held) (also : ∃ last, held.Alike last ∧ e.Noted final name last) :
    r.parameterCount? name = other.parameterCount? name := by
  obtain ⟨last, alike, noted⟩ := noted
  obtain ⟨least, similar, also⟩ := also
  by_cases default : ∃ site, e.Claims name (.root .default site)
  · obtain ⟨site, claims⟩ := default
    rw [uncounted_of_default steady claims filled alike noted,
      uncounted_of_default steady claims there similar also]
  · have same := alike_of_noted steady told (unmet_le_entryBound final)
      (fun site claims => default ⟨site, claims⟩) noted also
    exact Registry.parameterCount?_of_alike filled there ((alike.trans same).trans similar.symm)

omit prefixed apart bare steady in
/-- A step that goes by an entry which the step before has left. -/
theorem recurs_after {first : Extract Unit} {next : Extract Node} {name : String}
    (recurs : Recurs e final first)
    (leaves : ∀ w after : Walk, w.Homed e → first w = (.ok (), after) → after.registry.has name = true)
    (advances : Advances next)
    (keeps : ∀ w : Walk, w.registry.has name = true → KeepsAt e final next w)
    (again : final.Told e → ∀ w u : Walk, w.registry.has name = true → u.registry.has name = true →
      RecursAt e final next w u) : Recurs e final (do first; next) where
  advances := advances_bind recurs.advances fun _ => advances
  keeps w value after ran rests leads :=
    keepsAt_bind (recurs.keeps w) (fun _ _ _ => advances)
      (fun _ between stepped => keeps between (leaves w between rests.homed stepped)) value after ran rests
      leads
  recurs told w u value after ran rests leads resumes :=
    recursAt_bind (recurs.keeps w) (fun _ _ _ => advances) (recurs.recurs told w u)
      (fun _ between later stepped rerun => again told between later
        (leaves w between rests.homed stepped) (leaves u later resumes.homed rerun))
      value after ran rests leads resumes

omit prefixed apart bare in
theorem keepsAt_includeRef {type : TypeId} {name : String} {live : Option TypeId} {w : Walk}
    (known : w.registry.has name = true) : KeepsAt e final (e.whole.includeRef type name live) w := by
  let slots := (e.program.type type).arguments.slots
  have visits : Recurs e final (e.whole.visitAll slots) :=
    recurs_of_echoes ((repeats_whole steady).visitAll slots) (orderly_visitAll orderly_whole slots)
  rw [show e.whole.includeRef type name live = _ from includeRef_eq type name live]
  refine keepsAt_bind (visits.keeps w) (fun types _ _ => advances_referTo _ _ _ _ types) ?_
  intro types between visited value after ran rests _
  rw [referTo_apply ((visits.advances.after visited).has known)] at ran
  rw [← (Prod.mk.inj ran).2]
  exact ⟨rests, fun _ spelled => spelled⟩

omit prefixed apart bare in
theorem recursAt_includeRef (told : final.Told e) {type : TypeId} {name : String} {live : Option TypeId}
    {w u : Walk} (known : w.registry.has name = true) (there : u.registry.has name = true) :
    RecursAt e final (e.whole.includeRef type name live) w u := by
  let slots := (e.program.type type).arguments.slots
  have visits : Recurs e final (e.whole.visitAll slots) :=
    recurs_of_echoes ((repeats_whole steady).visitAll slots) (orderly_visitAll orderly_whole slots)
  rw [show e.whole.includeRef type name live = _ from includeRef_eq type name live]
  refine recursAt_bind (visits.keeps w) (fun types _ _ => advances_referTo _ _ _ _ types)
    (visits.recurs told w u) ?_
  intro types between later visited again value after ran rests _ resumes
  have known := (visits.advances.after visited).has known
  have there := (visits.advances.after again).has there
  obtain ⟨node, filled⟩ := rests.unreserved.stands known
  obtain ⟨other, also⟩ := resumes.unreserved.stands there
  rw [referTo_apply known, counts_agree steady told filled (rests.alike name node filled) also
    (resumes.toWithin.alike told name other also)] at ran
  refine ⟨later, ?_, resumes⟩
  rw [referTo_apply there, (Prod.mk.inj ran).1]

omit prefixed apart bare steady in
theorem syntheticRef_of_has {w : Walk} (known : w.registry.has RootKind.syntheticName = true) :
    syntheticRef w = (.ok (.ref { name := RootKind.syntheticName }), w) := by
  rw [syntheticRef, bind_ok (resolve_of_has known)]
  rfl

omit prefixed apart bare steady in
theorem recurs_syntheticRef {first : Extract Unit} (recurs : Recurs e final first)
    (stands : ∀ w after : Walk, first w = (.ok (), after) → after.Stands RootKind.syntheticName) :
    Recurs e final (do first; syntheticRef) := by
  refine recurs_after recurs (fun w after _ ran => (stands w after ran).has)
    (advances_bind (advances_bind (advances_reserve _) fun _ => composes_advances.pure _) fun _ =>
      composes_advances.pure _) (fun w known value after ran rests _ => ?_) ?_
  · rw [syntheticRef_of_has known] at ran
    cases ran
    exact ⟨rests, fun _ spelled => spelled⟩
  · intro _ w u known there value after ran _ _ resumes
    rw [syntheticRef_of_has known] at ran
    cases ran
    exact ⟨u, syntheticRef_of_has there, resumes⟩

theorem recurs_defaultValue {site : SiteId} (default : e.program.HasDefault site) :
    Recurs e final (e.whole.defaultValue site) := by
  have synthetic (type : TypeId) : ¬ e.program.Registers type RootKind.syntheticName := apart.synthetic type
  unfold defaultValue
  dsimp only
  split
  · rename_i isFunction
    exact recurs_syntheticRef (recurs_function steady (.synthetic default isFunction) synthetic)
      fun w after ran => (made_of_includeExportedFunction ran).choose_spec.stands
  · rename_i isNamed
    split
    · exact sequences_recurs.diagnose _
    · rename_i place held
      refine sequences_recurs.bind_of (sequences_recurs.lift _) fun _ type _ stands => ?_
      rw [lift_apply, Prod.mk.injEq] at stands
      split
      · rename_i symbol called
        have named : e.program.DefaultOf site symbol := ⟨place, held, called⟩
        have exported : Recurs e final (e.whole.includeNamedDefault symbol) :=
          (recurs_rootSteps steady apart).includeNamedDefault steady.fits (.named default isNamed named)
        cases type with
        | none =>
            refine sequences_recurs.bind exported fun _ => ?_
            refine sequences_recurs.bind_of (sequences_recurs.lift _) fun _ type _ found => ?_
            cases found
        | some type =>
            refine recurs_after exported
              (fun w after homed ran =>
                has_of_includeNamedDefault steady prefixed apart bare default isNamed named homed ran)
              (advances_includeRef orderly_whole _ _ _) (fun w known => keepsAt_includeRef steady known)
              fun told w u known there => recursAt_includeRef steady told known there
      · rename_i nameless
        refine recurs_syntheticRef (recurs_made steady (.expression default held nameless)
          (.expression stands.1) nofun nofun nofun synthetic (orderly_exportedExpression orderly_whole type))
          fun w after ran => (made_of_entry ran).stands

theorem recurs_defaultNode {site : SiteId} (default : e.program.HasDefault site) :
    Recurs e final (e.whole.defaultNode site) := by
  refine sequences_recurs.bind (recurs_defaultValue steady prefixed apart bare default) fun value => ?_
  exact sequences_recurs.bind (sequences_recurs.lift _) fun comment => sequences_recurs.pure _

omit steady prefixed apart bare in
theorem includeDefaultExport_eq (site : SiteId) : e.includeDefaultExport site = (do
    Extract.set RootKind.defaultName (← e.defaultNode site)) := by
  simp only [includeDefaultExport, defaultNode, bind_assoc, pure_bind]

/-- What is noted as a default export is described so again. -/
theorem described_of_noted {site : SiteId} {name : String} {node : Node}
    (default : e.program.HasDefault site) (claims : e.Claims name (.root .default site))
    (noted : e.Noted final name node) (told : final.Told e) {u : Walk} (resumes : u.Resumes e final) :
    ∃ later, e.whole.defaultNode site u = (.ok node, later) := by
  have unrivalled : e.Unrivalled := steady.unrivalled
  rcases noted.wrote with rival | ⟨maker, step, entries, w, built, wrote⟩
  · cases unrivalled claims rival
  · obtain rfl := unrivalled claims wrote.claims
    cases wrote.builds
    cases wrote.begun with
    | within undefaulted => exact absurd rfl (undefaulted site)
    | default outside unreserved all =>
        subst all
        obtain ⟨later, again, -⟩ := (recurs_defaultNode steady prefixed apart bare default).recurs told w u
          node built wrote.ran ⟨wrote.proper, unreserved, outside⟩ wrote.leads resumes
        exact ⟨later, again⟩

/-- A default export is written again as it stands in the final walk. -/
theorem recurs_includeDefaultExport {site : SiteId} (default : e.program.HasDefault site) :
    Recurs e final (e.whole.includeDefaultExport site) := by
  have unrivalled : e.Unrivalled := steady.unrivalled
  have claims : e.Claims RootKind.defaultName (.root .default site) := .default default
  have alone := unrivalled.apart claims nofun
  have described : Recurs e final _ := recurs_defaultNode steady prefixed apart bare default
  have wrote {w built : Walk} {node : Node} (rests : w.Rests e final)
      (ran : e.whole.defaultNode site w = (.ok node, built)) (left : built.Leads final) :
      e.Wrote final RootKind.defaultName node (.root .default site) (·.defaultNode site)
        (entryBound e.program) w built := by
    refine ⟨claims, .default site, rests.toProper, .default rests.outside rests.unreserved rfl, ran, left, ?_⟩
    rw [(described.advances.after ran).outside rests.outside]
    exact List.nil_subset _
  rw [includeDefaultExport_eq]
  refine ⟨advances_bind described.advances fun node => (settles_set _ node).advances,
    fun w value after ran rests leads => ?_, fun told w u value after ran rests leads resumes => ?_⟩
  · obtain ⟨node, built, stepped, written⟩ := of_bind_ok ran
    cases written
    have left := (Walk.extends_set built RootKind.defaultName node).leads leads
    have wrote := wrote rests stepped left
    obtain ⟨paused, spells⟩ := described.keeps w node built stepped rests left
    have flat := (upholds_set apart.default (wrote.builds.plain nofun wrote.ran) built paused.reached
      paused.flat).flat
    refine ⟨⟨paused.toProper.set flat alone wrote.noted, ?_, paused.outside⟩, fun name spelled => ?_⟩
    · exact (Walk.settled_set built _ node).unreserved paused.unreserved
    · have distinct : RootKind.defaultName ≠ name := by
        rintro rfl
        obtain ⟨_, _, _, _, _, _, -, -, rival⟩ := spelled
        cases unrivalled claims rival.claims
      exact (spells name spelled).later fun held filled => Registry.filled_set_of_ne node distinct filled
  · obtain ⟨node, built, stepped, written⟩ := of_bind_ok ran
    cases written
    have left := (Walk.extends_set built RootKind.defaultName node).leads leads
    obtain ⟨later, again, resumed⟩ := described.recurs told w u node built stepped rests left resumes
    obtain ⟨other, filled, noted⟩ := told.filled (leads.has _ (Registry.has_set_self _ _ _))
    obtain ⟨_, rerun⟩ := described_of_noted steady prefixed apart bare default claims noted told resumes
    cases again.symm.trans rerun
    refine ⟨later.set RootKind.defaultName node, bind_ok again,
      resumed.toWithin.set alone filled (.refl node), (Walk.settled_set later _ node).unreserved resumed.unreserved, resumed.outside⟩

omit prefixed bare in
theorem spells_of_includeExportedAlias {symbol : SymbolId} {site : SiteId}
    (exported : e.program.Exported symbol)
    (sort : RootKind.sortOf (e.program.symbol symbol) = .named) (placed : e.program.DeclaredAt symbol site)
    (title : (e.program.site site).name = some (e.program.symbol symbol).name) {w after : Walk}
    (rests : w.Rests e final) (ran : e.whole.includeExportedAlias site w = (.ok (), after))
    (leads : after.Leads final) : e.Spells final after (e.program.symbol symbol).name := by
  have unshaped := unshaped_of_exported apart exported sort nofun
  obtain ⟨found, between, named, entered⟩ := of_bind_ok ran
  obtain ⟨rfl, rfl⟩ := declaredName_eq (e := e.whole) steady.fits title named
  cases right : (e.program.site site).type with
  | none =>
      rw [show (e.whole.program.site site).type = _ from right] at entered
      cases entered
  | some written =>
      rw [show (e.whole.program.site site).type = _ from right] at entered
      have writing : e.Writing final _ _ _ _ :=
        writing_alias steady ⟨symbol, exported, placed, sort, rfl⟩ right unshaped
      obtain ⟨node, begun, built, filled, wrote⟩ := writing.filled rests entered leads
      exact ⟨site, written, _, node, begun, built, right, filled, wrote⟩

omit prefixed bare in
theorem spells_of_includeNamedDefault {symbol : SymbolId} (exported : e.program.Exported symbol)
    (sort : RootKind.sortOf (e.program.symbol symbol) = .named) {w after : Walk}
    (rests : w.Rests e final) (ran : e.whole.includeNamedDefault symbol w = (.ok (), after))
    (leads : after.Leads final) : e.Spells final after (e.program.symbol symbol).name := by
  have aliased : (e.program.symbol symbol).hasFlag .typeAlias = true := by
    by_contra unaliased
    rw [RootKind.sortOf, if_neg unaliased] at sort
    split at sort
    · cases sort
    · split at sort <;> cases sort
  unfold includeNamedDefault at ran
  rw [if_pos (show (e.whole.program.symbol symbol).hasFlag .typeAlias = true from aliased)] at ran
  cases first : e.program.firstDeclaration (some symbol) with
  | none =>
      rw [show e.whole.program.firstDeclaration (some symbol) = _ from first] at ran
      cases ran
  | some site =>
      rw [show e.whole.program.firstDeclaration (some symbol) = _ from first] at ran
      refine spells_of_includeExportedAlias steady apart exported sort (.first first) ?_ rests ran leads
      exact (steady.fits.symbols symbol).titled site
        (Or.inl ⟨by rw [Symbol.isTitled, aliased, Bool.true_or], first⟩)

omit steady prefixed apart bare in
theorem of_defaultValue_named {site place : SiteId} {symbol : SymbolId}
    (isNamed : (e.program.site site).kind ≠ .functionDeclaration)
    (held : (e.program.site site).expression = some place)
    (called : (e.program.site place).symbol = some symbol) {w after : Walk} {node : Node}
    (ran : e.defaultValue site w = (.ok node, after)) :
    ∃ type between, e.includeNamedDefault symbol w = (.ok (), between) ∧
      e.includeRef type (e.program.symbol symbol).name none between = (.ok node, after) := by
  simp only [defaultValue, if_neg isNamed, held, called] at ran
  obtain ⟨type, same, asked, ran⟩ := of_bind_ok ran
  obtain rfl := (Prod.mk.inj asked).2
  obtain ⟨_, between, first, ran⟩ := of_bind_ok ran
  obtain ⟨type, same, found, ran⟩ := of_bind_ok ran
  obtain rfl := (Prod.mk.inj found).2
  exact ⟨type, _, first, ran⟩

/-- A default export leaves the alias that it names written out. -/
theorem spells_of_includeDefaultExport {site : SiteId} {symbol : SymbolId}
    (default : e.program.HasDefault site) (isNamed : (e.program.site site).kind ≠ .functionDeclaration)
    (named : e.program.DefaultOf site symbol)
    (sort : RootKind.sortOf (e.program.symbol symbol) = .named) {w after : Walk}
    (rests : w.Rests e final) (ran : e.whole.includeDefaultExport site w = (.ok (), after))
    (leads : after.Leads final) : e.Spells final after (e.program.symbol symbol).name := by
  have unrivalled : e.Unrivalled := steady.unrivalled
  have exported : e.program.Exported symbol := .named default isNamed named
  obtain ⟨place, held, called⟩ := named
  rw [includeDefaultExport_eq] at ran
  obtain ⟨node, built, described, written⟩ := of_bind_ok ran
  cases written
  obtain ⟨value, valued, found, commented⟩ := of_bind_ok described
  obtain ⟨comment, same, asked, ended⟩ := of_bind_ok commented
  cases ended
  obtain rfl := (Prod.mk.inj asked).2
  obtain ⟨type, between, first, referred⟩ := of_defaultValue_named (e := e.whole) isNamed held called found
  have left := (Walk.extends_set valued RootKind.defaultName (.defaultExport value comment)).leads leads
  have before := ((advances_includeRef orderly_whole _ _ _).after referred).leads left
  have spells := spells_of_includeNamedDefault steady apart exported sort rests first before
  obtain ⟨paused, -⟩ := ((recurs_rootSteps steady apart).includeNamedDefault steady.fits exported).keeps w _ _
    first rests before
  have known := has_of_includeNamedDefault steady prefixed apart bare default isNamed ⟨place, held, called⟩
    rests.homed first
  have spells := (keepsAt_includeRef steady known value valued referred paused left).2 _ spells
  refine spells.later fun held filled => Registry.filled_set_of_ne _ (fun same => ?_) filled
  obtain ⟨_, _, _, _, _, _, -, -, rival⟩ := spells
  rw [← same] at rival
  cases unrivalled (.default default) rival.claims

/-- Some root leaves an exported alias written out. -/
theorem spells_of_spelled {name : String} {site : SiteId} (spelled : e.Spelled name site) :
    ∃ exports symbol kind, (e.program.symbol e.program.moduleSymbol).exports.each = .ok exports ∧
      some symbol ∈ exports ∧ RootKind.of? (e.program.symbol symbol) = some kind ∧
        ∀ w after : Walk, e.whole.includeRoot symbol kind w = (.ok (), after) → w.Rests e final →
          after.Leads final → e.Spells final after name := by
  obtain ⟨symbol, exported, placed, sort, rfl⟩ := spelled
  cases id exported with
  | @listed exports listed member suited =>
      rw [sort] at suited
      refine ⟨exports, symbol, .named, listed, member, suited, fun w after ran rests leads => ?_⟩
      have titled := (steady.fits.symbols symbol).titled
      simp only [includeRoot, reduceCtorEq, if_false] at ran
      cases first : (e.whole.program.symbol symbol).declarations.first? with
      | none =>
          simp only [first] at ran
          cases ran
      | some place =>
          simp only [first] at ran
          exact spells_of_includeExportedAlias steady apart exported sort (.first first)
            (titled place (Or.inl ⟨of?_cases suited, first⟩)) rests ran leads
  | @named site default isNamed named =>
      obtain ⟨exports, root, listed, member, called, first⟩ := id default
      have suited : RootKind.of? (e.program.symbol root) = some .default := by simp [RootKind.of?, called]
      refine ⟨exports, root, .default, listed, member, suited, fun w after ran rests leads => ?_⟩
      obtain ⟨place, found, ran⟩ := of_includeRoot_default ran
      cases first.symm.trans found
      exact spells_of_includeDefaultExport steady prefixed apart bare default isNamed named sort rests ran
        leads

end Registered

end Engine

end TypeAtlas
