import TypeAtlas.Proofs.Builder.FinishedDeclared
import TypeAtlas.Proofs.Program.Calls
import TypeAtlas.Proofs.Program.Parametric

/-!
The steps of a call keep the type parameters of what is declared listed at its declaration. A call lists
type parameters at places of its own only, before anything is told to stand there.
-/

namespace TypeAtlas

namespace Build

open Program

variable {bound : Nat} {q : Program}

/-- A place of the call in progress that declares nothing generic and no type parameter. -/
structure Aside (bound : Nat) (q : Program) (site : SiteId) : Prop where
  outside : bound ≤ site.index
  there : site.index < q.sites.size
  other : (q.site site).kind.isHead = false

theorem Aside.later {r : Program} {site : SiteId} (aside : Aside bound q site)
    (framed : q.Framed bound r) : Aside bound r site :=
  ⟨aside.outside, Nat.lt_of_lt_of_le aside.there framed.sites,
    by rw [framed.kind site aside.there, aside.other]⟩

structure NewHead (bound : Nat) (q : Program) (kind : SiteKind) (symbol : SymbolId) (site : SiteId) :
    Prop where
  outside : bound ≤ site.index
  there : site.index < q.sites.size
  kind : (q.site site).kind = kind
  unanswered : (q.site site).answers.type = none
  empty : (q.site site).typeParameters.slots = []
  declarations : (q.symbol symbol).declarations = Slots.of [site]

theorem NewHead.aside {kind : SiteKind} {symbol : SymbolId} {site : SiteId}
    (begun : NewHead bound q kind symbol site) (other : kind.isHead = false) : Aside bound q site :=
  ⟨begun.outside, begun.there, by rw [begun.kind, other]⟩

theorem NewHead.declares {r : Program} {kind : SiteKind} {symbol : SymbolId} {site : SiteId}
    (begun : NewHead bound q kind symbol site) (framed : q.Framed bound r) {type : TypeId}
    (held : (r.type type).symbol = some symbol) : r.FirstAt type site :=
  ⟨symbol, [], held, by
    rw [framed.symbol symbol (by rw [begun.declarations]; nofun), begun.declarations]; rfl⟩

variable (guarded : q.Guarded bound)
include guarded

theorem guards_place {s : Site} (unanswered : s.answers.type = none) (other : s.kind.isHead = false) :
    (guarding bound).Keeps q (newSite s) fun r id => Aside bound r id := by
  refine (guards_newSite guarded unanswered (.inr other)).weaken ?_
  rintro _ _ - - ⟨rfl, rfl⟩
  refine ⟨guarded.room, by simp [addSite], ?_⟩
  rw [site_addSite, if_pos rfl, other]

omit guarded in
theorem guards_written (fuel : Nat) :
    (∀ {q type parent}, q.Guarded bound →
      (guarding bound).Keeps q (writtenFrom fuel type parent) fun _ _ => True) ∧
    (∀ {q types parent}, q.Guarded bound →
      (guarding bound).Keeps q (writtenEach fuel types parent) fun _ _ => True) := by
  induction fuel with
  | zero => exact ⟨fun guarded => Course.throw guarded _, fun guarded => Course.throw guarded _⟩
  | succ fuel ih =>
      constructor
      · intro q type parent guarded
        unfold writtenFrom
        apply Course.get_bind
        refine Course.lift_bind guarded fun id _ => ?_
        have finish {r : Program} {site : SiteId} (guardedR : r.Guarded bound)
            (aside : Aside bound r site) :
            (guarding bound).Keeps r (do bindSite site id; pure site) fun _ _ => True :=
          Course.bind (guards_bindSite guardedR aside.other _) fun _ _ guardedT _ _ =>
            Course.pure guardedT trivial
        have touch {r : Program} {site : SiteId} (guardedR : r.Guarded bound)
            (aside : Aside bound r site) {f : Site → Site} (heads : ∀ s : Site, s.Heads (f s)) :
            (guarding bound).Keeps r (do setSite site f; bindSite site id; pure site)
              fun _ _ => True :=
          Course.bind (guards_touchSite guardedR site heads) fun _ _ guardedT framed _ =>
            finish guardedT (aside.later framed)
        simp only [pure_bind]
        split
        · refine Course.bind (guards_place guarded rfl rfl) fun site r guardedR _ aside => ?_
          refine Course.ask_bind guardedR fun declared _ => ?_
          exact touch guardedR aside fun _ => ⟨rfl, rfl, rfl, rfl⟩
        · split
          · exact Course.bind (guards_place guarded rfl rfl) fun site r guardedR _ aside =>
              finish guardedR aside
          · split
            · refine Course.bind (guards_place guarded rfl rfl) fun site r guardedR _ aside => ?_
              refine Course.bind (ih.1 guardedR) fun child t guardedT framed _ => ?_
              exact touch guardedT (aside.later framed) fun _ => ⟨rfl, rfl, rfl, rfl⟩
            · split
              · refine Course.bind (guards_place guarded rfl rfl) fun site r guardedR _ aside => ?_
                refine Course.lift_bind guardedR fun types _ => ?_
                refine Course.bind (ih.2 guardedR) fun children t guardedT framed _ => ?_
                exact touch guardedT (aside.later framed) fun _ => ⟨rfl, rfl, rfl, rfl⟩
              · exact Course.bind (guards_place guarded rfl rfl) fun site r guardedR _ aside =>
                  finish guardedR aside
      · intro q types parent guarded
        cases types with
        | nil => exact Course.pure guarded trivial
        | cons type rest =>
            unfold writtenEach
            refine Course.bind (ih.1 guarded) fun first r guardedR _ _ => ?_
            refine Course.bind (ih.2 guardedR) fun others t guardedT _ _ => ?_
            exact Course.pure guardedT trivial

theorem guards_writtenType (type : Option TypeId) (parent : Option SiteId) :
    (guarding bound).Keeps q (writtenType type parent) fun _ _ => True :=
  Course.get_bind ((guards_written _).1 guarded)

theorem guards_source (fileName : String) :
    (guarding bound).Keeps q (source fileName) fun r _ => r.symbols = q.symbols := by
  apply Course.get_bind
  split
  · exact Course.pure guarded rfl
  · refine Course.bind (guards_newSite guarded rfl (.inl rfl)) ?_
    rintro id r guardedR - ⟨-, rfl⟩
    let filed (p : Program) : Program := { p with files := Table.put p.files fileName id }
    have kept : (guarding bound).Keeps (q.addSite { kind := .sourceFile, fileName := some fileName }).2
        (modify filed) fun r _ => r.symbols = q.symbols :=
      Course.write (modify_apply filed _) (guarded_aside guardedR rfl rfl rfl rfl)
        (framed_aside rfl rfl rfl) rfl
    exact Course.bind kept fun _ t guardedT _ symbols => Course.pure guardedT symbols

theorem guards_declare (kind : SiteKind) (name : String) (flags : SymbolFlags)
    (doc fileName : Option String) :
    (guarding bound).Keeps q (declare kind name flags doc fileName) fun r made =>
      NewHead bound r kind made.1 made.2 := by
  apply Course.get_bind
  refine Course.bind (guards_source guarded _) fun parent r guardedR _ _ => ?_
  refine Course.bind (guards_newSite guardedR rfl (.inl rfl)) ?_
  rintro _ t guardedT - ⟨rfl, rfl⟩
  have here := (r.site_addSite { kind, name := some name, parent := some parent } ⟨r.sites.size⟩).trans
    (if_pos rfl)
  refine Course.bind (guards_newSymbol guardedT _) ?_
  rintro symbol u guardedU - ⟨-, sites, declared⟩
  have inside : r.sites.size < u.sites.size := by
    rw [sites]
    simp [addSite]
  have same : u.site ⟨r.sites.size⟩ = { kind, name := some name, parent := some parent } := by
    rw [Program.site, sites]
    exact here
  have told := (u.site_modifySite ⟨r.sites.size⟩ ⟨r.sites.size⟩ ({ · with symbol := some symbol })).trans
    (if_pos ⟨rfl, inside⟩)
  have begun : NewHead bound (u.modifySite ⟨r.sites.size⟩ ({ · with symbol := some symbol })) kind symbol
      ⟨r.sites.size⟩ := by
    refine ⟨guardedR.room, by simpa [modifySite] using inside, ?_, ?_, ?_, declared⟩ <;> rw [told, same]
    rfl
  refine Course.bind (guards_setSite guardedU (fun _ => rfl) (.inr fun _ => rfl) (.inr ?_)) ?_
  · refine accords_of_unanswered begun.unanswered fun _ other held => ?_
    rw [told] at held
    cases held
    exact declared
  · rintro _ v guardedV - rfl
    exact Course.pure guardedV begun

theorem guards_setExports (exports : Slots SymbolId) :
    (guarding bound).Keeps q (setExports exports) fun _ _ => True :=
  Course.get_bind ((guards_touchSymbol guarded q.moduleSymbol (f := ({ · with exports }))
    fun _ => rfl).weaken fun _ _ _ _ _ => trivial)

theorem guards_addExport (symbol : Option SymbolId) :
    (guarding bound).Keeps q (addExport symbol) fun _ _ => True := by
  apply Course.get_bind
  refine Course.lift_bind guarded fun exports _ => ?_
  split
  · exact Course.pure guarded trivial
  · exact Course.lift_bind guarded fun pushed _ => guards_setExports guarded pushed

theorem guards_pushExport (symbol : SymbolId) :
    (guarding bound).Keeps q (pushExport symbol) fun _ _ => True := by
  apply Course.get_bind
  exact Course.lift_bind guarded fun exports _ => guards_setExports guarded _

theorem guards_exportIf (exported : Bool) (symbol : SymbolId) :
    (guarding bound).Keeps q (exportIf exported symbol) fun _ _ => True := by
  unfold exportIf
  split
  · exact guards_addExport guarded _
  · exact Course.pure guarded trivial

theorem guards_bindHead {site : SiteId} {type : TypeId} (declared : q.FirstAt type site)
    (listed : (q.site site).kind.isNominal = true → List.Forall₂ q.Declares?
      (q.type type).typeParameters.slots (q.site site).typeParameters.slots) :
    (guarding bound).Keeps q (bindSite site type) fun _ _ => True := by
  let told (s : Site) : Site := { s with answers := { s.answers with type := some (some type) } }
  refine (guards_setSite guarded (f := told) (fun _ => rfl) (.inr fun _ => rfl) (.inr ?_)).weaken
    fun _ _ _ _ _ => trivial
  have accords := guarded.parametric.sites site
  have place := q.site_modifySite site site told
  by_cases inside : site.index < q.sites.size
  · rw [if_pos ⟨rfl, inside⟩] at place
    refine ⟨?_, ?_, ?_⟩ <;> rw [place]
    · exact accords.owner
    · rintro - _ ⟨⟩
      exact declared
    · rintro nominal _ ⟨⟩
      exact ⟨declared, listed nominal⟩
  · rw [if_neg fun here => inside here.2, q.site_of_size_le (Nat.le_of_not_lt inside)] at place
    exact accords_of_other (by rw [place]; rfl)

theorem guards_typeParameter (name : String) (constraint default : Option TypeId) :
    (guarding bound).Keeps q (typeParameter name constraint default) fun _ _ => True := by
  refine Course.bind (guards_declare guarded .typeParameter name [.typeParameter] none none) ?_
  rintro ⟨symbol, site⟩ r guardedR - begun
  refine Course.bind (guards_touchSite guardedR site fun _ => ⟨rfl, rfl, rfl, rfl⟩) ?_
  intro _ t guardedT first _
  refine Course.bind (guards_newType guardedT ⟨by rintro ⟨⟩, fun _ => rfl, Slots.full_of []⟩) ?_
  rintro type u guardedU second ⟨-, -, made⟩
  have declared : u.FirstAt type site :=
    begun.declares (first.trans second) (congrArg TypeInfo.symbol made)
  have kind := ((first.trans second).kind site begun.there).trans begun.kind
  have there := Nat.lt_of_lt_of_le begun.there (first.trans second).sites
  have finish {v : Program} (guardedV : v.Guarded bound) (framed : u.Framed bound v) :
      (guarding bound).Keeps v
        (do
          bindDeclared symbol type
          bindSite site type
          pure type)
        fun _ _ => True := by
    refine Course.bind (guards_bindDeclared guardedV _ _) fun _ w guardedW further _ => ?_
    have grown := framed.trans further
    refine Course.bind (guards_bindHead guardedW (declared.carry grown) ?_) ?_
    · rw [grown.kind site there, kind]
      rintro ⟨⟩
    · exact fun _ x guardedX _ _ => Course.pure guardedX trivial
  have fallback {v : Program} (guardedV : v.Guarded bound) (framed : u.Framed bound v) :
      (guarding bound).Keeps v
        (writingDefault default site do
          bindDeclared symbol type
          bindSite site type
          pure type)
        fun _ _ => True := by
    cases default with
    | none => exact finish guardedV framed
    | some fallback =>
        refine Course.bind (guards_writtenType guardedV _ _) fun written w guardedW further _ => ?_
        refine Course.bind (guards_touchSite guardedW site fun _ => ⟨rfl, rfl, rfl, rfl⟩) ?_
        exact fun _ x guardedX last _ => finish guardedX ((framed.trans further).trans last)
  cases constraint with
  | none => exact fallback guardedU (Framed.refl bound u)
  | some limit =>
      refine Course.bind (guards_writtenType guardedU _ _) fun written v guardedV framed _ => ?_
      refine Course.bind (guards_touchSite guardedV site fun _ => ⟨rfl, rfl, rfl, rfl⟩) ?_
      exact fun _ w guardedW further _ => fallback guardedW (framed.trans further)

theorem guards_infer (name : String) :
    (guarding bound).Keeps q (infer name) fun _ _ => True := by
  refine Course.bind (guards_typeParameter guarded name none none) fun type r guardedR _ _ => ?_
  refine Course.bind (guards_modify guardedR rfl rfl rfl rfl) fun _ t guardedT _ _ => ?_
  exact Course.pure guardedT trivial

/-- A type that is known under no alias. -/
theorem guards_unaliased {type : TypeInfo} (aliased : type.alias? = none)
    (arguments : type.aliasArguments = none) (listed : type.properties.Full) :
    (guarding bound).Keeps q (newType type) fun _ _ => True :=
  (guards_newType guarded ⟨fun _ => aliased, fun _ => arguments, listed⟩).weaken
    fun _ _ _ _ _ => trivial

theorem guards_cached (key : LiteralKey) {type : TypeInfo} (aliased : type.alias? = none)
    (arguments : type.aliasArguments = none) (listed : type.properties.Full) :
    (guarding bound).Keeps q (cached key type) fun _ _ => True := by
  apply Course.get_bind
  split
  · exact Course.pure guarded trivial
  · refine Course.bind (guards_unaliased guarded aliased arguments listed) fun id r guardedR _ _ => ?_
    refine Course.bind (guards_modify guardedR rfl rfl rfl rfl) fun _ t guardedT _ _ => ?_
    exact Course.pure guardedT trivial

theorem guards_literal (value : Option Literal) :
    (guarding bound).Keeps q (literal value) fun _ _ => True := by
  cases value with
  | none => exact guards_cached guarded .unset rfl rfl (Slots.full_of [])
  | some value =>
      cases value with
      | bool truth => cases truth <;> exact Course.pure guarded trivial
      | int value => exact guards_cached guarded (.int value) rfl rfl (Slots.full_of [])
      | float value => exact guards_cached guarded (.float value) rfl rfl (Slots.full_of [])
      | text value => exact guards_cached guarded (.text value) rfl rfl (Slots.full_of [])

theorem guards_tuple (elements : List (Option TypeId)) :
    (guarding bound).Keeps q (tuple elements) fun _ _ => True := by
  apply Course.get_bind
  dsimp only
  split
  · exact guards_unaliased guarded rfl rfl (Slots.full_of [])
  · refine Course.bind (guards_unaliased guarded rfl rfl (Slots.full_of [])) fun id r guardedR _ _ => ?_
    refine Course.bind (guards_modify guardedR rfl rfl rfl rfl) fun _ t guardedT _ _ => ?_
    exact guards_unaliased guardedT rfl rfl (Slots.full_of [])

theorem guards_fillDefaults (params : List (Option TypeId)) :
    (guarding bound).Keeps q (fillDefaults params) fun r _ => r = q := by
  induction params with
  | nil => exact Course.pure guarded rfl
  | cons param rest ih =>
      refine Course.ask_bind guarded fun declared _ => ?_
      refine Course.lift_bind guarded fun site _ => Course.get_bind ?_
      split
      · exact Course.pure guarded rfl
      · refine Course.ask_bind guarded fun type _ => ?_
        exact Course.bind ih fun others r guardedR _ same => Course.pure guardedR same

theorem guards_withDefaults (params arguments : List (Option TypeId)) :
    (guarding bound).Keeps q (withDefaults params arguments) fun r _ => r = q :=
  Course.bind (guards_fillDefaults guarded _) fun _ _ guardedR _ same => Course.pure guardedR same

theorem guards_instantiateMember (mapping : Mapping) (member : Option SymbolId) :
    (guarding bound).Keeps q (instantiateMember mapping member) fun _ _ => True := by
  apply Course.get_bind
  refine Course.lift_bind guarded fun declared _ => ?_
  refine Course.bind (guards_newSymbol guarded _) fun symbol r guardedR _ _ => ?_
  split
  · refine Course.bind (guards_bindSymbol guardedR _ _) fun _ t guardedT _ _ => ?_
    exact Course.pure guardedT trivial
  · exact Course.pure guardedR trivial

theorem guards_instantiateIndex (mapping : Mapping) (index : Option IndexId) :
    (guarding bound).Keeps q (instantiateIndex mapping index) fun _ _ => True := by
  cases index with
  | none => exact Course.pure guarded trivial
  | some id =>
      apply Course.get_bind
      dsimp only
      split
      · exact Course.pure guarded trivial
      · exact Course.map _ (guards_newIndexInfo guarded _) fun _ _ _ => trivial

theorem guards_instantiate (generic : Option TypeId) (arguments : List (Option TypeId)) :
    (guarding bound).Keeps q (instantiate generic arguments) fun _ _ => True := by
  refine Course.lift_bind guarded fun target _ => Course.get_bind ?_
  refine Course.bind (guards_withDefaults guarded _ _) fun filled r guardedR _ _ => ?_
  refine Course.lift_bind guardedR fun members _ => ?_
  refine Course.bind (Course.mapM (fun _ _ _ _ _ => trivial) guardedR fun member _ t guardedT _ =>
    guards_instantiateMember guardedT _ member) fun properties t guardedT _ _ => ?_
  refine Course.lift_bind guardedT fun calls _ => ?_
  refine Course.bind (guards_instantiateIndex guardedT _ _) fun stringIndex u guardedU _ _ => ?_
  refine Course.bind (guards_instantiateIndex guardedU _ _) fun numberIndex v guardedV _ _ => ?_
  exact guards_unaliased guardedV rfl rfl (Slots.full_of _)

theorem guards_instantiateAlias (aliased : Option TypeId) (arguments : List (Option TypeId)) :
    (guarding bound).Keeps q (instantiateAlias aliased arguments) fun _ _ => True := by
  apply Course.get_bind
  refine Course.lift_bind guarded fun id _ => ?_
  dsimp only
  split
  · exact Course.throw guarded _
  · rename_i named held
    refine Course.lift_bind guarded fun first _ => Course.lift_bind guarded fun site _ => ?_
    refine Course.lift_bind guarded fun written _ => ?_
    refine Course.bind (Course.mapM (fun _ _ _ _ _ => trivial) guarded fun param _ r guardedR _ =>
      Course.ask guardedR fun _ _ => trivial) fun params r guardedR _ _ => ?_
    refine Course.bind (guards_newType guardedR (guarded.parametric.types id)) ?_
    rintro copy t guardedT - ⟨-, -, made⟩
    refine Course.bind (guards_withDefaults guardedT _ _) ?_
    rintro filled u guardedU - same
    have still : (u.type copy).alias? = some named := by
      rw [same, made]
      exact held
    refine Course.bind (guards_setType guardedU copy (fun _ => rfl) (fun _ => rfl) (fun _ => rfl)
      fun known => ⟨known.reference, fun none => ?_, known.listed⟩)
      fun _ v guardedV _ _ => Course.pure guardedV trivial
    rw [still] at none
    cases none

omit guarded in
theorem declares_of_asked {param : Option TypeId} {place : SiteId} (asked : (do
      let symbol ← present (q.type (← present param)).symbol
      (q.symbol symbol).declarations.first) = .ok (some place)) : q.Declares? param (some place) := by
  obtain ⟨type, given, asked⟩ := of_except_bind_ok asked
  obtain ⟨symbol, found, asked⟩ := of_except_bind_ok asked
  refine ⟨type, place, of_present given, rfl, symbol, ?_⟩
  obtain ⟨slots, listed, asked⟩ := of_except_bind_ok asked
  cases slots with
  | nil => cases asked
  | cons slot rest =>
      cases asked
      refine ⟨rest, of_present found, ?_⟩
      cases held : (q.symbol symbol).declarations with
      | none =>
          rw [held] at listed
          cases listed
      | some items =>
          rw [held] at listed
          cases listed
          rfl

/-- A type parameter is listed behind those that were listed before. -/
theorem guards_attachTypeParameter {site : SiteId} (outside : bound ≤ site.index)
    (there : site.index < q.sites.size) (free : (q.site site).kind.isNominal = true →
      (q.site site).answers.type = none) (param : Option TypeId) :
    (guarding bound).Keeps q
      (do
        let paramSite ← present (← declarationOf param)
        setSite paramSite ({ · with parent := some site })
        setSite site fun s =>
          { s with typeParameters := some (s.typeParameters.slots ++ [some paramSite]) })
      fun r _ => (r.site site).answers.type = (q.site site).answers.type ∧ ∃ slot,
        (r.site site).typeParameters.slots = (q.site site).typeParameters.slots ++ [slot] ∧
          r.Declares? param slot := by
  refine Course.ask_bind guarded fun declared asked => Course.lift_bind guarded fun place found => ?_
  obtain rfl : declared = some place := of_present found
  have declares := declares_of_asked asked
  refine Course.bind (guards_touchSite guarded place fun _ => ⟨rfl, rfl, rfl, rfl⟩) ?_
  rintro _ r guardedR first made
  have heads : (q.site site).Heads (r.site site) := by
    rw [made, site_modifySite]
    split
    · exact ⟨rfl, rfl, rfl, rfl⟩
    · exact Site.Heads.refl _
  have inside := Nat.lt_of_lt_of_le there first.sites
  let listed (s : Site) : Site :=
    { s with typeParameters := some (s.typeParameters.slots ++ [some place]) }
  have here : (r.modifySite site listed).site site = listed (r.site site) :=
    (site_modifySite ..).trans (if_pos ⟨rfl, inside⟩)
  have accords := guardedR.parametric.sites site
  refine (guards_setSite guardedR (f := listed) (fun _ => rfl) (.inl outside) (.inr ?_)).weaken ?_
  · refine ⟨?_, ?_, ?_⟩ <;> rw [here]
    · exact accords.owner
    · exact accords.parameter
    · intro nominal type answer
      have answer : (r.site site).answers.type = some (some type) := answer
      rw [heads.answer, free (heads.kind ▸ nominal)] at answer
      cases answer
  · rintro _ _ - second rfl
    rw [here]
    exact ⟨heads.answer, some place, congrArg (fun params : Slots SiteId => params.slots ++ [some place])
      heads.typeParameters, declares.carry (first.trans second)⟩

theorem guards_attachTypeParameters {site : SiteId} (outside : bound ≤ site.index)
    (there : site.index < q.sites.size) (free : (q.site site).kind.isNominal = true →
      (q.site site).answers.type = none) (params : List (Option TypeId)) :
    (guarding bound).Keeps q (attachTypeParameters site params) fun r _ => ∃ slots,
      (r.site site).typeParameters.slots = (q.site site).typeParameters.slots ++ slots ∧
        List.Forall₂ r.Declares? params slots := by
  induction params generalizing q with
  | nil => exact Course.pure guarded ⟨[], (List.append_nil _).symm, .nil⟩
  | cons param rest ih =>
      refine Course.bind (guards_attachTypeParameter guarded outside there free param) ?_
      rintro _ r guardedR first ⟨answer, slot, listed, declares⟩
      have free : (r.site site).kind.isNominal = true → (r.site site).answers.type = none := by
        rw [first.kind site there, answer]
        exact free
      refine (ih guardedR (Nat.lt_of_lt_of_le there first.sites) free).weaken ?_
      rintro t _ - second ⟨slots, further, all⟩
      refine ⟨slot :: slots, ?_, .cons (declares.carry second) all⟩
      rw [further, listed, List.append_assoc, List.singleton_append]

theorem guards_parameter (parent : SiteId) (spec : ParamSpec) :
    (guarding bound).Keeps q (parameter parent spec) fun _ _ => True := by
  refine Course.bind (guards_place guarded rfl rfl) fun site r guardedR _ aside => ?_
  refine Course.bind (guards_newSymbol guardedR _) fun symbol t guardedT first _ => ?_
  refine Course.bind (guards_changeSite guardedT (fun _ => rfl) (fun _ => rfl)
    (aside.later first).other) fun _ u guardedU _ _ => ?_
  split
  · refine Course.bind (guards_writtenType guardedU _ _) fun written v guardedV _ _ => ?_
    refine Course.bind (guards_touchSite guardedV site fun _ => ⟨rfl, rfl, rfl, rfl⟩) ?_
    intro _ w guardedW _ _
    refine Course.bind (guards_bindSymbol guardedW _ _) fun _ x guardedX _ _ => ?_
    exact Course.pure guardedX trivial
  · exact Course.pure guardedU trivial

theorem guards_addParameters (parent : SiteId) (specs : List ParamSpec) :
    (guarding bound).Keeps q (addParameters parent specs) fun _ _ => True := by
  refine Course.bind (Course.mapM (fun _ _ _ _ _ => trivial) guarded fun spec _ r guardedR _ =>
    guards_parameter guardedR parent spec) fun params r guardedR _ _ => ?_
  refine Course.bind (guards_touchSite guardedR parent fun _ => ⟨rfl, rfl, rfl, rfl⟩) ?_
  exact fun _ t guardedT _ _ => Course.pure guardedT trivial

theorem guards_callable (symbol : SymbolId) {site : SiteId} (aside : Aside bound q site)
    (parameters : List ParamSpec) (returns : Option TypeId) (typeParameters : List (Option TypeId)) :
    (guarding bound).Keeps q (callable symbol site parameters returns typeParameters)
      fun _ _ => True := by
  refine Course.bind (guards_attachTypeParameters guarded aside.outside aside.there (fun nominal => ?_) _)
    fun _ r guardedR first _ => ?_
  · have head := SiteKind.isHead_of_isNominal nominal
    rw [aside.other] at head
    cases head
  refine Course.bind (guards_addParameters guardedR _ _) fun params t guardedT second _ => ?_
  refine Course.bind (guards_writtenType guardedT _ _) fun written u guardedU third _ => ?_
  refine Course.bind (guards_touchSite guardedU site fun _ => ⟨rfl, rfl, rfl, rfl⟩) ?_
  intro _ v guardedV fourth _
  refine Course.bind (guards_newSignature guardedV _) fun signature w guardedW fifth _ => ?_
  refine Course.bind (guards_bindSignature guardedW _ _) fun _ x guardedX sixth _ => ?_
  refine Course.bind (guards_unaliased guardedX rfl rfl (Slots.full_of []))
    fun type y guardedY seventh _ => ?_
  have framed := (((((first.trans second).trans third).trans fourth).trans fifth).trans sixth).trans seventh
  refine Course.bind (guards_bindSite guardedY (aside.later framed).other _) ?_
  exact fun _ z guardedZ _ _ => Course.pure guardedZ trivial

theorem guards_propMember (name : String) (spec : PropSpec) (parent : SiteId) {kind : SiteKind}
    (other : kind.isHead = false) :
    (guarding bound).Keeps q (propMember name spec parent kind) fun _ _ => True := by
  refine Course.bind (guards_place guarded rfl other) fun site r guardedR _ aside => ?_
  refine Course.bind (guards_writtenType guardedR _ _) fun written t guardedT first _ => ?_
  refine Course.bind (guards_touchSite guardedT site fun _ => ⟨rfl, rfl, rfl, rfl⟩) ?_
  intro _ u guardedU second _
  refine Course.bind (guards_newSymbol guardedU _) fun symbol v guardedV third _ => ?_
  have framed := (first.trans second).trans third
  refine Course.bind (guards_changeSite guardedV (fun _ => rfl) (fun _ => rfl)
    (aside.later framed).other) fun _ w guardedW _ _ => ?_
  refine Course.bind (guards_bindSymbol guardedW _ _) fun _ x guardedX _ _ => ?_
  exact Course.pure guardedX trivial

theorem guards_methodMember (name : String) (spec : MethodSpec) (parent : SiteId) :
    (guarding bound).Keeps q (methodMember name spec parent) fun _ _ => True := by
  refine Course.bind (guards_place guarded rfl rfl) fun site r guardedR _ aside => ?_
  refine Course.bind (guards_newSymbol guardedR _) fun symbol t guardedT first _ => ?_
  refine Course.bind (guards_changeSite guardedT (fun _ => rfl) (fun _ => rfl)
    (aside.later first).other) fun _ u guardedU second _ => ?_
  refine Course.bind (guards_callable guardedU symbol (aside.later (first.trans second)) _ _ _) ?_
  intro type v guardedV _ _
  refine Course.bind (guards_bindSymbol guardedV _ _) fun _ w guardedW _ _ => ?_
  exact Course.pure guardedW trivial

theorem guards_member (parent : SiteId) {kind : SiteKind} (other : kind.isHead = false)
    (name : String) (spec : MemberSpec) :
    (guarding bound).Keeps q (member parent kind name spec) fun _ _ => True := by
  cases spec with
  | plain type =>
      cases type with
      | none => exact Course.throw guarded _
      | some type => exact guards_propMember guarded _ _ _ other
  | prop spec => exact guards_propMember guarded _ _ _ other
  | method spec => exact guards_methodMember guarded _ _ _

theorem guards_members (parent : SiteId) {kind : SiteKind} (other : kind.isHead = false)
    (specs : Table String MemberSpec) :
    (guarding bound).Keeps q (members parent kind specs) fun _ _ => True :=
  (Course.mapM (fun _ _ _ _ _ => trivial) guarded fun spec _ _ guardedR _ =>
    guards_member guardedR parent other spec.1 spec.2).weaken fun _ _ _ _ _ => trivial

theorem guards_indexSignature (keyType : TypeId) (spec : Option IndexSpec) (parent : SiteId) :
    (guarding bound).Keeps q (indexSignature keyType spec parent) fun _ _ => True := by
  cases spec with
  | none => exact Course.pure guarded trivial
  | some spec =>
      refine Course.bind (guards_place guarded rfl rfl) fun site r guardedR _ _ => ?_
      have finish {t : Program} (guardedT : t.Guarded bound) :
          (guarding bound).Keeps t
            (some <$> newIndexInfo
              { keyType := some keyType, type := spec.type, declaration := some site })
            fun _ _ => True :=
        Course.map some (guards_newIndexInfo guardedT _) fun _ _ _ => trivial
      split
      · refine Course.bind (guards_place guardedR rfl rfl) fun key t guardedT _ _ => ?_
        refine Course.bind (guards_touchSite guardedT site fun _ => ⟨rfl, rfl, rfl, rfl⟩) ?_
        exact fun _ u guardedU _ _ => finish guardedU
      · exact finish guardedR

theorem guards_populate (type : TypeId) (site : SiteId) (specs : Table String MemberSpec)
    (bases : List (Option TypeId)) {kind : SiteKind} (other : kind.isHead = false)
    (stringIndex numberIndex : Option IndexSpec) :
    (guarding bound).Keeps q (populate type site specs bases kind stringIndex numberIndex)
      fun _ _ => True := by
  refine Course.bind (guards_members guarded site other specs) fun own r guardedR _ _ => ?_
  refine Course.ask_bind guardedR fun inherited _ => ?_
  refine Course.bind (guards_indexSignature guardedR _ _ _) fun ownString t guardedT _ _ => ?_
  refine Course.bind (guards_indexSignature guardedT _ _ _) fun ownNumber u guardedU _ _ => ?_
  apply Course.get_bind
  exact guards_touchType guardedU type (fun _ => rfl) (fun _ => rfl) (fun _ => rfl) (fun _ => rfl)
    (fun _ => rfl) (fun _ => rfl) fun _ _ => Slots.full_of _

theorem guards_heritageSite (parent : SiteId) (base : Option TypeId) :
    (guarding bound).Keeps q (heritageSite parent base) fun _ _ => True := by
  apply Course.get_bind
  refine Course.lift_bind guarded fun id _ => ?_
  refine Course.bind (guards_place guarded rfl rfl) fun site r guardedR _ aside => ?_
  refine Course.bind (guards_place guardedR rfl rfl) fun expression t guardedT first _ => ?_
  refine Course.bind (guards_touchSite guardedT site fun _ => ⟨rfl, rfl, rfl, rfl⟩) ?_
  intro _ u guardedU second _
  refine Course.bind (guards_bindSite guardedU (aside.later (first.trans second)).other _) ?_
  exact fun _ v guardedV _ _ => Course.pure guardedV trivial

theorem guards_addHeritage (site : SiteId) (token : HeritageToken) (bases : List (Option TypeId)) :
    (guarding bound).Keeps q (addHeritage site token bases) fun _ _ => True := by
  unfold addHeritage
  split
  · exact Course.pure guarded trivial
  · refine Course.bind (Course.mapM (fun _ _ _ _ _ => trivial) guarded fun base _ r guardedR _ =>
      guards_heritageSite guardedR site base) fun types r guardedR _ _ => ?_
    exact Course.Keeps.weaken (guards_touchSite guardedR site fun _ => ⟨rfl, rfl, rfl, rfl⟩)
      fun _ _ _ _ _ => trivial

end Build

end TypeAtlas
