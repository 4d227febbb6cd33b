import TypeAtlas.Proofs.Extract.Echoes

/-!
References repeated in another order. What an import, an entry or an argument comes to is settled by the
program, where names are claimed once and no reference has more arguments than its entry has parameters.
-/

namespace TypeAtlas

open Extract

/-- Walks that hold the same. -/
structure Walk.Beside (w after : Walk) : Prop where
  registry : after.registry = w.registry
  bindings : after.bindings = w.bindings
  locals : after.localNames = w.localNames
  scopes : after.scopes = w.scopes

namespace Engine

/-- No reference has more arguments than its entry has type parameters. -/
structure Fitting (e : Engine) : Prop where
  types : ∀ {type name}, e.Enters type name → e.DomesticType type →
    (e.program.type type).arguments.slots.length ≤
      (e.program.parameterNames (e.program.type (e.entryType type)).typeParameters.slots).length
  aliases : ∀ {type symbol site}, (e.program.type type).alias? = some symbol → e.Domestic symbol →
    e.program.firstDeclaration (some symbol) = some site →
      (e.program.type type).aliasArguments.slots.length ≤
        (e.program.parameterNames (e.program.declaredParameters site)).length

/-- What is written on the right of an alias is described as the type that stands at its declaration, or
else that type is described without any other. -/
inductive Rewrites (e : Engine) (site written : SiteId) : Prop
  | spelled {stands : TypeId} (stood : e.program.typeAt (some site) = .ok (some stands))
      (same : (∀ inner : Engine, inner.program = e.program →
          inner.includeAnnotation (some written) = inner.includeInline stands) ∨
        ∀ inner : Engine, inner.program = e.program →
          inner.includeAnnotation (some written) = inner.visitInline stands)
  | bare {stands : TypeId} (stood : e.program.typeAt (some site) = .ok (some stands))
      (described : ∀ entries w, ∃ child after,
        (e.opening entries).includeInline stands w = (.ok child, after) ∧ w.Beside after)

/-- Only an interface or a class is described member by member where it is an instantiation. -/
def Shaped (e : Engine) (type : TypeId) : Prop :=
  e.isInstance type = true → (e.program.type type).isNominal = true

/-- In the program, all that a run might go by besides its types is settled. -/
structure Steady (e : Engine) (manner : Manner) (ages : Ages) (now : Nat) (rank : TypeId → Nat) :
    Prop where
  fits : e.program.Fits manner ages now
  unrivalled : e.Unrivalled
  fitting : e.Fitting
  lineal : e.Lineal rank
  distinct : e.Distinct
  suits : e.Suits
  bases : e.BasesNamed
  listed : ∀ type, (e.program.type type).properties.Full
  shaped : ∀ type, e.Shaped (e.entryType type)
  rewrites : ∀ {type symbol site written}, (e.program.type type).alias? = some symbol →
    e.program.firstDeclaration (some symbol) = some site → (e.program.site site).type = some written →
      e.Rewrites site written

theorem filled_of_counted {r : Registry} {name : String} {count : Nat}
    (counted : r.parameterCount? name = some count) : ∃ node, r.Filled name node := by
  unfold Registry.parameterCount? at counted
  split at counted
  · cases counted
  · rename_i settled
    cases held : r.get? name with
    | none => rw [held] at counted; cases counted
    | some node => exact ⟨node, held, Bool.eq_false_iff.mpr settled⟩

section Counts

variable {e : Engine} {final : Walk} {manner : Manner} {ages : Ages} {now : Nat} {rank : TypeId → Nat}
  (steady : e.Steady manner ages now rank) {r : Registry} {name : String}
  (noted : ∀ node, r.Filled name node → ∃ other, node.Alike other ∧ e.Noted final name other)
include steady noted

theorem uncut_of_type {type : TypeId} (enters : e.Enters type name) (made : e.isMade type = true)
    (domestic : e.DomesticType type) {count : Nat} (counted : r.parameterCount? name = some count) :
    (e.program.type type).arguments.slots.length ≤ count := by
  obtain ⟨node, filled⟩ := filled_of_counted counted
  have claims := Claims.type enters made domestic
  obtain ⟨other, alike, noted⟩ := noted node filled
  cases noted with
  | imported rival => cases steady.unrivalled claims rival
  | made rival builds _ _ _ _ _ ran =>
      obtain rfl := steady.unrivalled claims rival
      cases builds with
      | type =>
          refine Nat.le_trans (steady.fitting.types enters domestic) ?_
          have also := Registry.filled_set_self r name other
          rw [Registry.parameterCount?_of_alike filled also alike] at counted
          exact count_of_includeNamed steady.fits (program_opening _ _) ran also counted

theorem uncut_of_alias {type : TypeId} {symbol : SymbolId} {site : SiteId} (called : e.Called type name)
    (aliased : (e.program.type type).alias? = some symbol) (domestic : e.Domestic symbol)
    (declared : e.program.firstDeclaration (some symbol) = some site) {count : Nat}
    (counted : r.parameterCount? name = some count) :
    (e.program.type type).aliasArguments.slots.length ≤ count := by
  obtain ⟨node, filled⟩ := filled_of_counted counted
  have claims := Claims.named called aliased domestic declared
  obtain ⟨other, alike, noted⟩ := noted node filled
  cases noted with
  | imported rival => cases steady.unrivalled claims rival
  | made rival builds _ _ _ _ _ ran =>
      obtain rfl := steady.unrivalled claims rival
      have also := Registry.filled_set_self r name other
      rw [Registry.parameterCount?_of_alike filled also alike,
        count_of_aliasBody (program_opening _ _) builds ran also, Option.some.injEq] at counted
      exact counted ▸ steady.fitting.aliases aliased domestic declared

theorem uncounted_of_import {node : Node} (claims : e.Claims name (.imported node)) :
    r.parameterCount? name = none := by
  by_contra counted
  obtain ⟨count, counted⟩ := Option.ne_none_iff_exists'.mp counted
  obtain ⟨held, filled⟩ := filled_of_counted counted
  obtain ⟨other, alike, noted⟩ := noted held filled
  rw [Registry.parameterCount?_of_alike filled (Registry.filled_set_self r name other) alike,
    Registry.parameterCount?, (Registry.filled_set_self r name other).1,
    (Registry.filled_set_self r name other).2] at counted
  cases noted with
  | imported rival =>
      generalize same : Maker.imported other = maker at rival
      cases rival <;> cases same
      cases counted
  | made rival builds =>
      cases steady.unrivalled claims rival
      cases builds

end Counts

/-- A step and another take all ways on in the same manner, with one entry less to begin for the other. -/
structure Repeats (e : Engine) (final : Walk) (n : Nat) (g h : Going) : Prop
    extends e.Pairs g h (Echoes e final n) where
  flattening : (e.going g).Flattening
  founded : (e.going g).Founded e
  described : ∀ type w node after, g.bodyOfType type w = (.ok node, after) →
    ∃ entries, (e.opening entries).includeNamed type w = (.ok node, after)
  aliased : ∀ site w node after, g.bodyOfAlias site w = (.ok node, after) →
    ∃ entries, (e.opening entries).aliasBody site w = (.ok node, after)
  notesType : ∀ type, e.Shaped type → ∀ w, NotesAt e final (g.bodyOfType type) w
  notesAlias : ∀ site w, NotesAt e final (g.bodyOfAlias site) w
  typeBody : final.Told e → ∀ m, n = m + 1 → ∀ type, e.Shaped type → ∀ entries w u,
    EchoesAt e final m ((e.opening entries).includeNamed type) (h.bodyOfType type) w u
  aliasBody : final.Told e → ∀ m, n = m + 1 → ∀ type symbol site,
    (e.program.type type).alias? = some symbol → e.program.firstDeclaration (some symbol) = some site →
    ∀ name step, e.Builds name (.root .named site) step →
      ∀ entries w u, RestoresAt e final m (step (e.opening entries)) (h.bodyOfAlias site) w u

section Arguments

variable (e : Engine)

def argumentsLeft (type : TypeId) (params : Slots SiteId) (types : List Node) :
    Except Fault (List Node) := do
  let ids ← e.argumentIds (e.program.type type)
  e.trimDefaults ids (← params.each).reverse types

/-- What is left of a reference once its arguments are described. -/
def referTo (type : TypeId) (params : Slots SiteId) (name : String) (live : Option TypeId)
    (types : List Node) : Extract Node := do
  let types ← e.normalizeArguments type params types name
  return .ref (← Extract.resolve name types live)

def parametersOf (type : TypeId) : Slots SiteId :=
  match e.program.firstDeclaration (e.program.type type).symbol with
  | some site => (e.program.site site).typeParameters
  | none => some []

variable {e}

/-- As many arguments as an entry takes. -/
def cutTo (types : List Node) : Option Nat → List Node
  | some count => types.take count
  | none => types

theorem cutTo_of_uncut {types : List Node} {counted : Option Nat}
    (uncut : ∀ count, counted = some count → types.length ≤ count) : cutTo types counted = types := by
  cases counted with
  | none => rfl
  | some count => exact List.take_of_length_le (uncut count rfl)

theorem normalizeArguments_apply (type : TypeId) (params : Slots SiteId) (types : List Node)
    (name : String) (w : Walk) : e.normalizeArguments type params types name w =
      (e.argumentsLeft type params (cutTo types (w.registry.parameterCount? name)), w) := by
  have step : e.normalizeArguments type params types name w = (do
      let ids ← e.argumentIds (e.program.type type)
      e.trimDefaults ids (← params.each).reverse (cutTo types (w.registry.parameterCount? name)) :
        Extract (List Node)) w := rfl
  rw [step, argumentsLeft]
  cases e.argumentIds (e.program.type type) with
  | error fault => rfl
  | ok ids => cases params.each <;> rfl

theorem normalizeArguments_of_uncut {type : TypeId} {params : Slots SiteId} {types : List Node}
    {name : String} {w : Walk}
    (uncut : ∀ count, w.registry.parameterCount? name = some count → types.length ≤ count) :
    e.normalizeArguments type params types name w = (e.argumentsLeft type params types, w) := by
  rw [normalizeArguments_apply, cutTo_of_uncut uncut]

theorem resolve_of_has {name : String} {types : List Node} {live : Option TypeId} {w : Walk}
    (known : w.registry.has name = true) :
    Extract.resolve name types live w = (.ok { name, types, live }, w) := by
  rw [resolve_apply, Walk.reserve, Registry.reserve_of_has known]

theorem referTo_apply {type : TypeId} {params : Slots SiteId} {types : List Node}
    {name : String} {live : Option TypeId} {w : Walk} (known : w.registry.has name = true) :
    e.referTo type params name live types w =
      ((e.argumentsLeft type params (cutTo types (w.registry.parameterCount? name))).map fun types =>
        .ref { name, types, live }, w) := by
  have normalized := normalizeArguments_apply (e := e) type params types name w
  unfold referTo
  cases left : e.argumentsLeft type params (cutTo types (w.registry.parameterCount? name)) with
  | error fault =>
      rw [left] at normalized
      exact bind_error normalized
  | ok kept =>
      rw [left] at normalized
      rw [bind_ok normalized, bind_ok (resolve_of_has known)]
      rfl

end Arguments

section References

variable {e : Engine} {final : Walk} {n : Nat} {g h : Going} (repeats : e.Repeats final n g h)

theorem includeRef_eq (type : TypeId) (name : String) (live : Option TypeId) :
    (e.going g).includeRef type name live = (do
      let types ← (e.going g).visitAll (e.program.type type).arguments.slots
      e.referTo type (e.parametersOf type) name live types) := by
  simp only [includeRef, referTo, going_normalizeArguments]
  rfl

theorem makeRef_eq (type : TypeId) (name : String) :
    (e.going g).makeRef (some type) name = (do
      register name (g.bodyOfType (e.entryType type))
      (e.going g).includeRef type name none) :=
  rfl

theorem advances_referTo (type : TypeId) (params : Slots SiteId) (name : String)
    (live : Option TypeId) (types : List Node) : Advances (e.referTo type params name live types) :=
  composes_advances.bind (Visits.normalizeArguments composes_advances.toThreads _ _ _ _) fun _ =>
    composes_advances.bind (composes_advances.bind (advances_reserve name) fun _ =>
      composes_advances.pure _) fun _ => composes_advances.pure _

theorem notesAt_referTo {type : TypeId} {params : Slots SiteId} {name : String} {live : Option TypeId}
    {types : List Node} {w : Walk} (known : w.registry.has name = true) :
    NotesAt e final (e.referTo type params name live types) w := by
  intro value after ran proper _
  rw [referTo_apply known] at ran
  rwa [← (Prod.mk.inj ran).2]

/-- A number of arguments is never cut where an entry is noted. -/
def Uncut (e : Engine) (final : Walk) (name : String) (length : Nat) : Prop :=
  ∀ r : Registry, (∀ node, r.Filled name node → ∃ other, node.Alike other ∧ e.Noted final name other) →
    ∀ count, r.parameterCount? name = some count → length ≤ count

theorem echoesAt_referTo (told : final.Told e) {type : TypeId} {params : Slots SiteId} {name : String}
    {live : Option TypeId} {types : List Node} (uncut : e.Uncut final name types.length) {w u : Walk}
    (known : w.registry.has name = true) (there : u.registry.has name = true) :
    EchoesAt e final n (e.referTo type params name live types) (e.referTo type params name live types)
      w u := by
  intro allowed value after ran proper _ _ _ inside
  rw [referTo_apply known, cutTo_of_uncut (uncut _ (proper.alike name))] at ran
  refine ⟨u, ?_, .refl u, inside⟩
  rw [referTo_apply there, cutTo_of_uncut (uncut _ (inside.alike told name)), (Prod.mk.inj ran).1]

include repeats

theorem notesAt_includeRef {type : TypeId} {name : String} {live : Option TypeId} {w : Walk}
    (known : w.registry.has name = true) :
    NotesAt e final ((e.going g).includeRef type name live) w := by
  have visits := repeats.visitAll (e.program.type type).arguments.slots
  rw [includeRef_eq]
  refine notesAt_bind (visits.notes w) (fun types _ _ => advances_referTo _ _ _ _ types) ?_
  intro types after ran
  exact notesAt_referTo ((visits.advances.after ran).has known)

theorem echoesAt_includeRef (told : final.Told e) {type : TypeId} {name : String}
    {live : Option TypeId} (uncut : e.Uncut final name (e.program.type type).arguments.slots.length)
    {w u : Walk} (known : w.registry.has name = true) (there : u.registry.has name = true) :
    EchoesAt e final n ((e.going g).includeRef type name live) ((e.going h).includeRef type name live)
      w u := by
  have visits := repeats.visitAll (e.program.type type).arguments.slots
  rw [includeRef_eq, includeRef_eq]
  refine echoesAt_bind (visits.notes w) visits.advances (fun types _ _ => advances_referTo _ _ _ _ types)
    (visits.echoes told w u) ?_
  intro types after later ran _ grown
  have length := length_of_visitAll ran
  exact echoesAt_referTo told (by rwa [length]) ((visits.advances.after ran).has known)
    (grown.has there)

variable {manner : Manner} {ages : Ages} {now : Nat} {rank : TypeId → Nat}
  (steady : e.Steady manner ages now rank)
include steady

omit repeats in
theorem mem_names_of_called {type : TypeId} {name : String} (called : e.Called type name) :
    name ∈ e.program.names := by
  have own (held : (e.program.type type).symbol.map (fun symbol => (e.program.symbol symbol).name) =
      some name) : name ∈ e.program.names := by
    obtain ⟨symbol, own, rfl⟩ := Option.map_eq_some_iff.mp held
    exact Program.mem_names_of_inside ((steady.fits.types type).symbol symbol own).1.1
  have named (held : (e.program.type type).alias?.map (fun symbol => (e.program.symbol symbol).name) =
      some name) : name ∈ e.program.names := by
    obtain ⟨symbol, aliased, rfl⟩ := Option.map_eq_some_iff.mp held
    have flagged := ((steady.fits.types type).aliased symbol aliased).1
    exact Program.mem_names_of_inside (Program.inside_of_flag flagged)
  cases called with
  | written reference denoted called => exact Program.mem_names_of_site called
  | named title =>
      unfold nameOf at title
      dsimp only at title
      split at title
      · rename_i given found
        split at title
        · cases held : (e.program.type type).symbol with
          | none =>
              rw [held] at title
              exact named (found.trans title)
          | some symbol =>
              rw [held] at title
              exact own (held ▸ title)
        · exact named (found.trans title)
      · exact own title

omit repeats in
theorem mem_names_of_enters {type : TypeId} {name : String} (enters : e.Enters type name) :
    name ∈ e.program.names := by
  cases enters with
  | known known => exact mem_names_of_called steady known.called
  | instantiated _ held =>
      exact Program.mem_names_of_inside ((steady.fits.types type).symbol _ held).1.1

/-- An entry of a type is begun wherever there is none. -/
theorem echoes_registerType {type : TypeId} {name : String} (enters : e.Enters type name)
    (made : e.isMade type = true) (domestic : e.DomesticType type) :
    Echoes e final n (register name (g.bodyOfType (e.entryType type)))
      (register name (h.bodyOfType (e.entryType type))) := by
  have claims := Claims.type enters made domestic
  have flattening : Extract.Flattening e.program (register name (g.bodyOfType (e.entryType type))) := by
    refine shapely_register (repeats.flattening.ordered.bodyOfType _)
      (repeats.flattening.bodyOfType _) fun w node after reached ran shape => ?_
    obtain ⟨object, shape⟩ := repeats.flattening.shape _ w node after reached ran shape
    exact ⟨e, type, rfl, enters.registers (isObject_of_entryType object), shape⟩
  have upholds := upholds_of_flattening flattening
  refine ⟨upholds, advances_of_orderly (orderly_register name (repeats.flattening.ordered.bodyOfType _)),
    ?_, fun told => ?_⟩
  · exact notesAt_register steady.unrivalled claims nofun nofun (.type _) upholds
      (repeats.notesType _ (steady.shaped _)) (repeats.described _)
  · refine echoesAt_register told steady.unrivalled claims nofun nofun (mem_names_of_enters steady enters)
      fun m less step builds entries w u => ?_
    cases builds
    exact (repeats.typeBody told m less _ (steady.shaped _) entries w u).restores

theorem echoes_makeRef {type : TypeId} {name : String} (enters : e.Enters type name)
    (made : e.isMade type = true) (domestic : e.DomesticType type) :
    Echoes e final n ((e.going g).makeRef (some type) name) ((e.going h).makeRef (some type) name) := by
  have entered := echoes_registerType repeats steady enters made domestic
  have uncut : e.Uncut final name (e.program.type type).arguments.slots.length :=
    fun r noted count counted => uncut_of_type steady noted enters made domestic counted
  have onward (_ : Unit) : Advances ((e.going g).includeRef type name none) :=
    advances_includeRef repeats.flattening.ordered type name none
  refine ⟨?_, advances_of_orderly (orderly_makeRef repeats.flattening.ordered _ _), fun w => ?_,
    fun told w u => ?_⟩
  · refine upholds_of_flattening (flattening_makeRef repeats.flattening ?_)
    rintro id ⟨⟩ object
    exact enters.registers object
  · rw [makeRef_eq]
    refine notesAt_bind (entered.notes w) (fun value _ _ => onward value) fun _ after ran => ?_
    exact notesAt_includeRef repeats (has_of_register ran)
  · rw [makeRef_eq, makeRef_eq]
    refine echoesAt_bind (entered.notes w) entered.advances (fun value _ _ => onward value)
      (entered.echoes told w u) fun _ after later ran again _ => ?_
    exact echoesAt_includeRef repeats told uncut (has_of_register ran) (has_of_register again)

omit repeats in
theorem filled_of_import (told : final.Told e) {name : String} {node : Node}
    (claims : e.Claims name (.imported node)) (known : final.registry.has name = true) :
    final.registry.Filled name node := by
  obtain ⟨held, filled, noted⟩ := told.filled known
  cases noted with
  | imported rival =>
      cases steady.unrivalled claims rival
      exact filled
  | made rival builds =>
      cases steady.unrivalled claims rival
      cases builds

omit repeats in
theorem echoes_bindImport {symbol : SymbolId} {scope : ImportScope}
    (claims : e.Claims (e.titleOf symbol scope) (.imported (e.importOf symbol scope)))
    (outside : (e.originOf (some symbol)).scope? = some scope) :
    Echoes e final n (e.bindImport symbol (e.originOf (some symbol)) scope)
      (e.bindImport symbol (e.originOf (some symbol)) scope) := by
  have flattening := flattening_bindImport (e := e) symbol outside
  have upholds := upholds_of_flattening flattening
  have ordered := orderly_bindImport (e := e) symbol outside
  refine ⟨upholds, advances_of_orderly ordered, fun w value after ran proper _ => ?_, ?_⟩
  · obtain ⟨same, binds⟩ := Walk.binds_of_homed steady.unrivalled proper.homed claims outside
    cases binds.ran.symm.trans ran
    have upheld := upholds w proper.reached proper.flat
    rw [ran] at upheld
    refine ⟨upheld.reachable, upheld.flat, binds.homed, fun name node filled => ?_⟩
    rcases binds.registry with same | same
    · rw [same] at filled
      exact proper.noted name node filled
    · rw [same] at filled
      rcases Registry.filled_of_set filled with ⟨rfl, rfl⟩ | ⟨-, filled⟩
      · exact .imported claims
      · exact proper.noted name node filled
  · intro told w u allowed value after ran proper leads _ _ inside
    obtain ⟨_, binds⟩ := Walk.binds_of_homed steady.unrivalled proper.homed claims outside
    cases binds.ran.symm.trans ran
    obtain ⟨later, again⟩ := Walk.binds_of_homed steady.unrivalled inside.homed claims outside
    have known := leads.has _ (has_of_bindImport ran)
    have filled := filled_of_import steady told claims known
    have grown := (advances_of_orderly ordered).after again.ran
    refine ⟨later, again.ran, grown, ?_⟩
    exact
      { has := fun name there => by
          rcases Walk.has_of_either again.registry there with there | rfl
          · exact inside.has name there
          · exact known
        locals := fun name => by
          have same : later.localsOf name = u.localsOf name := by
            rw [Walk.localsOf, again.locals, Walk.localsOf]
          rw [same]
          exact inside.locals name
        reached := grown.reachable inside.reached
        filled := fun name node there => by
          rcases again.registry with same | same
          · rw [same] at there
            exact inside.filled name node there
          · rw [same] at there
            rcases Registry.filled_of_set there with ⟨rfl, rfl⟩ | ⟨-, there⟩
            · exact ⟨_, filled, .refl _⟩
            · exact inside.filled name node there
        homed := again.homed
        unmet := Nat.le_trans (Walk.unmet_of_extends grown) inside.unmet
        declared := by rw [again.scopes]; exact inside.declared }

omit repeats in
/-- What follows on an import goes by its own name. -/
theorem echoes_bindImport_bind {α : Type} {symbol : SymbolId} {scope : ImportScope}
    (claims : e.Claims (e.titleOf symbol scope) (.imported (e.importOf symbol scope)))
    (outside : (e.originOf (some symbol)).scope? = some scope) {next further : String → Extract α}
    (upholds : Upholds e.program (e.bindImport symbol (e.originOf (some symbol)) scope >>= next))
    (advances : ∀ name, Advances (next name))
    (notes : ∀ w, w.registry.has (e.titleOf symbol scope) = true →
      NotesAt e final (next (e.titleOf symbol scope)) w)
    (echoes : final.Told e → ∀ w u, w.registry.has (e.titleOf symbol scope) = true →
      u.registry.has (e.titleOf symbol scope) = true →
        EchoesAt e final n (next (e.titleOf symbol scope)) (further (e.titleOf symbol scope)) w u) :
    Echoes e final n (e.bindImport symbol (e.originOf (some symbol)) scope >>= next)
      (e.bindImport symbol (e.originOf (some symbol)) scope >>= further) := by
  have binding : Echoes e final n _ _ := echoes_bindImport steady claims outside
  refine ⟨upholds, composes_advances.bind binding.advances advances, ?_, ?_⟩
  · intro w value after ran proper leads
    obtain ⟨between, binds⟩ := Walk.binds_of_homed steady.unrivalled proper.homed claims outside
    rw [bind_ok binds.ran] at ran
    have left := ((advances _).after ran).leads leads
    exact notes between (has_of_bindImport binds.ran) value after ran
      (binding.notes w _ _ binds.ran proper left) leads
  · intro told w u allowed value after ran proper leads declared scopes inside
    obtain ⟨between, binds⟩ := Walk.binds_of_homed steady.unrivalled proper.homed claims outside
    have known := has_of_bindImport binds.ran
    refine echoesAt_bind (binding.notes w) binding.advances (fun name _ _ => advances name)
      (binding.echoes told w u) ?_ allowed value after ran proper leads declared scopes inside
    intro name middle later ran again _
    cases binds.ran.symm.trans ran
    exact echoes told between later known (has_of_bindImport again)

theorem echoes_importRef {type : TypeId} {symbol : SymbolId} {scope : ImportScope}
    (claims : e.Claims (e.titleOf symbol scope) (.imported (e.importOf symbol scope)))
    (outside : (e.originOf (some symbol)).scope? = some scope) (live : Option TypeId) :
    Echoes e final n
      (e.bindImport symbol (e.originOf (some symbol)) scope >>= fun name =>
        some <$> (e.going g).includeRef type name live)
      (e.bindImport symbol (e.originOf (some symbol)) scope >>= fun name =>
        some <$> (e.going h).includeRef type name live) := by
  have uncut : e.Uncut final (e.titleOf symbol scope) (e.program.type type).arguments.slots.length := by
    intro r noted count counted
    rw [uncounted_of_import steady noted claims] at counted
    cases counted
  have onward (node : Node) : Advances (pure (some node) : Extract (Option Node)) :=
    composes_advances.pure _
  have advances (name : String) := advances_includeRef repeats.flattening.ordered type name live
  refine echoes_bindImport_bind steady claims outside ?_ (fun name => ?_) (fun w known => ?_)
    fun told w u known there => ?_
  · refine upholds_of_flattening fun w reached => ?_
    refine shapely_bind reached (flattening_bindImport symbol outside w reached) ?_
    intro name after ran reached _
    rw [map_eq]
    refine shapely_bind reached
      (shapely_includeRef repeats.flattening reached (has_of_bindImport ran) type live) ?_
    exact fun node after _ reached _ => composes_flattening.pure _ after reached
  · exact composes_advances.map _ (advances name)
  · rw [map_eq]
    exact notesAt_bind (notesAt_includeRef repeats known) (fun node _ _ => onward node)
      fun node after _ => (repeats.pure (some node)).notes after
  · rw [map_eq, map_eq]
    refine echoesAt_bind (notesAt_includeRef repeats known) (advances _) (fun node _ _ => onward node)
      (echoesAt_includeRef repeats told uncut known there) fun node after later _ _ _ => ?_
    exact (repeats.pure (some node)).echoes told after later

theorem echoes_includeExternal {type : TypeId}
    (made : ∀ symbol, (e.program.type type).symbol = some symbol → e.isMade type = true) :
    Echoes e final n ((e.going g).includeExternal type) ((e.going h).includeExternal type) := by
  simp only [includeExternal, going_program, going_originOf, going_isAnonymous]
  cases held : (e.program.type type).symbol with
  | none => exact repeats.pure none
  | some symbol =>
      dsimp only
      cases outside : (e.originOf (some symbol)).scope? with
      | none => exact repeats.pure none
      | some scope =>
          refine Follows.ite (R := Echoes e final n) (fun _ => ?_) fun usable =>
            Follows.ite (R := Echoes e final n) (fun _ => ?_) fun named => ?_
          · exact Follows.ite (R := Echoes e final n) (fun _ => repeats.includeHidden type)
              fun _ => repeats.pure none
          · exact repeats.pure none
          · have claims : e.Claims (e.titleOf symbol scope) (.imported (e.importOf symbol scope)) :=
              .imported outside (Bool.eq_false_iff.mpr usable)
                (.own held (made symbol held) (Bool.eq_false_iff.mpr named))
            exact echoes_importRef repeats steady claims outside _

omit repeats steady in
theorem echoes_normalizeArguments {type : TypeId} {params : Slots SiteId} {types : List Node}
    {name : String} (uncut : e.Uncut final name types.length) :
    Echoes e final n (e.normalizeArguments type params types name)
      (e.normalizeArguments type params types name) where
  upholds := Visits.normalizeArguments composes_upholds.toThreads _ _ _ _
  advances := Visits.normalizeArguments composes_advances.toThreads _ _ _ _
  notes w value after ran proper _ := by
    obtain ⟨rfl, -⟩ := of_normalizeArguments ran
    exact proper
  echoes told w u allowed value after ran proper _ _ _ inside := by
    rw [normalizeArguments_of_uncut (uncut _ (proper.alike name))] at ran
    refine ⟨u, ?_, .refl u, inside⟩
    rw [normalizeArguments_of_uncut (uncut _ (inside.alike told name)), (Prod.mk.inj ran).1]

omit steady in
theorem echoes_aliasArguments {type : TypeId} (params : Slots SiteId) {name : String}
    (uncut : e.Uncut final name (e.program.type type).aliasArguments.slots.length) :
    Echoes e final n
      (do
        let types ← (e.going g).visitAll (e.program.type type).aliasArguments.slots
        let types ← e.normalizeArguments type params types name
        pure (Node.ref { name, types }))
      (do
        let types ← (e.going h).visitAll (e.program.type type).aliasArguments.slots
        let types ← e.normalizeArguments type params types name
        pure (Node.ref { name, types })) := by
  refine repeats.bind_of (repeats.visitAll _) fun w types after ran => ?_
  refine repeats.bind (echoes_normalizeArguments ?_) fun types => repeats.pure _
  rwa [length_of_visitAll ran]

theorem echoes_registerAlias {type : TypeId} {symbol : SymbolId} {site : SiteId} {name : String}
    (called : e.Called type name) (aliased : (e.program.type type).alias? = some symbol)
    (domestic : e.Domestic symbol) (declared : e.program.firstDeclaration (some symbol) = some site) :
    Echoes e final n (register name (g.bodyOfAlias site)) (register name (h.bodyOfAlias site)) := by
  have claims := Claims.named called aliased domestic declared
  have ordered := repeats.flattening.ordered.bodyOfAlias site
  have flattening : Extract.Flattening e.program (register name (g.bodyOfAlias site)) := by
    refine shapely_register ordered (repeats.flattening.bodyOfAlias site) fun w node after _ ran shape => ?_
    rw [repeats.flattening.plain site w node after ran] at shape
    cases shape
  have upholds := upholds_of_flattening flattening
  refine ⟨upholds, advances_of_orderly (orderly_register name ordered), ?_, fun told => ?_⟩
  · exact notesAt_register steady.unrivalled claims nofun nofun (.aliasBody aliased declared) upholds
      (repeats.notesAlias site) (repeats.aliased site)
  · refine echoesAt_register told steady.unrivalled claims nofun nofun (mem_names_of_called steady called)
      fun m less step builds entries w u => ?_
    exact repeats.aliasBody told m less type symbol site aliased declared _ step builds entries w u

omit repeats steady in
theorem externalName_of_domestic {symbol : SymbolId} (domestic : e.Domestic symbol) :
    e.externalName (some symbol) = pure none := by
  unfold externalName
  dsimp only
  split
  · rfl
  · rename_i scope outside
    have usable : e.isAnonymous (e.program.symbol symbol).name = true := by
      rcases domestic with inside | usable
      · rw [outside] at inside
        cases inside
      · exact usable
    change (if e.isAnonymous (e.program.symbol symbol).name then pure none
      else some <$> e.bindImport symbol (e.originOf (some symbol)) scope : Extract (Option String)) = _
    rw [if_pos usable]

theorem echoes_makeAliasRef {type : TypeId} {name : String} (called : e.Called type name) :
    Echoes e final n ((e.going g).makeAliasRef type name) ((e.going h).makeAliasRef type name) := by
  simp only [makeAliasRef, going_program, going_normalizeArguments]
  cases aliased : (e.program.type type).alias? with
  | none => exact repeats.diagnose _
  | some symbol =>
      cases declared : e.program.firstDeclaration (some symbol) with
      | none => exact repeats.diagnose _
      | some site =>
          dsimp only
          have finish {name : String}
              (uncut : e.Uncut final name (e.program.type type).aliasArguments.slots.length) :=
            echoes_aliasArguments repeats (e.program.site site).typeParameters uncut
          by_cases domestic : e.Domestic symbol
          · have same : (e.going g).externalName (some symbol) = pure none :=
              externalName_of_domestic domestic
            have other : (e.going h).externalName (some symbol) = pure none :=
              externalName_of_domestic domestic
            rw [same, other, pure_bind, pure_bind]
            refine repeats.bind (echoes_registerAlias repeats steady called aliased domestic declared)
              fun _ => finish ?_
            exact fun r noted count counted =>
              uncut_of_alias steady noted called aliased domestic declared counted
          · obtain ⟨scope, outside, usable⟩ : ∃ scope, (e.originOf (some symbol)).scope? = some scope ∧
                e.isAnonymous (e.program.symbol symbol).name = false := by
              rw [Domestic, not_or] at domestic
              obtain ⟨scope, outside⟩ := Option.ne_none_iff_exists'.mp domestic.1
              exact ⟨scope, outside, Bool.eq_false_iff.mpr domestic.2⟩
            have claims := Claims.imported outside usable (.named aliased)
            have same : (e.going g).externalName (some symbol) =
                some <$> e.bindImport symbol (e.originOf (some symbol)) scope :=
              externalName_eq outside usable
            have other : (e.going h).externalName (some symbol) =
                some <$> e.bindImport symbol (e.originOf (some symbol)) scope :=
              externalName_eq outside usable
            rw [same, other, bind_map_left, bind_map_left]
            simp only [pure_bind]
            have titled := finish (show e.Uncut final (e.titleOf symbol scope) _ by
              intro r noted count counted
              rw [uncounted_of_import steady noted claims] at counted
              cases counted)
            refine echoes_bindImport_bind steady claims outside ?_ (fun name => ?_)
              (fun w _ => titled.notes w) fun told w u _ _ => titled.echoes told w u
            · refine composes_upholds.bind (upholds_of_flattening (flattening_bindImport symbol outside))
                fun name => composes_upholds.bind (repeats.visitAll _).upholds fun types => ?_
              exact composes_upholds.bind
                (Visits.normalizeArguments composes_upholds.toThreads _ _ _ _)
                fun _ => composes_upholds.pure _
            · refine composes_advances.bind (repeats.visitAll _).advances fun types => ?_
              exact composes_advances.bind
                (Visits.normalizeArguments composes_advances.toThreads _ _ _ _)
                fun _ => composes_advances.pure _

omit repeats steady in
theorem ensureNamed_of_has {e : Engine} {type : Option TypeId} {name : String} {w : Walk}
    (known : w.registry.has name = true) : e.ensureNamed type name w = (.ok (), w) := by
  rw [ensureNamed, bind_ok (isRegistered_apply name w), known]
  rfl

omit repeats steady in
theorem ensureNamed_of_free {e : Engine} {type : Option TypeId} {name : String} {w : Walk}
    (free : w.registry.has name = false) :
    e.ensureNamed type name w = discard (e.makeRef type name) w := by
  rw [ensureNamed, bind_ok (isRegistered_apply name w), free]
  rfl

omit repeats steady in
/-- The live type of a reference is only passed on. -/
theorem includeRef_of_live {type : TypeId} {name : String} {live : Option TypeId} {w after : Walk}
    {node : Node} (ran : (e.going h).includeRef type name live w = (.ok node, after))
    (other : Option TypeId) : ∃ node, (e.going h).includeRef type name other w = (.ok node, after) := by
  rw [includeRef_eq] at ran ⊢
  obtain ⟨types, visited, first, ran⟩ := of_bind_ok ran
  obtain ⟨kept, normalized, second, ran⟩ := of_bind_ok ran
  cases ran
  refine ⟨.ref { name, types := kept, live := other }, ?_⟩
  rw [bind_ok first, referTo, bind_ok second]
  rfl

/-- An instantiation of the program's own is entered first, and referred to then. -/
theorem echoes_enteredRef {type : TypeId} {name : String} (enters : e.Enters type name)
    (made : e.isMade type = true) (domestic : e.DomesticType type) :
    Echoes e final n
      (do
        (e.going g).ensureNamed type name
        (e.going g).includeRef type name (some type))
      (do
        (e.going h).ensureNamed type name
        (e.going h).includeRef type name (some type)) := by
  have ordered := repeats.flattening.ordered
  have making := echoes_makeRef repeats steady enters made domestic
  have uncut : e.Uncut final name (e.program.type type).arguments.slots.length :=
    fun r noted count counted => uncut_of_type steady noted enters made domestic counted
  have onward (_ : Unit) := advances_includeRef ordered type name (some type)
  have first : Advances ((e.going g).ensureNamed type name) :=
    advances_of_orderly (orderly_ensureNamed ordered _ _)
  have notes (w : Walk) : NotesAt e final ((e.going g).ensureNamed type name) w := by
    intro value after ran
    cases known : w.registry.has name with
    | true =>
        rw [ensureNamed_of_has known] at ran
        cases ran
        exact fun proper _ => proper
    | false =>
        rw [ensureNamed_of_free known] at ran
        exact (repeats.map _ making).notes w value after ran
  refine ⟨?_, composes_advances.bind first onward, fun w => ?_, fun told w u => ?_⟩
  · refine upholds_of_flattening fun w reached => ?_
    have named : Extract.Flattening e.program ((e.going g).ensureNamed (some type) name) :=
      flattening_ensureNamed repeats.flattening (by
        rintro id ⟨⟩ object
        exact enters.registers object)
    refine shapely_bind reached (named w reached) fun _ after ran reached _ => ?_
    exact shapely_includeRef repeats.flattening reached (has_of_ensureNamed ordered ran) type _
  · refine notesAt_bind (notes w) (fun value _ _ => onward value) fun _ after ran => ?_
    exact notesAt_includeRef repeats (has_of_ensureNamed ordered ran)
  · intro allowed value after ran proper leads declared scopes inside
    obtain ⟨_, between, ensured, ran⟩ := of_bind_ok ran
    have known := has_of_ensureNamed ordered ensured
    have grown := (onward ()).after ran
    have left := grown.leads leads
    have begun := notes w () between ensured proper left
    -- the reference that follows on the one side is what both references on the other side repeat
    have refer {u later : Walk} (grown : u.Extends later) (there : later.registry.has name = true)
        (scopes : w.scopes = [] → u.scopes = []) (inside : later.Within e final n allowed) :
        ∃ last, (e.going h).includeRef type name (some type) later = (.ok value, last) ∧
          later.Extends last ∧ last.Within e final n allowed := by
      exact echoesAt_includeRef repeats told uncut known there allowed value after ran begun leads
        declared ((first.after ensured).outermost grown scopes) inside
    cases there : u.registry.has name with
    | true =>
        obtain ⟨last, again, further, ended⟩ := refer (.refl u) there scopes inside
        exact ⟨last, (bind_ok (ensureNamed_of_has there)).trans again, further, ended⟩
    | false =>
        obtain ⟨entered, registered, opened, kept⟩ := within_register told steady.unrivalled
          (Claims.type enters made domestic) nofun nofun (mem_names_of_enters steady enters)
          (h.bodyOfType (e.entryType type)) (fun m less step builds entries w u => by
            cases builds
            exact (repeats.typeBody told m less _ (steady.shaped _) entries w u).restores)
          (left.has name known) inside
        have stands := has_of_register registered
        obtain ⟨middle, again, further, held⟩ := refer opened stands scopes kept
        obtain ⟨node, other⟩ := includeRef_of_live again none
        obtain ⟨last, refers, ended, enclosed⟩ :=
          refer (opened.trans further) (further.has stands) scopes held
        refine ⟨last, ?_, (opened.trans further).trans ended, enclosed⟩
        have ensured : (e.going h).ensureNamed type name u = (.ok (), middle) := by
          rw [ensureNamed_of_free there]
          have made : (e.going h).makeRef (some type) name u = (.ok node, middle) := by
            rw [makeRef_eq, bind_ok registered, other]
          exact bind_ok made
        rw [bind_ok ensured, refers]

theorem echoes_includeReference {type : TypeId} (instance_ : e.isInstance type = true) :
    Echoes e final n ((e.going g).includeReference type) ((e.going h).includeReference type) := by
  have made : e.isMade type = true := by rw [isMade, instance_, Bool.true_or]
  obtain ⟨reference, named⟩ := Bool.and_eq_true_iff.mp instance_
  obtain ⟨symbol, held⟩ := Option.isSome_iff_exists.mp named
  refine repeats.bind_of (echoes_includeExternal repeats steady fun _ _ => made)
    fun w outside after ran => ?_
  cases outside with
  | some node => exact repeats.pure node
  | none =>
      have domestic := domestic_of_includeExternal (e := e.going g) ran
      refine repeats.bind_of (repeats.lift _) fun _ found _ asked => ?_
      rw [lift_apply, Prod.mk.injEq] at asked
      have same := of_present asked.1
      rw [going_program, held, Option.some_inj] at same
      subst same
      have entered := echoes_enteredRef repeats steady (.instantiated reference held) made domestic
      exact entered

end References

end Engine

end TypeAtlas
