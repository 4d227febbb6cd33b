import TypeAtlas.Proofs.Binding.History
import TypeAtlas.Proofs.Extract.Aliases
import TypeAtlas.Proofs.Extract.Ownership
import TypeAtlas.Proofs.Extract.Trimming
import TypeAtlas.Proofs.Gather

/-!
What names are claimed for. A program tells what its entries may be made of, whatever the walk: where
each name is claimed for one thing only, every import gets its own name, and the node of an entry is what
one of the steps that belong to the claim has made.
-/

namespace TypeAtlas

open Extract

/-- What an entry is for: a type, a declaration, an expression without a name, or an import. -/
inductive Maker
  | type (type : TypeId)
  | root (kind : RootKind) (site : SiteId)
  | expression (place : SiteId)
  | imported (node : Node)

theorem Table.put_of_get? {κ β : Type} [DecidableEq κ] {table : Table κ β} {key : κ} {value : β}
    (found : get? table key = some value) : put table key value = table := by
  induction table with
  | nil => cases found
  | cons first rest ih =>
      rw [get?] at found
      split at found
      · rename_i same
        cases found
        subst same
        rw [put, if_pos rfl]
      · rename_i other
        rw [put, if_neg other, ih found]

namespace Program

variable (p : Program)

/-- A default export is declared at the site. -/
def HasDefault (site : SiteId) : Prop :=
  ∃ exports symbol, (p.symbol p.moduleSymbol).exports.each = .ok exports ∧ some symbol ∈ exports ∧
    (p.symbol symbol).name = RootKind.defaultName ∧ (p.symbol symbol).declarations.first? = some site

/-- Symbols whose declarations are written out as entries of their own. -/
inductive Exported (symbol : SymbolId) : Prop
  | listed {exports : List (Option SymbolId)}
      (listed : (p.symbol p.moduleSymbol).exports.each = .ok exports) (member : some symbol ∈ exports)
      (suited : RootKind.of? (p.symbol symbol) = some (RootKind.sortOf (p.symbol symbol)))
  | named {site : SiteId} (default : p.HasDefault site)
      (plain : (p.site site).kind ≠ .functionDeclaration) (named : p.DefaultOf site symbol)

/-- The type of a variable: the one that is written, or that of the initializer. -/
def valueAt (site : SiteId) : Except Fault (Option TypeId) :=
  match (p.site site).type, (p.site site).initializer with
  | some written, _ => p.typeWritten written
  | none, some expression => p.typeAt expression
  | none, none => .ok none

end Program

namespace Engine

variable (e : Engine)

/-- The name of an import as long as nothing else has the name. -/
def titleOf (symbol : SymbolId) : ImportScope → String
  | .global => e.program.globalName symbol
  | _ => (e.program.symbol symbol).name

/-- A type that is not only referred to as a type parameter. -/
def isMade (type : TypeId) : Bool := e.isInstance type || !(e.program.type type).isTypeParameter

/-- Something in the program asks for the symbol as an import. -/
inductive Fetches (symbol : SymbolId) (scope : ImportScope) : Prop
  | own {type : TypeId} (held : (e.program.type type).symbol = some symbol)
      (made : e.isMade type = true)
      (named : (scope = .module_ && (e.program.type type).isAnonymousObject) = false)
  | named {type : TypeId} (aliased : (e.program.type type).alias? = some symbol)

/-- A name is claimed for what a run might write under it. -/
inductive Claims : String → Maker → Prop
  | type {type : TypeId} {name : String} (enters : e.Enters type name) (made : e.isMade type = true)
      (domestic : e.DomesticType type) : Claims name (.type (e.entryType type))
  | named {type : TypeId} {symbol : SymbolId} {site : SiteId} {name : String}
      (called : e.Called type name) (aliased : (e.program.type type).alias? = some symbol)
      (domestic : e.Domestic symbol) (declared : e.program.firstDeclaration (some symbol) = some site) :
      Claims name (.root .named site)
  | imported {symbol : SymbolId} {scope : ImportScope}
      (outside : (e.originOf (some symbol)).scope? = some scope)
      (usable : e.isAnonymous (e.program.symbol symbol).name = false)
      (fetched : e.Fetches symbol scope) :
      Claims (e.titleOf symbol scope) (.imported (e.importOf symbol scope))
  | root {symbol : SymbolId} {site : SiteId} (exported : e.program.Exported symbol)
      (placed : e.program.DeclaredAt symbol site)
      (value : RootKind.sortOf (e.program.symbol symbol) ≠ .type) :
      Claims (e.program.symbol symbol).name (.root (RootKind.sortOf (e.program.symbol symbol)) site)
  | default {site : SiteId} (default : e.program.HasDefault site) :
      Claims RootKind.defaultName (.root .default site)
  | synthetic {site : SiteId} (default : e.program.HasDefault site)
      (function : (e.program.site site).kind = .functionDeclaration) :
      Claims RootKind.syntheticName (.root .function site)
  | expression {site place : SiteId} (default : e.program.HasDefault site)
      (written : (e.program.site site).expression = some place)
      (nameless : (e.program.site place).symbol = none) :
      Claims RootKind.syntheticName (.expression place)

/-- Distinct things go by distinct names. -/
def Unrivalled : Prop := ∀ {name maker other}, e.Claims name maker → e.Claims name other → maker = other

def defaultNode (site : SiteId) : Extract Node := do
  let value ← e.defaultValue site
  let comment ← e.program.comment (e.program.site site).symbol
  pure (.defaultExport value comment)

/-- An exported alias is written out under its own name. -/
def Spelled (name : String) (site : SiteId) : Prop :=
  ∃ symbol, e.program.Exported symbol ∧ e.program.DeclaredAt symbol site ∧
    RootKind.sortOf (e.program.symbol symbol) = .named ∧ (e.program.symbol symbol).name = name

/-- The steps that make an entry. An alias is described as the type it stands for or as it is written. -/
inductive Builds (name : String) : Maker → (Engine → Extract Node) → Prop
  | type (type : TypeId) : Builds name (.type type) (·.includeNamed type)
  | aliasBody {type : TypeId} {symbol : SymbolId} {site : SiteId}
      (aliased : (e.program.type type).alias? = some symbol)
      (declared : e.program.firstDeclaration (some symbol) = some site) :
      Builds name (.root .named site) (·.aliasBody site)
  | writtenAlias {site written : SiteId} (spelled : e.Spelled name site)
      (right : (e.program.site site).type = some written) :
      Builds name (.root .named site) (·.writtenAlias site written)
  | function {site : SiteId} {type : TypeId} {signature : Option SignatureId}
      {others : List (Option SignatureId)} (stands : e.program.typeAt (some site) = .ok (some type))
      (each : (e.program.type type).callSignatures.each = .ok (signature :: others)) :
      Builds name (.root .function site) (·.exportedFunction (some site) signature)
  | value {site : SiteId} {type : Option TypeId} (stands : e.program.valueAt site = .ok type) :
      Builds name (.root .value site) (·.exportedValue site type)
  | expression {place : SiteId} {type : Option TypeId} (stands : e.program.typeAt (some place) = .ok type) :
      Builds name (.expression place) (·.exportedExpression type)
  | default (site : SiteId) : Builds name (.root .default site) (·.defaultNode site)

/-- The ways on from a type with entries and levels to go. -/
def opened (e : Engine) (entries levels : Nat) : Going :=
  (reaching e.program e.settings e.libraries (depthBound e.program) entries levels).ways

/-- The engine at the start of an entry, with all levels to go. -/
def opening (e : Engine) (entries : Nat) : Engine := e.going (e.opened entries (depthBound e.program))

theorem program_opening (entries : Nat) : (e.opening entries).program = e.program := rfl

variable {e}

theorem going_opened (entries levels : Nat) : e.going (e.opened entries levels) =
    reaching e.program e.settings e.libraries (depthBound e.program) entries levels := by
  cases entries <;> cases levels <;> rfl

theorem visit_opened (entries levels : Nat) (type : TypeId) :
    (e.opened entries (levels + 1)).visit type = (e.going (e.opened entries levels)).includeType type := by
  rw [going_opened]
  rfl

theorem visitNamed_opened (entries levels : Nat) (type : TypeId) (name : Option String) :
    (e.opened entries (levels + 1)).visitNamed type name =
      (e.going (e.opened entries levels)).includeKnown type name := by
  rw [going_opened]
  rfl

theorem visitInline_opened (entries levels : Nat) (type : TypeId) :
    (e.opened entries (levels + 1)).visitInline type =
      (e.going (e.opened entries levels)).includeInline type := by
  rw [going_opened]
  rfl

theorem bodyOfType_opened (entries levels : Nat) (type : TypeId) :
    (e.opened (entries + 1) levels).bodyOfType type = (e.opening entries).includeNamed type := by
  rw [opening, going_opened]
  cases levels <;> rfl

theorem bodyOfAlias_opened (entries levels : Nat) (site : SiteId) :
    (e.opened (entries + 1) levels).bodyOfAlias site = (e.opening entries).aliasBody site := by
  rw [opening, going_opened]
  cases levels <;> rfl

end Engine

namespace Walk

/-- Nothing is left to be filled. -/
def Unreserved (w : Walk) : Prop := ∀ name, w.registry.isPlaceholder name = false

/-- Nothing of a walk is lost on the way to another, as far as names and declared names go. -/
structure Leads (w final : Walk) : Prop where
  has : ∀ name, w.registry.has name = true → final.registry.has name = true
  locals : ∀ name, w.localsOf name ⊆ final.localsOf name

theorem Extends.leads {w after final : Walk} (extended : w.Extends after) (leads : after.Leads final) :
    w.Leads final :=
  ⟨fun _ known => leads.has _ (extended.has known),
    fun _ _ held => leads.locals _ (extended.localsOf held)⟩

/-- Every import of a module has its own name, as soon as the name is there. -/
structure Homed (e : Engine) (w : Walk) : Prop where
  plain : ∀ home own binding, ((home, own), binding) ∈ w.bindings →
    binding = own ∧ e.Claims own (.imported (.imported own (some home) .module_))
  bound : ∀ home own, e.Claims own (.imported (.imported own (some home) .module_)) →
    w.registry.has own = true → Table.get? w.bindings (home, own) = some own

variable {e : Engine}

theorem Homed.of_same {w after : Walk} (homed : w.Homed e) (registry : after.registry = w.registry)
    (bindings : after.bindings = w.bindings) : after.Homed e :=
  ⟨by rw [bindings]; exact homed.plain, by rw [bindings, registry]; exact homed.bound⟩

/-- A name that is claimed for no import may be taken. -/
theorem Homed.of_names {w after : Walk} (homed : w.Homed e) {taken : String}
    (names : ∀ name, after.registry.has name = true → w.registry.has name = true ∨ name = taken)
    (bindings : after.bindings = w.bindings)
    (apart : ∀ home, ¬ e.Claims taken (.imported (.imported taken (some home) .module_))) :
    after.Homed e := by
  refine ⟨by rw [bindings]; exact homed.plain, fun home own claims known => ?_⟩
  rw [bindings]
  rcases names own known with known | rfl
  · exact homed.bound home own claims known
  · exact absurd claims (apart _)

end Walk

namespace Engine

/-- An entry is begun in a scope of its own, except that a default export is written between two roots. -/
inductive Begun (e : Engine) (entries : Nat) (w : Walk) : Maker → Prop
  | within {maker : Maker} (other : ∀ site, maker ≠ .root .default site) (inside : w.scopes ≠ []) :
      Begun e entries w maker
  | default {site : SiteId} (outside : w.scopes = []) (unreserved : w.Unreserved)
      (all : entries = entryBound e.program) : Begun e entries w (.root .default site)

theorem Begun.inner {e : Engine} {entries : Nat} {w : Walk} {maker : Maker} (begun : e.Begun entries w maker)
    (other : ∀ site, maker ≠ .root .default site) : w.scopes ≠ [] := by
  cases begun with
  | within _ inside => exact inside
  | default => exact absurd rfl (other _)

/-- The node is what is claimed under the name: an import, or what a step has made on the way to the
final walk, starting from a walk of such entries. -/
inductive Noted (e : Engine) (final : Walk) : String → Node → Prop
  | imported {name : String} {node : Node} (claims : e.Claims name (.imported node)) :
      Noted e final name node
  | made {name : String} {node : Node} {maker : Maker} {step : Engine → Extract Node} {entries : Nat}
      {w built : Walk} (claims : e.Claims name maker) (builds : e.Builds name maker step)
      (reached : w.Reachable) (flat : w.Flat e.program) (homed : w.Homed e)
      (noted : ∀ other held, w.registry.Filled other held → Noted e final other held)
      (begun : e.Begun entries w maker)
      (ran : step (e.opening entries) w = (.ok node, built)) (leads : built.Leads final)
      (declared : built.scopes.headD [] ⊆ final.localsOf name) : Noted e final name node

end Engine

/-- A moment of a run on the way to the final walk. -/
structure Walk.Proper (w : Walk) (e : Engine) (final : Walk) : Prop where
  reached : w.Reachable
  flat : w.Flat e.program
  homed : w.Homed e
  noted : ∀ name node, w.registry.Filled name node → e.Noted final name node

namespace Engine

/-- How an entry was made on the way to the final walk. -/
structure Wrote (e : Engine) (final : Walk) (name : String) (node : Node) (maker : Maker)
    (step : Engine → Extract Node) (entries : Nat) (w built : Walk) : Prop where
  claims : e.Claims name maker
  builds : e.Builds name maker step
  proper : w.Proper e final
  begun : e.Begun entries w maker
  ran : step (e.opening entries) w = (.ok node, built)
  leads : built.Leads final
  declared : built.scopes.headD [] ⊆ final.localsOf name

variable {e : Engine} {final w built : Walk} {name : String} {node : Node} {maker : Maker}
  {step : Engine → Extract Node} {entries : Nat}

theorem Wrote.noted (wrote : e.Wrote final name node maker step entries w built) :
    e.Noted final name node :=
  .made wrote.claims wrote.builds wrote.proper.reached wrote.proper.flat wrote.proper.homed
    wrote.proper.noted wrote.begun wrote.ran wrote.leads wrote.declared

theorem Noted.wrote (noted : e.Noted final name node) : e.Claims name (.imported node) ∨
    ∃ maker step entries w built, e.Wrote final name node maker step entries w built := by
  cases noted with
  | imported claims => exact Or.inl claims
  | made claims builds reached flat homed noted begun ran leads declared =>
      exact Or.inr ⟨_, _, _, _, _, claims, builds, ⟨reached, flat, homed, noted⟩, begun, ran, leads,
        declared⟩

end Engine

namespace Walk

variable {e : Engine}

/-- The entry of an import is taken under its own name, at once or as it was taken before. -/
structure Binds (e : Engine) (symbol : SymbolId) (scope : ImportScope) (w after : Walk) : Prop where
  ran : e.bindImport symbol (e.originOf (some symbol)) scope w = (.ok (e.titleOf symbol scope), after)
  homed : after.Homed e
  scopes : after.scopes = w.scopes
  locals : after.localNames = w.localNames
  registry : after.registry = w.registry ∨
    after.registry = w.registry.set (e.titleOf symbol scope) (e.importOf symbol scope)

theorem has_set {r : Registry} {name other : String} {node : Node}
    (known : (r.set name node).has other = true) : r.has other = true ∨ other = name := by
  rw [Registry.has_iff, Registry.names_set] at known
  rw [Registry.has_iff]
  split at known
  · exact Or.inl known
  · rwa [List.mem_append, List.mem_singleton] at known

theorem has_reserve {r : Registry} {name other : String} (known : (r.reserve name).has other = true) :
    r.has other = true ∨ other = name := by
  rw [Registry.has_iff, Registry.names_reserve] at known
  rw [Registry.has_iff]
  split at known
  · exact Or.inl known
  · rwa [List.mem_append, List.mem_singleton] at known

theorem has_of_either {r after : Registry} {taken : String} {node : Node}
    (registry : after = r ∨ after = r.set taken node) {name : String} (known : after.has name = true) :
    r.has name = true ∨ name = taken := by
  rcases registry with rfl | rfl
  · exact Or.inl known
  · exact has_set known

/-- A name of a module is bound to itself. -/
theorem bindings_bind_of_homed (unrivalled : e.Unrivalled) {w : Walk} (homed : w.Homed e)
    {home own : String} (claims : e.Claims own (.imported (.imported own (some home) .module_))) :
    w.bindings.bind home own w.registry.names = (own, Table.put w.bindings (home, own) own) := by
  cases bound : Table.get? w.bindings (home, own) with
  | some binding =>
      obtain ⟨rfl, -⟩ := homed.plain home own binding (Table.mem_of_get? bound)
      rw [Bindings.bind_of_bound _ bound, Table.put_of_get? bound]
  | none =>
      have unused : own ∉ w.bindings.owned ++ w.registry.names := by
        rw [List.mem_append, not_or]
        refine ⟨fun owned => ?_, fun known => ?_⟩
        · obtain ⟨⟨⟨place, name⟩, binding⟩, held, rfl⟩ := List.mem_map.mp owned
          obtain ⟨rfl, rival⟩ := homed.plain place name binding held
          have same := unrivalled claims rival
          simp only [Maker.imported.injEq, Node.imported.injEq, Option.some_inj] at same
          obtain ⟨-, rfl, -⟩ := same
          rw [Table.get?_eq_none_iff] at bound
          exact bound (List.mem_map_of_mem (f := Prod.fst) held)
        · rw [homed.bound home own claims ((Registry.has_iff _ _).mpr known)] at bound
          cases bound
      obtain ⟨k, -, found, -, earlier⟩ :=
        Bindings.firstFree_eq (w.bindings.owned ++ w.registry.names) own
      obtain rfl : k = 0 := Nat.eq_zero_of_not_pos fun positive => unused (earlier 0 positive)
      rw [Bindings.bind_of_unbound _ bound, found]
      rfl

theorem binds_of_homed (unrivalled : e.Unrivalled) {w : Walk} (homed : w.Homed e) {symbol : SymbolId}
    {scope : ImportScope}
    (claims : e.Claims (e.titleOf symbol scope) (.imported (e.importOf symbol scope)))
    (outside : (e.originOf (some symbol)).scope? = some scope) :
    ∃ after, Binds e symbol scope w after := by
  have written (between : Walk) (scopes : between.scopes = w.scopes)
      (locals : between.localNames = w.localNames) (registry : between.registry = w.registry)
      (named : e.importName symbol (e.originOf (some symbol)) scope w =
        (.ok (e.titleOf symbol scope), between))
      (bindings : ∀ after : Walk, after.bindings = between.bindings →
        (after.registry = w.registry ∨
          after.registry = w.registry.set (e.titleOf symbol scope) (e.importOf symbol scope)) →
        after.Homed e) :
      ∃ after, Binds e symbol scope w after := by
    have wrote := Engine.registerImport_apply (e.titleOf symbol scope) (e.importOf symbol scope) between
    have ran : e.bindImport symbol (e.originOf (some symbol)) scope w =
        (.ok (e.titleOf symbol scope), _) :=
      (bind_ok named).trans ((bind_ok wrote).trans rfl)
    split at ran
    · have same : (between.set (e.titleOf symbol scope) (e.importOf symbol scope)).registry =
          w.registry.set (e.titleOf symbol scope) (e.importOf symbol scope) :=
        congrArg (Registry.set · _ _) registry
      exact ⟨_, ran, bindings _ rfl (Or.inr same), scopes, locals, Or.inr same⟩
    · exact ⟨_, ran, bindings _ rfl (Or.inl registry), scopes, locals, Or.inl registry⟩
  -- an import that is no module's has its name for itself
  have plain (other : scope ≠ .module_)
      (named : e.importName symbol (e.originOf (some symbol)) scope w =
        (.ok (e.titleOf symbol scope), w)) : ∃ after, Binds e symbol scope w after := by
    refine written w rfl rfl rfl named fun after bindings registry => ?_
    refine homed.of_names (fun name => has_of_either registry) bindings fun home rival => ?_
    have same := unrivalled claims rival
    simp only [Engine.importOf, Maker.imported.injEq, Node.imported.injEq] at same
    exact other same.2.2
  cases scope with
  | global => exact plain nofun rfl
  | lib => exact plain nofun rfl
  | module_ =>
      cases origin : e.originOf (some symbol) with
      | module_ home =>
          let own := (e.program.symbol symbol).name
          have claimed : e.Claims own (.imported (.imported own (some home) .module_)) := by
            rw [Engine.importOf, origin] at claims
            exact claims
          have bound := bindings_bind_of_homed unrivalled homed claimed
          refine written (w.bind home own).2 (scopes_bind w home own) (localNames_bind w home own)
            (registry_bind w home own) ?_ fun after bindings registry => ?_
          · rw [origin]
            change (Except.ok (w.bind home own).1, _) = _
            rw [bind_fst, bound]
            rfl
          · rw [bindings_bind, bound] at bindings
            refine ⟨fun place name binding held => ?_, fun place name rival there => ?_⟩
            · rw [bindings] at held
              rcases Table.mem_put held with held | same
              · exact homed.plain place name binding held
              · cases same
                exact ⟨rfl, claimed⟩
            · rw [bindings]
              by_cases same : (home, own) = (place, name)
              · cases same
                exact Table.get?_put_self ..
              · rw [Table.get?_put_of_ne _ _ same]
                refine homed.bound place name rival ?_
                refine (has_of_either registry there).resolve_right ?_
                rintro rfl
                have sole := unrivalled claimed rival
                simp only [Maker.imported.injEq, Node.imported.injEq, Option.some_inj] at sole
                exact same (by rw [sole.2.1]; rfl)
      | _ => rw [origin] at outside; cases outside

end Walk

namespace Engine.Unrivalled

variable {e : Engine} (unrivalled : e.Unrivalled)
include unrivalled

theorem apart {name : String} {maker : Maker} (claims : e.Claims name maker)
    (other : ∀ node, maker ≠ .imported node) (home : String) :
    ¬ e.Claims name (.imported (.imported name (some home) .module_)) :=
  fun rival => other _ (unrivalled claims rival)

end Engine.Unrivalled

namespace Walk.Proper

variable {e : Engine} {final w after : Walk}

theorem of_same (proper : w.Proper e final) (registry : after.registry = w.registry)
    (bindings : after.bindings = w.bindings) (reached : after.Reachable) : after.Proper e final where
  reached := reached
  flat := fun name node shape held => by
    rw [registry] at held ⊢
    exact proper.flat name node shape held
  homed := proper.homed.of_same registry bindings
  noted := by rw [registry]; exact proper.noted

theorem reserve (proper : w.Proper e final) {name : String}
    (apart : ∀ home, ¬ e.Claims name (.imported (.imported name (some home) .module_))) :
    (w.reserve name).Proper e final where
  reached := .reserve name proper.reached
  flat := ((Walk.Shapes.reserve w name).upholds (.reserve name proper.reached)
    ((Walk.grows_reserve w name).keepsShapes proper.reached) proper.flat).flat
  homed := proper.homed.of_names (fun _ => has_reserve) rfl apart
  noted _ _ filled := proper.noted _ _ (Registry.filled_of_reserve filled)

/-- Flatness aside, an entry may be written where it is noted. -/
theorem set (proper : w.Proper e final) {name : String} {node : Node}
    (flat : (w.set name node).Flat e.program)
    (apart : ∀ home, ¬ e.Claims name (.imported (.imported name (some home) .module_)))
    (noted : e.Noted final name node) : (w.set name node).Proper e final where
  reached := .set name node proper.reached
  flat := flat
  homed := proper.homed.of_names (fun _ => has_set) rfl apart
  noted other held filled := by
    rcases Registry.filled_of_set filled with ⟨rfl, rfl⟩ | ⟨-, filled⟩
    · exact noted
    · exact proper.noted other held filled

end Walk.Proper

section Counting

variable {e : Engine}

theorem length_parameterNames {params : Slots TypeId} {w after : Walk}
    {types : List (Node.TypeParameter Node)}
    (ran : e.includeTypeParameters params w = (.ok types, after)) :
    types.length = (e.program.parameterNames params.slots).length := by
  obtain ⟨described, _, made, ended⟩ := of_bind_ok ran
  cases ended
  have each := forall₂_of_mapM made
  clear ran made
  generalize params.slots = slots at each
  induction each with
  | nil => rfl
  | @cons param value slots described first _ ih =>
      obtain ⟨before, later, first⟩ := first
      obtain ⟨type, _, asked, made⟩ := of_bind_ok first
      clear first
      rw [lift_apply, Prod.mk.injEq] at asked
      obtain rfl := of_present asked.1
      cases held : (e.program.type type).symbol with
      | none =>
          unfold Engine.includeTypeParameter at made
          rw [held] at made
          cases made
          simpa [Program.parameterNames, Program.parameterName?, held] using ih
      | some symbol =>
          obtain ⟨described, rfl⟩ :=
            Option.isSome_iff_exists.mp (Engine.described_of_includeTypeParameter held made)
          simpa [Program.parameterNames, Program.parameterName?, held] using ih

/-- An entry of a type of the program declares as many type parameters as the type. -/
theorem count_of_includeNamed {manner : Manner} {ages : Ages} {now : Nat}
    (fits : e.program.Fits manner ages now) {inner : Engine} (same : inner.program = e.program)
    {type : TypeId} {w after : Walk} {node : Node} (ran : inner.includeNamed type w = (.ok node, after))
    {r : Registry} {name : String} (filled : r.Filled name node) {count : Nat}
    (counted : r.parameterCount? name = some count) :
    (e.program.parameterNames (e.program.type type).typeParameters.slots).length ≤ count := by
  cases nominal : (e.program.type type).isNominal with
  | false =>
      rw [(fits.types type).typeParameters nominal]
      exact Nat.zero_le _
  | true =>
      obtain ⟨flags, -, -, unmapped, -⟩ := (fits.types type).nominal nominal
      rw [← same] at flags unmapped ⊢
      rw [Registry.parameterCount?, filled.1, filled.2] at counted
      obtain ⟨shape, _, rfl | rfl, _, _, described⟩ :=
        Engine.parameters_of_includeNamed flags unmapped ran
      · cases counted
        exact Nat.le_of_eq (length_parameterNames described).symm
      · cases counted
        exact Nat.le_of_eq (length_parameterNames described).symm

theorem count_of_aliasBody {inner : Engine} (same : inner.program = e.program)
    {title : String} {step : Engine → Extract Node} {site : SiteId}
    (builds : e.Builds title (.root .named site) step)
    {w after : Walk} {node : Node} (ran : step inner w = (.ok node, after)) {r : Registry}
    {name : String} (filled : r.Filled name node) :
    r.parameterCount? name =
      some (e.program.parameterNames (e.program.declaredParameters site)).length := by
  have described : ∃ types child comment before later, node = .aliasOf types child comment ∧
      inner.declaredTypeParameters site before = (.ok types, later) := by
    cases builds with
    | aliasBody aliased declared =>
        obtain ⟨comment, _, -, ran⟩ := of_bind_ok ran
        obtain ⟨types, _, described, ran⟩ := of_bind_ok ran
        obtain ⟨_, _, -, ran⟩ := of_bind_ok ran
        obtain ⟨_, _, -, ran⟩ := of_bind_ok ran
        obtain ⟨child, _, -, ran⟩ := of_bind_ok ran
        cases ran
        exact ⟨types, child, comment, _, _, rfl, described⟩
    | writtenAlias _ right =>
        obtain ⟨comment, _, -, ran⟩ := of_bind_ok ran
        obtain ⟨types, _, described, ran⟩ := of_bind_ok ran
        obtain ⟨child, _, -, ran⟩ := of_bind_ok ran
        cases ran
        exact ⟨types, child, comment, _, _, rfl, described⟩
  obtain ⟨types, child, comment, before, later, rfl, described⟩ := described
  rw [Registry.parameterCount?, filled.1, filled.2, ← same]
  exact congrArg some (length_parameterNames (Engine.declaredTypeParameters_eq described))

end Counting

end TypeAtlas
