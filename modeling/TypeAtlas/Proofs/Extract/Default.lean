import TypeAtlas.Proofs.Extract.Apart
import TypeAtlas.Proofs.Extract.Scoped

/-!
Default exports in the graph of a run. The entry of a default export refers to an entry of its own, or
goes by the bare name of the symbol that it names.
-/

namespace TypeAtlas

open Extract

variable {manner : Manner} {ages : Ages} {now : Nat}

namespace Engine

variable {e : Engine}

/-- A reference has no arguments if its type has none, and no more than its entry takes. -/
theorem arguments_of_includeRef (ordered : e.Orderly) {type : TypeId} {name : String}
    {live : Option TypeId} {w after : Walk} {node : Node}
    (ran : e.includeRef type name live w = (.ok node, after)) :
    ∃ r, node = .ref r ∧ r.name = name ∧ after.registry.has name = true ∧ w.Grows after ∧
      ((e.program.type type).arguments.slots = [] → r.types = []) ∧
        ∀ held, w.registry.Filled name held → ∀ count,
          after.registry.parameterCount? name = some count → r.types.length ≤ count := by
  obtain ⟨types, visited, wrote, ran⟩ := of_bind_ok ran
  obtain ⟨kept, normal, trimmed, ran⟩ := of_bind_ok ran
  obtain ⟨r, resolved, made, ran⟩ := of_bind_ok ran
  cases made
  cases ran
  obtain ⟨rfl, dropped, bounded⟩ := of_normalizeArguments_ok trimmed
  have grows := ((orderly_visitAll ordered _ w).result wrote).1
  refine ⟨_, rfl, rfl, ?_, grows.trans (Walk.grows_reserve normal name), ?_, ?_⟩
  · exact Registry.has_reserve_self normal.registry name
  · intro none
    rw [typeArguments, visitAll, none] at wrote
    cases wrote
    exact List.prefix_nil.mp dropped
  · intro held filled count known
    have between := grows.filled name held filled
    have same := Registry.parameterCount?_of_filled between (Registry.filled_reserve between name)
    exact bounded count (same ▸ known)

/-- What stands under the name of an exported symbol describes its declaration. -/
inductive Portrays (e : Engine) (symbol : SymbolId) (after : Walk) : Prop
  | named (site written : SiteId)
      (declared : e.program.firstDeclaration (some symbol) = some site)
      (made : after.Made (e.program.symbol symbol).name
        (e.exportedAlias site written (e.program.symbol symbol).name))
  | function (site : SiteId) (signature : Option SignatureId)
      (declared : (e.program.symbol symbol).valueDeclaration = some site)
      (made : after.Made (e.program.symbol symbol).name (e.exportedFunction (some site) signature))
  | value (site : SiteId) (type : Option TypeId)
      (declared : (e.program.symbol symbol).valueDeclaration = some site)
      (made : after.Made (e.program.symbol symbol).name (e.exportedValue site type))
  | type (type : TypeId) (node : Node)
      (declared : e.program.declaredType (some symbol) = .ok (some type))
      (filled : after.registry.Filled (e.program.symbol symbol).name node)
      (made : e.Makes (fun inner => inner.includeNamed (e.entryType type)) node)
  | inline (type : TypeId) (declared : e.program.declaredType (some symbol) = .ok (some type))
      (made : after.Made (e.program.symbol symbol).name (e.includeInline type))
  | imported (scope : ImportScope) (outside : (e.originOf (some symbol)).scope? = some scope)
      (filled : after.registry.Filled (e.program.symbol symbol).name (e.importOf symbol scope))

/-- Why the entry under the bare name of a symbol is that of the type which it declares. -/
inductive Reuses (e : Engine) (bindings : Bindings) (after : Walk) (symbol : SymbolId) (type : TypeId) :
    Prop
  | own (own : e.Own type (e.program.symbol symbol).name)
      (confined : e.Confined (e.program.symbol symbol).name (· = e.entryType type))
      (clear : ∀ other, e.importedAs? after other ≠ some (e.program.symbol symbol).name)
  | imported {scope : ImportScope} (outside : e.Outside type symbol)
      (origin : (e.originOf (some symbol)).scope? = some scope)
      (known : e.importedAs? after symbol = some (e.program.symbol symbol).name)
      (sheltered : e.Sheltered bindings after symbol scope (e.program.symbol symbol).name)
  | inline (anonymous : e.isAnonymous (e.program.symbol symbol).name = true)
      (unaliased : (e.program.type type).alias? = none)
      (inside : (e.originOf (e.program.type type).symbol).scope? = none)

theorem stands_of_bindImport {symbol : SymbolId} {origin : Origin} {scope : ImportScope}
    {w after : Walk} {name : String} (ran : e.bindImport symbol origin scope w = (.ok name, after)) :
    after.Stands name := by
  obtain ⟨bound, named, _, ran⟩ := of_bind_ok ran
  obtain ⟨_, written, wrote, ran⟩ := of_bind_ok ran
  cases ran
  rw [registerImport_apply, Prod.mk.injEq] at wrote
  obtain ⟨-, rfl⟩ := wrote
  by_cases free : (!named.registry.has name || named.registry.isPlaceholder name) = true
  · rw [if_pos free]
    exact ⟨_, Registry.filled_set_self named.registry _ _⟩
  · rw [if_neg free]
    rw [Bool.or_eq_true, Bool.not_eq_true', not_or, Bool.not_eq_false, Bool.not_eq_true] at free
    exact (Walk.stands_of_has free.1).resolve_right (by simp [free.2])

theorem import_of_includeExportedType (ordered : e.Orderly) {type : TypeId} {symbol : SymbolId}
    {scope : ImportScope} (outside : e.Outside type symbol)
    (origin : (e.originOf (some symbol)).scope? = some scope) {w after : Walk}
    (ran : e.includeExportedType type w = (.ok (), after)) :
    ∃ name, e.importedAs? after symbol = some name ∧ after.Stands name := by
  unfold includeExportedType at ran
  cases own : (e.program.type type).symbol with
  | none =>
      simp only [own] at ran
      cases ran
  | some holder =>
      simp only [own] at ran
      obtain ⟨node, between, entered, ended⟩ := of_bind_ok ran
      obtain ⟨inner, visited, rfl⟩ := of_inScope_ok entered
      obtain ⟨r, middle, rfl, first, grows⟩ := outside.bound_of_includeType ordered origin visited
      cases ended
      refine ⟨r.name, ?_, ?_⟩
      · refine importedAs?_later (fun key binding held => ?_) (importedAs?_of_bindImport origin first)
        rw [Walk.bindings_closeScope]
        exact grows.bound key binding held
      · obtain ⟨held, filled⟩ := stands_of_bindImport first
        refine ⟨held, ?_⟩
        rw [Walk.registry_closeScope]
        exact grows.filled _ held filled

/-- What a default export has registered has an entry then, and in the end the entry describes it. -/
theorem portrays_of_exports (fits : e.program.Fits manner ages now) (ordered : e.Orderly)
    {bindings : Bindings} {final : Walk} (attested : final.Bears e e.Attested)
    (found : ∀ symbol scope name node, (e.originOf (some symbol)).scope? = some scope →
      e.Sheltered bindings final symbol scope name → e.importedAs? final symbol = some name →
      final.registry.Filled name node → node = e.importOf symbol scope)
    {symbol : SymbolId} {w after : Walk} (exported : e.Exports symbol w after)
    (unreserved : w.registry.isPlaceholder (e.program.symbol symbol).name = false)
    (kept : ∀ node, after.registry.Filled (e.program.symbol symbol).name node →
      final.registry.Filled (e.program.symbol symbol).name node)
    (bound : ∀ key binding, Table.get? after.bindings key = some binding →
      Table.get? final.bindings key = some binding)
    (reused : RootKind.isTypeSymbol (e.program.symbol symbol) = true → ∀ type,
      e.program.declaredType (some symbol) = .ok (some type) → e.Reuses bindings final symbol type) :
    after.Stands (e.program.symbol symbol).name ∧ e.Portrays symbol final := by
  cases exported with
  | named site written declared made => exact ⟨made.stands, .named site written declared (made.later kept)⟩
  | function site signature declared made =>
      exact ⟨made.stands, .function site signature declared (made.later kept)⟩
  | value site type declared made => exact ⟨made.stands, .value site type declared (made.later kept)⟩
  | type type _ _ isType declared stepped =>
      obtain ⟨-, -, declares⟩ := declares_of_declaredType fits isType declared
      cases reused isType type declared with
      | own own confined clear =>
          obtain ⟨-, entry⟩ :=
            entry_of_includeExportedType fits declares own.unaliased own.inside ordered stepped
          obtain ⟨node, filled⟩ := (entry unreserved).stands
          refine ⟨⟨node, filled⟩, .type type node declared (kept node filled) ?_⟩
          rcases attested.filled _ node (kept node filled) _ confined with
            ⟨_, rfl, made⟩ | ⟨other, _, _, known, _⟩
          · exact made
          · exact absurd known (clear other)
      | imported outside origin known sheltered =>
          obtain ⟨name, registered, node, filled⟩ :=
            import_of_includeExportedType ordered outside origin stepped
          have same := importedAs?_later bound registered
          rw [known, Option.some.injEq] at same
          subst same
          refine ⟨⟨node, filled⟩, .imported _ origin ?_⟩
          have final := kept node filled
          rwa [found symbol _ _ node origin sheltered known final] at final
      | inline anonymous unaliased inside =>
          have made := made_of_includeExportedType fits declares unaliased inside anonymous stepped
          exact ⟨made.stands, .inline type declared (made.later kept)⟩

/-- What the value of a default export refers to in the graph of a run: an entry of its own, or that of
the symbol it names, unless a later root writes over it. -/
inductive Leads (e : Engine) (bindings : Bindings) (rest : List (Option SymbolId)) (site : SiteId)
    (w after : Walk) : Node.Ref Node → Prop
  | function (signature : Option SignatureId)
      (isFunction : (e.program.site site).kind = .functionDeclaration)
      (entry : e.program.Leaves e.settings rest RootKind.syntheticName →
        after.Made RootKind.syntheticName (e.exportedFunction (some site) signature)) :
      Leads e bindings rest site w after { name := RootKind.syntheticName }
  | expression (place : SiteId) (type : Option TypeId)
      (held : (e.program.site site).expression = some place)
      (unnamed : (e.program.site place).symbol = none)
      (entry : e.program.Leaves e.settings rest RootKind.syntheticName →
        after.Made RootKind.syntheticName (e.exportedExpression type)) :
      Leads e bindings rest site w after { name := RootKind.syntheticName }
  | named (place : SiteId) (symbol : SymbolId) (type : TypeId) {r : Node.Ref Node}
      (held : (e.program.site site).expression = some place)
      (called : (e.program.site place).symbol = some symbol)
      (typed : e.program.typeAt (some place) = .ok (some type))
      (name : r.name = (e.program.symbol symbol).name)
      (plain : (e.program.type type).arguments.slots = [] → r.types = [])
      (used : ∀ u, e.Tells u → ∀ mentioned ∈ (Node.ref r).mentions,
        after.registry.has mentioned = true ∨ (Node.ref r).Binds mentioned ∨
          mentioned ∈ u.all (e.program.type type).arguments.slots)
      (entry : r.name ≠ RootKind.defaultName → w.registry.isPlaceholder r.name = false →
        e.program.Leaves e.settings rest r.name →
        (RootKind.isTypeSymbol (e.program.symbol symbol) = true → ∀ declared,
          e.program.declaredType (some symbol) = .ok (some declared) →
          e.Reuses bindings after symbol declared) →
        e.Portrays symbol after ∧
          ∀ count, after.registry.parameterCount? r.name = some count → r.types.length ≤ count) :
      Leads e bindings rest site w after r

section Leads

variable (fits : e.program.Fits manner ages now) (ordered : e.Orderly)
  (opening : ∀ u, e.Tells u → e.Opening u) {bindings : Bindings} {final : Walk}
  (attested : final.Bears e e.Attested)
  (found : ∀ symbol scope name node, (e.originOf (some symbol)).scope? = some scope →
    e.Sheltered bindings final symbol scope name → e.importedAs? final symbol = some name →
    final.registry.Filled name node → node = e.importOf symbol scope)
include fits ordered opening attested found

theorem leads_of_defaultValue {rest : List (Option SymbolId)} {site : SiteId} {w after : Walk}
    {node : Node} (ran : e.defaultValue site w = (.ok node, after))
    (names : ∀ name, after.registry.has name = true → final.registry.has name = true)
    (bound : ∀ key binding, Table.get? after.bindings key = some binding →
      Table.get? final.bindings key = some binding)
    (spared : ∀ name, name ≠ RootKind.defaultName → e.program.Leaves e.settings rest name →
      ∀ node, after.registry.Filled name node → final.registry.Filled name node) :
    ∃ r, node = .ref r ∧ final.registry.has r.name = true ∧ e.Leads bindings rest site w final r := by
  -- the entry is there, so that the reference to it reserves nothing
  have synthetic {between : Walk} (stands : between.Stands RootKind.syntheticName)
      (ran : syntheticRef between = (.ok node, after)) :
      node = .ref { name := RootKind.syntheticName } ∧ after = between := by
    have reserved : between.reserve RootKind.syntheticName = between := by
      rw [Walk.reserve, Registry.reserve_of_has stands.has]
    rw [syntheticRef, bind_ok (resolve_apply _ _ _ _), reserved] at ran
    cases ran
    exact ⟨rfl, rfl⟩
  have own : RootKind.syntheticName ≠ RootKind.defaultName := by decide
  simp only [defaultValue] at ran
  split at ran
  · rename_i isFunction
    obtain ⟨_, between, first, ran⟩ := of_bind_ok ran
    obtain ⟨signature, made⟩ := made_of_includeExportedFunction first
    obtain ⟨rfl, rfl⟩ := synthetic made.stands ran
    exact ⟨_, rfl, names _ made.stands.has, .function signature isFunction fun leaves =>
      made.later (spared _ own leaves)⟩
  · cases held : (e.program.site site).expression with
    | none =>
        simp only [held] at ran
        cases ran
    | some place =>
        simp only [held] at ran
        obtain ⟨type, same, asked, ran⟩ := of_bind_ok ran
        rw [lift_apply, Prod.mk.injEq] at asked
        obtain ⟨asked, rfl⟩ := asked
        cases called : (e.program.site place).symbol with
        | none =>
            simp only [called] at ran
            obtain ⟨_, between, first, ran⟩ := of_bind_ok ran
            have made := made_of_entry first
            obtain ⟨rfl, rfl⟩ := synthetic made.stands ran
            exact ⟨_, rfl, names _ made.stands.has, .expression place type held called fun leaves =>
              made.later (spared _ own leaves)⟩
        | some symbol =>
            simp only [called] at ran
            obtain ⟨_, between, first, ran⟩ := of_bind_ok ran
            obtain ⟨id, same, found', ran⟩ := of_bind_ok ran
            rw [lift_apply, Prod.mk.injEq] at found'
            obtain ⟨found', rfl⟩ := found'
            obtain rfl := of_present found'
            have exported := exports_of_includeNamedDefault fits first
            obtain ⟨r, rfl, name, known, grows, plain, bounded⟩ := arguments_of_includeRef ordered ran
            refine ⟨r, rfl, names _ (name ▸ known), .named place symbol id held called asked name plain ?_ ?_⟩
            · intro u tells mentioned member
              by_cases binds : (Node.ref r).Binds mentioned
              · exact Or.inr (Or.inl binds)
              · have opens : Opens (· ∈ u.all (e.program.type id).arguments.slots)
                    (e.includeRef id (e.program.symbol symbol).name none) Node.Open :=
                  opens_includeRef (opening u tells) _ none fun _ used => used
                rcases opens.opened _ (.ref r) after ran mentioned ⟨member, binds⟩ with known | used
                · exact Or.inl (names _ known)
                · exact Or.inr (Or.inr used)
            · rw [name]
              intro distinct unreserved leaves reused
              have kept := spared _ distinct leaves
              obtain ⟨⟨held, filled⟩, portrays⟩ := portrays_of_exports fits ordered attested found exported
                unreserved (fun node filled => kept node (grows.filled _ node filled))
                (fun key binding given => bound key binding (grows.bound key binding given)) reused
              refine ⟨portrays, fun count counted => bounded held filled count ?_⟩
              have middle := grows.filled _ held filled
              rwa [Registry.parameterCount?_of_filled middle (kept held middle)] at counted

omit fits ordered opening attested found in
theorem of_includeRoot_default {symbol : SymbolId} {w after : Walk}
    (ran : e.includeRoot symbol .default w = (.ok (), after)) :
    ∃ site, (e.program.symbol symbol).declarations.first? = some site ∧
      e.includeDefaultExport site w = (.ok (), after) := by
  simp only [includeRoot, reduceCtorEq, if_false] at ran
  cases first : (e.program.symbol symbol).declarations.first? with
  | none =>
      simp only [first] at ran
      cases ran
  | some site =>
      simp only [first] at ran
      exact ⟨site, rfl, ran⟩

theorem leads_of_includeDefaultExport {rest : List (Option SymbolId)} {site : SiteId} {w after : Walk}
    (ran : e.includeDefaultExport site w = (.ok (), after))
    (names : ∀ name, after.registry.has name = true → final.registry.has name = true)
    (bound : ∀ key binding, Table.get? after.bindings key = some binding →
      Table.get? final.bindings key = some binding)
    (spared : ∀ name, e.program.Leaves e.settings rest name →
      ∀ node, after.registry.Filled name node → final.registry.Filled name node) :
    ∃ r comment, after.registry.Filled RootKind.defaultName (.defaultExport (.ref r) comment) ∧
      final.registry.has r.name = true ∧ e.Leads bindings rest site w final r := by
  obtain ⟨value, between, first, ran⟩ := of_bind_ok ran
  obtain ⟨comment, same, asked, ran⟩ := of_bind_ok ran
  obtain rfl := (Prod.mk.inj asked).2
  cases ran
  have extended := Walk.extends_set between RootKind.defaultName (.defaultExport value comment)
  obtain ⟨r, rfl, known, leads⟩ := leads_of_defaultValue fits ordered opening attested found first
    (fun name known => names name (extended.has known)) bound fun name distinct leaves node filled =>
      spared name leaves node (Registry.filled_set_of_ne _ (Ne.symm distinct) filled)
  exact ⟨r, comment, Registry.filled_set_self _ _ _, known, leads⟩

omit fits ordered opening attested found in
/-- What the entry of a default export leaves open is bound or used by the arguments of its reference. -/
theorem Leads.dangling {rest : List (Option SymbolId)} {site : SiteId} {w : Walk} {r : Node.Ref Node}
    (leads : e.Leads bindings rest site w final r) (known : final.registry.has r.name = true) {g : Graph}
    (graph : g.entries = final.registry.entries) {comment : Option String} {name : String}
    (listed : name ∈ g.danglingIn RootKind.defaultName (.defaultExport (.ref r) comment)) :
    r.types ≠ [] ∧ ∀ u, e.Tells u → (Node.ref r).Binds name ∨ ∃ place type,
      (e.program.site site).expression = some place ∧
        e.program.typeAt (some place) = .ok (some type) ∧
          name ∈ u.all (e.program.type type).arguments.slots := by
  have mentioned : name ∈ (Node.ref r).mentions ∧ final.registry.has name = false := by
    simp only [Graph.danglingIn, List.mem_filter, Bool.and_eq_true, Bool.not_eq_true', graph] at listed
    rw [← Node.mentions_defaultExport (.ref r) comment]
    exact ⟨listed.1, listed.2.1⟩
  have distinct : name ≠ r.name := by
    rintro rfl
    rw [known] at mentioned
    cases mentioned.2
  have applied : r.types ≠ [] := by
    intro none
    rw [Node.mentions_ref, none, Node.mentionsAll_nil, List.mem_singleton] at mentioned
    exact distinct mentioned.1
  refine ⟨applied, fun u tells => ?_⟩
  cases leads with
  | function _ _ _ => exact absurd rfl applied
  | expression _ _ _ _ _ => exact absurd rfl applied
  | named place symbol type held called typed _ _ used _ =>
      rcases used u tells name mentioned.1 with there | binds | used
      · rw [mentioned.2] at there
        cases there
      · exact Or.inl binds
      · exact Or.inr ⟨place, type, held, typed, used⟩

/-- The last default export of a run, if its root succeeds. -/
theorem leads_of_finished {begun after middle : Walk} {exports before rest : List (Option SymbolId)}
    {last : Tally} {x : Extraction} (finished : Finished e begun exports last middle x after)
    (same : final = after) {symbol : SymbolId} (split : exports = before ++ some symbol :: rest)
    (called : (e.program.symbol symbol).name = RootKind.defaultName)
    (others : ∀ other, some other ∈ rest → (e.program.symbol other).name ≠ RootKind.defaultName) :
    ∃ tally w result between,
      before.foldlM (root e) {}
        (begun.emit (started (e.program.symbol e.program.moduleSymbol).name exports.length)) =
          (.ok tally, w) ∧
      e.includeRoot symbol .default w = (result, between) ∧
      (result = .ok () → ∃ site r comment,
        (e.program.symbol symbol).declarations.first? = some site ∧
        Table.get? x.graph.entries RootKind.defaultName = some (.defaultExport (.ref r) comment) ∧
        final.registry.has r.name = true ∧ e.Leads bindings rest site w final r) := by
  subst same
  have sort : RootKind.of? (e.program.symbol symbol) = some .default := by simp [RootKind.of?, called]
  obtain ⟨tally, w, counted, between, first, rooted, ended⟩ := finished.split split
  cases rooted with
  | skipped unsuited _ => cases sort.symm.trans unsuited
  | @failed _ error failed _ suited stepped _ =>
      cases sort.symm.trans suited
      exact ⟨tally, w, .error (.diagnostic error), failed, first, stepped, nofun⟩
  | @extracted _ rooted suited stepped event =>
      cases sort.symm.trans suited
      refine ⟨tally, w, .ok (), rooted, first, stepped, fun _ => ?_⟩
      obtain ⟨site, declared, stepped⟩ := of_includeRoot_default stepped
      let counted : Tally := { tally with extracted := tally.extracted + 1 }
      have extended := (advances_exports ordered fits rest counted).after ended
      obtain ⟨r, comment, filled, known, leads⟩ :=
        leads_of_includeDefaultExport fits ordered opening attested found stepped
          (fun name known => by rw [finished.registry]; exact extended.has known)
          (fun key binding held => by rw [finished.bindings]; exact extended.bound key binding held)
          fun name leaves node filled => by
            have spared := spares_exports fits ordered name leaves counted (rooted.emit event) node filled
            rw [ended] at spared
            rwa [finished.registry]
      refine ⟨site, r, comment, declared, ?_, known, leads⟩
      have spared := spares_roots fits ordered counted others (rooted.emit event) _ filled
      rw [ended] at spared
      rw [finished.graph]
      exact spared.1

end Leads

end Engine

def pickedProgram : Program :=
  (Program.start "src/index.ts").takes
    [.interface { header := { name := "Item", exported := false }
                  members := [("id", .plain (some Program.stringType))] },
     .defaultExport (.symbol ⟨1⟩) none]

def pickedEngine : Engine := .start pickedProgram {} {}

def pickedStart : Walk :=
  Walk.emit {} (Extract.started (pickedProgram.symbol pickedProgram.moduleSymbol).name 1)

def defaultRef? (x : Extraction) : Option (Node.Ref Node) :=
  match Table.get? x.graph.entries RootKind.defaultName with
  | some (.defaultExport (.ref r) _) => some r
  | _ => none

theorem runs_picked : ((extractModule pickedProgram {}).1.isOk &&
    (pickedEngine.includeRoot ⟨3⟩ .default pickedStart).1.isOk) = true := by
  decide +kernel

open Engine in
theorem reuses_picked {after : Walk} : pickedEngine.Reuses [] after ⟨1⟩ ⟨15⟩ := by
  have inside : pickedProgram.Inside {} := Program.inside_of_forall (by decide +kernel)
  have own := Program.local_of_inside inside (Program.unaliased_of_forall (by decide +kernel))
    pickedEngine (program_start _ _ _) (libraries_start _ _ _)
  have title : (pickedEngine.program.symbol ⟨1⟩).name = "Item" := by decide +kernel
  refine .own ?_ ?_ fun other known => ?_
  · rw [title]
    refine ⟨?_, ?_, ?_, ?_, ?_, ?_, ?_⟩ <;> decide +kernel
  · rw [title]
    exact (sole_of_isSole (fun _ => own.inside _) (by decide +kernel)).confined
  · have outside := own.inside (some other)
    unfold importedAs? at known
    split at known <;> simp_all [Origin.scope?]

open Engine in
theorem leads_picked {after : Walk} {r : Node.Ref Node}
    (leads : pickedEngine.Leads [] [] ⟨4⟩ pickedStart after r) :
    r.name = "Item" ∧ r.types = [] ∧ pickedEngine.Portrays ⟨1⟩ after := by
  have kind : (pickedEngine.program.site ⟨4⟩).kind = .exportAssignment := by decide +kernel
  have place : (pickedEngine.program.site ⟨4⟩).expression = some ⟨5⟩ := by decide +kernel
  have target : (pickedEngine.program.site ⟨5⟩).symbol = some ⟨1⟩ := by decide +kernel
  have typed : (pickedEngine.program.siteAnswers (some ⟨5⟩)).type = some (some ⟨15⟩) := by
    decide +kernel
  have title : (pickedEngine.program.symbol ⟨1⟩).name = "Item" := by decide +kernel
  have plain : (pickedEngine.program.type ⟨15⟩).arguments.slots = [] := by decide +kernel
  have declared : (pickedEngine.program.symbolAnswers (some ⟨1⟩)).declared = some (some ⟨15⟩) := by
    decide +kernel
  cases leads with
  | function _ isFunction _ =>
      rw [kind] at isFunction
      cases isFunction
  | expression _ _ held unnamed _ =>
      rw [place] at held
      cases held
      rw [target] at unnamed
      cases unnamed
  | named _ _ _ held called found name unapplied _ entry =>
      rw [place] at held
      cases held
      rw [target] at called
      cases called
      rw [Program.typeAt, Program.recordedType, typed] at found
      cases found
      rw [title] at name
      refine ⟨name, unapplied plain, (entry ?_ rfl ?_ fun _ type answer => ?_).1⟩
      · rw [name]
        decide
      · exact ⟨fun _ member => absurd member List.not_mem_nil,
          fun _ member => absurd member List.not_mem_nil⟩
      · rw [Program.declaredType, declared] at answer
        cases answer
        exact reuses_picked

/-- A value whose type has an argument, which the entry of the value does not take. -/
def appliedProgram : Program :=
  (Program.start "src/index.ts").takes
    [.typeParameter "T" none none,
     .interface { header := { name := "Box" }, typeParameters := [some ⟨15⟩]
                  members := [("v", .plain (some ⟨15⟩))] },
     .instantiate (some ⟨16⟩) [some Program.stringType],
     .variableOf { name := "boxed", exported := false } (some ⟨17⟩) none,
     .defaultExport (.symbol ⟨5⟩) none]

def dottedProgram : Program :=
  (Program.start "src/index.ts").takes
    [.namespaceOf "JSX" (some "g.d.ts"),
     .interface { header := { name := "Element", fileName := some "g.d.ts", exported := false }
                  enclosing := some ⟨1⟩ },
     .defaultExport (.symbol ⟨2⟩) none]

def dottedSettings : Settings := { libraries := { globalPatterns := ["g.d.ts"] } }

/-- An interface of a module, which goes by a numbered name since another interface has its own. -/
def renamedProgram : Program :=
  (Program.start "src/index.ts").takes
    [.interface { header := { name := "X", fileName := some "mod/x.d.ts", exported := false } },
     .interface { header := { name := "X" }, members := [("local", .plain (some Program.booleanType))] },
     .defaultExport (.symbol ⟨1⟩) none]

def pairProgram : Program :=
  (Program.start "src/index.ts").takes
    [.typeParameter "T" none none,
     .tuple [some ⟨15⟩, some ⟨15⟩],
     .aliasType { name := "Pair", exported := false } (some ⟨17⟩) [some ⟨15⟩],
     .defaultExport (.symbol ⟨2⟩) none]

end TypeAtlas
