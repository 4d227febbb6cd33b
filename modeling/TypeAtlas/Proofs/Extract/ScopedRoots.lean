import TypeAtlas.Proofs.Extract.ScopeCheck

/-!
Roots in their scopes, and with them whole runs: a graph without dangling names is well scoped.
-/

namespace TypeAtlas

open Node (Open OpenAll)

/-- A comment leaves nothing open. -/
theorem Node.open_function_comment {c : Node.Callable Node} {comment : Option String} {name : String}
    (opened : (Node.function { c with comment }).Open name) : (Node.function c).Open name := by
  have same : (Node.function { c with comment }).children = (Node.function c).children := by
    simp [Node.children, Node.fields, Node.Slot.nodes]
  refine ⟨by simpa using opened.1, fun binds => opened.2 ?_⟩
  cases binds with
  | own held => cases held
  | inner inside binds => exact .inner (same ▸ inside) binds

namespace Engine

open Extract

section Roots

variable {e : Engine} {u : Usage} (tidying : e.Tidying e u)
include tidying

theorem opens_exportedAlias {site written : SiteId} (name : String)
    (nothing : e.program.exportedAliasUses u site written = []) :
    Opens (fun _ => False) (e.exportedAlias site written name) Open := by
  let binders := e.program.parameterNames (e.program.declaredParameters site) ++
    (e.program.inferredName? (some written)).toList
  have known (other : String) (used : other ∈ e.program.boundUses u (e.program.declaredParameters site) ++
      e.program.annotationUses u (some written)) : other ∈ binders ∨ False := by
    by_cases bound : other ∈ binders
    · exact Or.inl bound
    · have listed : other ∈ e.program.exportedAliasUses u site written :=
        List.mem_filter.mpr ⟨used, decide_eq_true bound⟩
      rw [nothing] at listed
      cases listed
  refine Opens.bound binders ?_ ?_
  · refine opens_bind (opens_reserve name) fun _ => opens_lift_bind fun comment _ => ?_
    refine opens_bind (opens_declaredTypeParameters tidying.opening fun other used =>
      Or.inl (known other (List.mem_append_left _ used))) fun types => ?_
    refine opens_bind (opens_annotated tidying.opening fun other used =>
      Or.inl (Or.inl (known other (List.mem_append_right _ used)))) fun child => ?_
    exact opens_pure fun other opened => (Node.open_aliasOf opened).2.2.imp_left Or.inr
  · intro w node after ran other opened
    obtain ⟨_, _, -, ran⟩ := of_bind_ok ran
    obtain ⟨comment, _, -, ran⟩ := of_bind_ok ran
    obtain ⟨types, _, described, ran⟩ := of_bind_ok ran
    obtain ⟨child, _, annotated, ran⟩ := of_bind_ok ran
    cases ran
    obtain ⟨distinct, inferred, -⟩ := Node.open_aliasOf opened
    intro bound
    rcases List.mem_append.mp bound with bound | bound
    · exact not_mem_parameterNames (declaredTypeParameters_eq described) distinct bound
    · rw [Option.mem_toList] at bound
      exact inferred _ (infer_of_annotated tidying.opening bound annotated) rfl

theorem opens_exportedFunction (site : Option SiteId) {signature : Option SignatureId}
    (nothing : e.program.callUses u [signature] = []) :
    Opens (fun _ => False) (e.exportedFunction site signature) Open := by
  have signed : Opens (fun _ => False) (e.includeSignature signature)
      fun callable => (Node.function callable).Open := by
    refine opens_includeSignature tidying.opening ?_
    rintro id rfl name used
    have listed : name ∈ e.program.callUses u [some id] := by
      simpa [Program.callUses] using used
    rw [nothing] at listed
    cases listed
  refine opens_bind signed fun callable => opens_lift_bind fun site _ => ?_
  exact opens_lift_bind fun comment _ => opens_pure fun name opened =>
    Or.inr (Node.open_function_comment opened)

theorem opens_exportedValue (tells : e.Tells u) (site : SiteId) {type : Option TypeId}
    (nothing : u.of type = []) : Opens (fun _ => False) (e.exportedValue site type) Open := by
  refine opens_lift_bind fun comment _ => opens_lift_bind fun id found => ?_
  obtain rfl := of_present found
  refine opens_bind ((opens_includeType tidying.opening tells id).weaken fun name used => ?_)
    fun value => opens_pure fun name opened => Or.inr (Node.open_const opened)
  rw [show u.named id = [] from nothing] at used
  cases used

theorem opens_exportedExpression (tells : e.Tells u) {type : Option TypeId}
    (nothing : type.elim [] u.inline = []) :
    Opens (fun _ => False) (e.exportedExpression type) Open := by
  refine opens_lift_bind fun id found => ?_
  obtain rfl := of_present found
  refine opens_bind ((opens_includeInline tidying.opening tells id).weaken fun name used => ?_)
    fun value => opens_pure fun name opened => Or.inr (Node.open_const opened)
  rw [show u.inline id = [] from nothing] at used
  cases used

omit tidying in
theorem tidies_rootEntry {name : String} (isRoot : e.program.RootName name) {body : Extract Node}
    (tidies : Tidies e u body) (opens : Opens (fun _ => False) body Open) :
    Tidies e u (Extract.inScope name do Extract.set name (← body)) := by
  intro w _ after ran
  obtain ⟨inner, entered, rfl⟩ := of_inScope_ok ran
  exact tidies_entry (Or.inr isRoot) tidies (opens.narrow fun _ _ opened => opened.1) (.refl _) entered

variable (sound : e.WellScoped u)
include sound

theorem tidies_includeExportedFunction {site : SiteId} {name : String} (isRoot : e.program.RootName name)
    (nothing : e.program.functionUses u site = []) :
    Tidies e u (e.includeExportedFunction (some site) name) := by
  have ways := tidies_ways tidying sound
  refine composes_tidies.bind_of (composes_tidies.lift _) fun _ found _ told => ?_
  refine composes_tidies.bind_of (composes_tidies.lift _) fun _ type _ held => ?_
  refine composes_tidies.bind_of (composes_tidies.lift _) fun _ signatures _ listed => ?_
  rw [lift_apply, Prod.mk.injEq] at told held listed
  obtain rfl := of_present held.1
  split
  · exact composes_tidies.diagnose _
  · rename_i signature rest
    refine tidies_rootEntry isRoot ?_ (opens_exportedFunction tidying _ ?_)
    · refine ways.bind (ways.includeSignature _) fun callable => ?_
      refine ways.bind (ways.lift _) fun site => ?_
      exact ways.bind (ways.lift _) fun comment => ways.pure _
    · simpa [Program.functionUses, Program.siteAnswers_of_typeAt told.1,
        Build.slots_of_each listed.1] using nothing

theorem tidies_includeExportedType (tells : e.Tells u) {type : TypeId} {name : String}
    {manner : Manner} {ages : Ages} {now : Nat} (fits : e.program.Fits manner ages now)
    (declares : e.program.Declares type name) (isRoot : e.program.RootName name)
    (nothing : e.isAnonymous name = true → u.named type = []) :
    Tidies e u (e.includeExportedType type) := by
  obtain ⟨symbol, held, -, called⟩ := declares.1
  intro w _ after ran
  simp only [includeExportedType, held, called] at ran
  obtain ⟨node, between, entered, ran⟩ := of_bind_ok ran
  obtain ⟨inner, visited, rfl⟩ := of_inScope_ok entered
  have visits := tidies_includeType tidying sound type w.openScope node inner visited
  refine (Walk.Tidier.closeScope isRoot visits).trans ?_
  cases anonymous : e.isAnonymous name with
  | false =>
      obtain ⟨r, rfl⟩ := ref_of_declares fits declares anonymous visited
      cases ran
      exact .refl _
  | true =>
      split at ran
      · cases ran
        exact .refl _
      · cases ran
        refine Walk.tidier_set fun _ used opened => Or.inl ?_
        rw [Walk.registry_closeScope]
        refine ((opens_includeType tidying.opening tells type).opened _ node inner visited used
          opened).resolve_right ?_
        rw [nothing anonymous]
        exact List.not_mem_nil

theorem tidies_rootSteps (tells : e.Tells u) {manner : Manner} {ages : Ages} {now : Nat}
    (fits : e.program.Fits manner ages now) : e.RootSteps (Tidies e u) e.program.IsRoot := by
  have ways := tidies_ways tidying sound
  have rootName {symbol : SymbolId} (isRoot : e.program.IsRoot symbol) :
      e.program.RootName (e.program.symbol symbol).name := Or.inr ⟨symbol, isRoot, rfl⟩
  have named (site : SiteId) : Tidies e u (e.declaredName site) := by
    unfold declaredName
    dsimp only
    split
    · exact composes_tidies.pure _
    · exact composes_tidies.diagnose _
  refine
    { composes_tidies with
      exportedAlias := ?_
      exportedFunction := ?_
      exportedType := ?_
      exportedValue := ?_ }
  · intro symbol site isRoot sort placed title
    refine composes_tidies.bind_of (named site) fun w found after ran => ?_
    obtain ⟨rfl, -⟩ := declaredName_eq fits title ran
    split
    · exact composes_tidies.diagnose _
    · rename_i written held
      have nothing := sound.roots symbol site isRoot placed
      simp only [sort, Program.rootUses, held, Option.elim_some] at nothing
      refine tidies_rootEntry (rootName isRoot) ?_ (opens_exportedAlias tidying _ nothing)
      refine ways.bind (tidies_reserve _) fun _ => ?_
      refine ways.bind (ways.lift _) fun comment => ?_
      refine ways.bind (ways.declaredTypeParameters site) fun types => ?_
      exact ways.bind (ways.includeAnnotation _) fun child => ways.pure _
  · intro symbol site isRoot sort placed
    have nothing := sound.roots symbol site isRoot placed
    rw [sort] at nothing
    exact tidies_includeExportedFunction tidying sound (rootName isRoot) nothing
  · intro symbol type isRoot _ declares
    exact tidies_includeExportedType tidying sound tells fits declares (rootName isRoot)
      (sound.anonymous symbol type isRoot declares)
  · intro symbol site isRoot sort placed title
    have nothing := sound.roots symbol site isRoot placed
    simp only [sort, Program.rootUses, Program.valueUses] at nothing
    refine composes_tidies.bind_of (named site) fun w found after ran => ?_
    obtain ⟨rfl, -⟩ := declaredName_eq fits title ran
    have entry {type : Option TypeId} (nothing : u.of type = []) : Tidies e u
        (Extract.inScope (e.program.symbol symbol).name do
          Extract.set (e.program.symbol symbol).name (← e.exportedValue site type)) := by
      refine tidies_rootEntry (rootName isRoot) ?_ (opens_exportedValue tidying tells site nothing)
      refine ways.bind (ways.lift _) fun comment => ?_
      refine ways.bind (ways.lift _) fun type => ?_
      exact ways.bind (tidies_includeType tidying sound type) fun _ => ways.pure _
    dsimp only
    split
    · rename_i written _ held
      simp only [held] at nothing
      refine composes_tidies.bind_of (composes_tidies.lift _) fun _ type _ told => entry ?_
      rw [lift_apply, Prod.mk.injEq] at told
      rwa [Program.usesAt_of_typeWritten told.1] at nothing
    · rename_i expression held initial
      simp only [held, initial] at nothing
      refine composes_tidies.bind_of (composes_tidies.lift _) fun _ type _ told => entry ?_
      rw [lift_apply, Prod.mk.injEq] at told
      rwa [Program.usesAt_of_typeAt told.1] at nothing
    · exact composes_tidies.bind_of (composes_tidies.diagnose _) (by rintro _ _ _ ⟨⟩)

omit tidying sound in
theorem opens_syntheticRef : Opens (fun _ => False) syntheticRef Open :=
  opens_bind (opens_resolve _ none fun _ opened => Node.openAll_nil _ opened) fun _ =>
    opens_pure fun _ => Or.inr

omit sound in
/-- What a default export refers to leaves nothing open that is not registered. -/
theorem registered_of_defaultValue {site : SiteId} (nothing : e.program.rootUses u site .default = [])
    {w after : Walk} {node : Node} (ran : e.defaultValue site w = (.ok node, after)) {used : String}
    (opened : node.Open used) : after.registry.has used = true := by
  have closed {step : Extract Node} {w : Walk} (opens : Opens (fun _ => False) step Open)
      (ran : step w = (.ok node, after)) : after.registry.has used = true :=
    (opens.opened w node after ran used opened).resolve_right id
  unfold Program.rootUses at nothing
  unfold defaultValue at ran
  split at ran
  · obtain ⟨_, _, -, ran⟩ := of_bind_ok ran
    exact closed opens_syntheticRef ran
  · rename_i notFunction
    cases held : (e.program.site site).expression with
    | none =>
        simp only [held] at ran
        cases ran
    | some expression =>
        simp only [held] at ran
        obtain ⟨type, _, told, ran⟩ := of_bind_ok ran
        rw [lift_apply, Prod.mk.injEq] at told
        cases named : (e.program.site expression).symbol with
        | none =>
            simp only [named] at ran
            obtain ⟨_, _, -, ran⟩ := of_bind_ok ran
            exact closed opens_syntheticRef ran
        | some symbol =>
            simp only [named] at ran
            obtain ⟨_, _, -, ran⟩ := of_bind_ok ran
            obtain ⟨id, _, found, ran⟩ := of_bind_ok ran
            rw [lift_apply, Prod.mk.injEq] at found
            obtain rfl := of_present found.1
            refine closed (opens_includeRef tidying.opening _ none fun name used => ?_) ran
            simp only [if_neg notFunction, held, Option.elim_some, Program.expressionUses,
              Program.siteAnswers_of_typeAt told.1, Option.join_some, named, Option.isSome_some,
              if_true] at nothing
            rw [nothing] at used
            cases used

theorem tidies_includeDefaultExport (tells : e.Tells u) {manner : Manner} {ages : Ages} {now : Nat}
    (fits : e.program.Fits manner ages now) {site : SiteId}
    (nothing : e.program.rootUses u site .default = []) : Tidies e u (e.includeDefaultExport site) := by
  have ways := tidies_ways tidying sound
  have reference : Tidies e u syntheticRef :=
    ways.bind (tidies_resolve _ _ _) fun _ => ways.pure _
  have synthetic : e.program.RootName RootKind.syntheticName := Or.inl rfl
  have described : Tidies e u (e.defaultValue site) := by
    have nothing := nothing
    unfold Program.rootUses at nothing
    unfold defaultValue
    dsimp only
    split
    · rename_i isFunction
      rw [if_pos isFunction] at nothing
      exact ways.bind (tidies_includeExportedFunction tidying sound synthetic nothing) fun _ => reference
    · rename_i notFunction
      rw [if_neg notFunction] at nothing
      split
      · exact ways.diagnose _
      · rename_i expression held
        rw [held, Option.elim_some] at nothing
        refine ways.bind_of (ways.lift _) fun _ type _ told => ?_
        rw [lift_apply, Prod.mk.injEq] at told
        split
        · rename_i symbol named
          have isRoot : e.program.IsRoot symbol := .named ⟨expression, held, named⟩
          refine ways.bind ((tidies_rootSteps tidying sound tells fits).includeNamedDefault fits isRoot)
            fun _ => ?_
          exact ways.bind (ways.lift _) fun type => tidies_includeRef tidying type _ none
        · rename_i unnamed
          refine ways.bind (tidies_rootEntry synthetic ?_
            (opens_exportedExpression tidying tells ?_)) fun _ => reference
          · refine ways.bind (ways.lift _) fun type => ?_
            exact ways.bind (ways.includeInline type) fun _ => ways.pure _
          · unfold Program.expressionUses at nothing
            rw [Program.siteAnswers_of_typeAt told.1] at nothing
            cases type with
            | none => rfl
            | some type => simpa [unnamed] using nothing
  intro w _ after ran
  obtain ⟨value, between, valued, ran⟩ := of_bind_ok ran
  obtain ⟨comment, same, told, ran⟩ := of_bind_ok ran
  rw [lift_apply, Prod.mk.injEq] at told
  obtain ⟨-, rfl⟩ := told
  cases ran
  refine (described w value between valued).trans (Walk.tidier_set fun _ used opened => Or.inl ?_)
  exact registered_of_defaultValue tidying nothing valued (Node.open_defaultExport opened)

theorem tidies_includeRoot (tells : e.Tells u) {manner : Manner} {ages : Ages} {now : Nat}
    (fits : e.program.Fits manner ages now) {symbol : SymbolId} (isRoot : e.program.IsRoot symbol)
    {kind : RootKind} (suited : RootKind.of? (e.program.symbol symbol) = some kind) :
    Tidies e u (e.includeRoot symbol kind) := by
  refine (tidies_rootSteps tidying sound tells fits).includeRoot fits suited (fun _ => isRoot) ?_
  rintro rfl site first
  exact tidies_includeDefaultExport tidying sound tells fits
    (sound.defaults symbol site isRoot (of?_cases suited) (.first first))

end Roots

theorem tidying_start {p : Program} {settings : ExtractionSettings} {libraries : LibrarySettings}
    {u : Usage} (tells : (start p settings libraries).Tells u)
    (sound : (start p settings libraries).WellScoped u) :
    (start p settings libraries).Tidying (start p settings libraries) u := by
  have tidying := tidying_inner tells sound (depthBound p) (entryBound p) (depthBound p)
  rwa [program_start, settings_start, libraries_start] at tidying

end Engine

open Engine Extract in
/-- In a graph without dangling names every reference of an entry leads to an entry or is bound in the
entry, unless it is what a member uses that is declared elsewhere and listed again. -/
theorem extractModule_scoped {p : Program} {allowed : Call → Program → Prop} (built : p.Built allowed)
    (settings : Settings) {u : Usage}
    (tells : (start p settings.extraction settings.libraries).Tells u)
    (sound : (start p settings.extraction settings.libraries).WellScoped u) (bindings : Bindings)
    (elapsed : Data) {x : Extraction} {after : Walk}
    (ran : extractModule p settings bindings elapsed = (.ok x, after)) (unfailed : x.failures = [])
    (accounted : x.dangling = []) :
    ∀ name node, (name, node) ∈ x.graph.entries → ∀ mentioned ∈ node.mentions,
      Table.has x.graph.entries mentioned = true ∨ node.Binds mentioned ∨
        (start p settings.extraction settings.libraries).Repeated u name node mentioned := by
  let e := start p settings.extraction settings.libraries
  obtain ⟨ages, fits⟩ := fits_start built settings.extraction settings.libraries
  have ordered : e.Orderly := orderly_start _ _ _
  have tidying : e.Tidying e u := tidying_start tells sound
  obtain ⟨exports, tally, final, finished⟩ := finished_of_exportsOf ran
  rw [finished.graph]
  rw [finished.dangling] at accounted
  rw [finished.failures] at unfailed
  have reached : final.Reachable :=
    ((advances_exports ordered fits exports {}).after finished.ran).reachable
      ((Walk.Reachable.fresh bindings).emit _)
  have complete : final.Complete := Walk.complete_of_dangling_eq_nil reached accounted
  have begun : Walk.Tidy { bindings } e u := ⟨fun _ _ _ => rfl, fun _ _ filled => by cases filled.1⟩
  have tidy : final.Tidy e u := by
    have emits (w : Walk) (event : Event) (tidy : w.Tidy e u) : (w.emit event).Tidy e u :=
      ⟨tidy.fresh, tidy.closed⟩
    refine holds_of_roots (·.Tidy e u) emits ?_ finished.ran (fun _ => emits _ _ begun) unfailed
    intro symbol member kind suited w after stepped
    exact (tidies_includeRoot tidying sound tells fits (.exported finished.listed member) suited
      w () after stepped).tidy
  intro name node entry mentioned member
  have filled : final.registry.Filled name node :=
    ⟨Table.get?_of_mem reached.nodup entry, complete.2 name⟩
  by_cases bound : node.Binds mentioned
  · exact Or.inr (Or.inl bound)
  · rcases tidy.closed name node filled mentioned ⟨member, bound⟩ with known | repeated | ⟨none, -⟩
    · exact Or.inl known
    · exact Or.inr (Or.inr repeated)
    · left
      refine (complete.1 name node filled mentioned member).resolve_right ?_
      rw [none]
      exact List.not_mem_nil

/-- A generic interface with a generic method, and a function of an instance of it and of a variable to
infer. -/
def boxProgram : Program :=
  (Program.start "src/index.ts").takes
    [.typeParameter "T" none none, .typeParameter "U" none none,
     .interface
      { header := { name := "Box" }, typeParameters := [some ⟨15⟩]
        members := [("value", .plain (some ⟨15⟩)),
          ("map", .method
            { parameters := [{ name := "to", type := some ⟨16⟩ }], returns := some ⟨15⟩
              typeParameters := [some ⟨16⟩] })] },
     .instantiate (some ⟨17⟩) [some Program.stringType], .infer "V",
     .function { name := "open" }
      { parameters := [{ name := "box", type := some ⟨19⟩ }, { name := "as", type := some ⟨20⟩ }]
        returns := some ⟨19⟩ }]

def boxNamed : List (List String) :=
  List.replicate 15 [] ++ [["T"], ["U"], [], ["T"], [], ["V"], []]

def boxInline : List (List String) := List.replicate 15 [] ++ [[], [], [], ["T"]]

theorem runs_box : (match (extractModule boxProgram {}).1 with
    | .ok x => x.failures.isEmpty && x.dangling.isEmpty && x.graph.names == ["Box", "open"]
    | .error _ => false) = true := by
  decide +kernel

open Engine in
theorem extractModule_scoped_box : ∃ x after, extractModule boxProgram {} = (.ok x, after) ∧
    x.graph.names = ["Box", "open"] ∧
    ∀ name node, (name, node) ∈ x.graph.entries → ∀ mentioned ∈ node.mentions,
      Table.has x.graph.entries mentioned = true ∨ node.Binds mentioned ∨
        (start boxProgram {} {}).Repeated (Usage.listed boxNamed boxInline) name node mentioned := by
  have built : boxProgram.Built fun _ _ => True := built_of_specs (by decide +kernel)
  have tells : (start boxProgram {} {}).Tells (Usage.listed boxNamed boxInline) :=
    tells_of_isTold (by decide +kernel)
  have sound : (start boxProgram {} {}).WellScoped (Usage.listed boxNamed boxInline) :=
    wellScoped_of_isWellScoped (by decide +kernel)
  have extracted := runs_box
  rcases ran : extractModule boxProgram {} with ⟨fault | x, after⟩
  · rw [ran] at extracted
    cases extracted
  · rw [ran] at extracted
    simp only [Bool.and_eq_true, List.isEmpty_iff, beq_iff_eq] at extracted
    obtain ⟨⟨unfailed, accounted⟩, names⟩ := extracted
    exact ⟨x, after, rfl, names,
      extractModule_scoped built {} tells sound [] .null ran unfailed accounted⟩

def inferringProgram : Program :=
  (Program.start "src/index.ts").takes
    [.typeParameter "T" none none, .infer "U",
     .conditional (some ⟨15⟩) (some ⟨16⟩) (some ⟨16⟩) (some Program.neverType),
     .aliasType { name := "Inner" } (some ⟨17⟩) [some ⟨15⟩]]

theorem runs_inferring : (match (extractModule inferringProgram {}).1 with
    | .ok x => x.failures.isEmpty && x.dangling.isEmpty && !Table.has x.graph.entries "U" &&
        match Table.get? x.graph.entries "Inner" with
        | some node => node.mentions.contains "U" && !node.binders.contains "U"
        | none => false
    | .error _ => false) = true := by
  decide +kernel

/-- The variable that a condition introduces is bound nowhere in the entry and has none of its own. -/
theorem extractModule_infers_unbound :
    inferringProgram.Built (fun _ _ => True) ∧
      (inferringProgram.type ⟨17⟩).extendsType = some ⟨16⟩ ∧
      (inferringProgram.type ⟨17⟩).trueType = some ⟨16⟩ ∧
      ∃ x after node, extractModule inferringProgram {} = (.ok x, after) ∧ x.failures = [] ∧
        x.dangling = [] ∧ Table.get? x.graph.entries "Inner" = some node ∧ "U" ∈ node.mentions ∧
        Table.has x.graph.entries "U" = false ∧ ¬ node.Binds "U" := by
  refine ⟨built_of_specs (by decide +kernel), by decide +kernel, by decide +kernel, ?_⟩
  have extracted := runs_inferring
  rcases ran : extractModule inferringProgram {} with ⟨fault | x, after⟩
  · rw [ran] at extracted
    cases extracted
  · rw [ran] at extracted
    simp only [Bool.and_eq_true, List.isEmpty_iff, Bool.not_eq_true'] at extracted
    obtain ⟨⟨⟨unfailed, accounted⟩, without⟩, described⟩ := extracted
    cases entry : Table.get? x.graph.entries "Inner" with
    | none =>
        rw [entry] at described
        cases described
    | some node =>
        simp only [entry, Bool.and_eq_true, List.contains_iff_mem, Bool.not_eq_true'] at described
        refine ⟨x, after, node, rfl, unfailed, accounted, entry, described.1, without, fun binds => ?_⟩
        simpa [Node.mem_binders.mpr binds] using described.2

end TypeAtlas
