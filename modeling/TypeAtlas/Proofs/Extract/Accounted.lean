import TypeAtlas.Proofs.Builder.Call
import TypeAtlas.Proofs.Extract.Roots
import TypeAtlas.Proofs.Extract.Tally
import TypeAtlas.Proofs.Gather
import TypeAtlas.Proofs.Graph.Dangling
import TypeAtlas.Proofs.Program.Tame

/-!
A run without failures accounts for every name: no name is only reserved, the bases of a built program
become references, its default exports without a name get an entry of their own. So nothing is left
dangling: what an entry mentions is registered or belongs to the names that the entry declares.
-/

namespace TypeAtlas

namespace Walk

theorem Reachable.nodup {w : Walk} (reached : w.Reachable) : w.registry.names.Nodup := by
  induction reached with
  | fresh bindings => exact List.nodup_nil
  | set name node _ ih => exact Table.nodup_put name node ih
  | @reserve w name _ ih =>
      change (w.registry.reserve name).names.Nodup
      unfold Registry.reserve
      split
      · exact ih
      · exact Table.nodup_put name _ ih
  | declareLocal name _ ih => rwa [registry_declareLocal]
  | openScope _ ih => exact ih
  | closeScope name _ ih => rwa [registry_closeScope]
  | bind home name _ ih => rwa [registry_bind]
  | emit event _ ih => exact ih
  | count _ ih => exact ih

/-- Entries are complete when nothing is only reserved and each mentions known names. -/
def Complete (w : Walk) : Prop :=
  w.Covered ∧ ∀ name, w.registry.isPlaceholder name = false

theorem Complete.accounted {w : Walk} (complete : w.Complete) (reached : w.Reachable)
    {name : String} {node : Node} (entry : (name, node) ∈ w.registry.entries) {mentioned : String}
    (member : mentioned ∈ node.mentions) :
    w.registry.has mentioned = true ∨ mentioned ∈ w.localsOf name := by
  have found : w.registry.get? name = some node := Table.get?_of_mem reached.nodup entry
  exact complete.1 name node ⟨found, complete.2 name⟩ mentioned member

/-- Where nothing dangles, every entry has its body, and what it mentions is registered or its own. -/
theorem complete_of_dangling_eq_nil {w : Walk} (reached : w.Reachable)
    (accounted : Extract.danglingOf w = []) : w.Complete := by
  have nothing (name : String) : name ∉ (Extract.graphOf w).dangling ++ w.registry.unfilled := by
    intro held
    have listed : name ∈ Extract.danglingOf w := mem_dedup_iff.mpr held
    rw [accounted] at listed
    cases listed
  refine ⟨fun name node filled mentioned member => ?_, fun name => ?_⟩
  · by_contra unknown
    rw [not_or, Bool.not_eq_true] at unknown
    refine nothing mentioned (List.mem_append_left _ (mem_dedup_iff.mpr ?_))
    refine List.mem_flatMap.mpr ⟨(name, node), Table.mem_of_get? filled.1, ?_⟩
    refine List.mem_filter.mpr ⟨member, ?_⟩
    have missing : Table.has w.registry.entries mentioned = false := unknown.1
    simpa [Extract.graphOf, missing, localsOf] using unknown.2
  · refine Bool.eq_false_iff.mpr fun reserved => ?_
    have known := (w.registry.has_iff name).mp (Registry.has_of_get? (reached.bare name reserved))
    exact nothing name (List.mem_append_right _ (List.mem_filter.mpr ⟨known, reserved⟩))

theorem Complete.dangling_eq_nil {w : Walk} (complete : w.Complete) (reached : w.Reachable) :
    Extract.danglingOf w = [] := by
  rw [List.eq_nil_iff_forall_not_mem]
  intro name member
  rcases List.mem_append.mp (mem_dedup_iff.mp member) with referred | reserved
  · obtain ⟨⟨owner, node⟩, entry, unknown⟩ := List.mem_flatMap.mp (mem_dedup_iff.mp referred)
    simp only [Graph.danglingIn, List.mem_filter, Bool.and_eq_true, Bool.not_eq_true'] at unknown
    obtain ⟨mentioned, missing, foreign⟩ := unknown
    rcases complete.accounted reached entry mentioned with known | own
    · have absent : w.registry.has name = false := missing
      rw [known] at absent
      cases absent
    · have listed : ((Table.get? w.localNames owner).getD []).contains name = true := by
        simpa [localsOf] using own
      simp only [Extract.graphOf] at foreign
      rw [listed] at foreign
      cases foreign
  · have placed := (List.mem_filter.mp reserved).2
    rw [complete.2 name] at placed
    cases placed

end Walk

namespace Extract

def Tally.Sound (tally : Tally) (w : Walk) : Prop :=
  w.Reachable ∧ (tally.failures = [] → w.Complete)

theorem complete_after {step : Extract Unit} (clean : Clean step) {w after : Walk}
    (ran : step w = (.ok (), after)) (complete : w.Complete) : after.Complete := by
  refine ⟨clean.covered w () after ran complete.1, ?_⟩
  intro name
  cases reserved : after.registry.isPlaceholder name with
  | false => rfl
  | true =>
      have before := clean.settled w () after ran name reserved
      rw [complete.2 name] at before
      cases before

theorem complete_emit {w : Walk} (complete : w.Complete) (event : Event) :
    (w.emit event).Complete :=
  complete_after (clean_emit event) (emit_apply event w) complete

theorem sound_roots {e : Engine} (clean : ∀ symbol kind, Clean (e.includeRoot symbol kind))
    {exports : List (Option SymbolId)} {tally found : Tally} {w after : Walk} (sound : tally.Sound w)
    (ran : exports.foldlM (root e) tally w = (.ok found, after)) : found.Sound after := by
  have advances : Advances (exports.foldlM (root e) tally) :=
    advances_roots (fun symbol _ kind _ => (clean symbol kind).advances) tally
  refine ⟨(advances.after ran).reachable sound.1, ?_⟩
  have emits (w : Walk) (event : Event) (complete : w.Complete) := complete_emit complete event
  refine holds_of_roots Walk.Complete emits ?_ ran sound.2
  exact fun symbol _ kind _ _ _ stepped complete => complete_after (clean symbol kind) stepped complete

/-- Whatever the roots of a module are, a run without failures ends with complete entries. -/
theorem complete_of_exportsOf {e : Engine} (clean : ∀ symbol kind, Clean (e.includeRoot symbol kind))
    {elapsed : Data} {w after : Walk} {x : Extraction} (fresh : Tally.Sound {} w)
    (ran : exportsOf e elapsed w = (.ok x, after)) (unfailed : x.failures = []) :
    ∃ final : Walk, final.Reachable ∧ final.Complete ∧ x.graph = graphOf final ∧
      x.dangling = danglingOf final ∧ after.registry = final.registry := by
  obtain ⟨exports, tally, final, finished⟩ := finished_of_exportsOf ran
  have begun : Tally.Sound {} (w.emit (started (e.program.symbol e.program.moduleSymbol).name
      exports.length)) :=
    ⟨fresh.1.emit _, fun unfailed => complete_emit (fresh.2 unfailed) _⟩
  obtain ⟨reached, complete⟩ := sound_roots clean begun finished.ran
  rw [finished.failures] at unfailed
  exact ⟨final, reached, complete unfailed, finished.graph, finished.dangling, finished.registry⟩

end Extract

namespace Program

def isBase (p : Program) (type : TypeId) : Bool :=
  (p.type type).symbol.any (fun symbol => (p.symbol symbol).isNominal) || (p.type type).alias?.isSome

/-- Heritage clauses lead to such types only. -/
def BasesFit (p : Program) : Prop :=
  ∀ declaration, ∀ clause ∈ (p.site declaration).heritage, ∀ site, some site ∈ clause.types →
    ∀ base, p.typeAt (some site) = .ok (some base) → p.isBase base = true

def leadsToBases (p : Program) (s : Site) : Bool :=
  s.heritage.all fun clause => clause.types.all fun place => place.all fun site =>
    match p.typeAt (some site) with
    | .ok (some base) => p.isBase base
    | _ => true

theorem basesFit_of_leadsToBases {p : Program}
    (each : ∀ s ∈ p.sites.toList, p.leadsToBases s = true) : p.BasesFit := by
  intro declaration clause held site listed base recorded
  have leads := p.site_of_forall (fun s => p.leadsToBases s = true) rfl each declaration
  simp only [leadsToBases, List.all_eq_true] at leads
  have fit := leads clause held (some site) listed
  simpa only [Option.all_some, recorded] using fit

end Program

variable {manner : Manner} {ages : Ages} {now : Nat} {p : Program}

namespace Engine

open Build

theorem nameOf_cases {e : Engine} {info : TypeInfo} {symbol : SymbolId}
    (held : info.symbol = some symbol) :
    e.nameOf info = some (e.program.symbol symbol).name ∨
      ∃ named, info.alias? = some named ∧ e.nameOf info = some (e.program.symbol named).name ∧
        (e.program.symbol named).name.isEmpty = false := by
  unfold nameOf
  rw [held]
  cases aliased : info.alias? with
  | none => exact Or.inl rfl
  | some named =>
      simp only [Option.map_some]
      split
      · exact Or.inl rfl
      · rename_i nonempty
        exact Or.inr ⟨named, rfl, rfl, by simpa using nonempty⟩

/-- A type with a symbol is known by the name of that, or by that of an alias, which is never the symbol
of the type. -/
theorem referable_of_symbol {e : Engine} (fits : e.program.Fits manner ages now) {type : TypeId}
    {symbol : SymbolId} (held : (e.program.type type).symbol = some symbol)
    (nonempty : (e.program.symbol symbol).name.isEmpty = false)
    (usable : (e.program.type type).alias? = none →
      (e.program.type type).isAnonymousObject = false ∧
        e.isAnonymous (e.program.symbol symbol).name = false) : e.Referable type := by
  have typeFits := fits.types type
  have plain : (e.program.type type).keyofOperand? = none := by
    unfold TypeInfo.keyofOperand?
    cases flagged : (e.program.type type).hasFlag .index with
    | false => rfl
    | true =>
        rw [typeFits.keyof flagged] at held
        cases held
  cases aliased : (e.program.type type).alias? with
  | none =>
      have own : e.nameOf (e.program.type type) = some (e.program.symbol symbol).name := by
        unfold nameOf
        rw [aliased, held]
        rfl
      obtain ⟨object, named⟩ := usable aliased
      exact ⟨plain, _, own, nonempty, Or.inr ⟨object, named, by rw [held]; rfl⟩⟩
  | some other =>
      have name : ∃ name, e.nameOf (e.program.type type) = some name ∧ name.isEmpty = false := by
        rcases nameOf_cases (e := e) held with own | ⟨other, _, called, given⟩
        · exact ⟨_, own, nonempty⟩
        · exact ⟨_, called, given⟩
      have apart : (e.program.type type).alias? ≠ (e.program.type type).symbol := by
        rw [aliased, held]
        intro equal
        cases equal
        have plain := (typeFits.symbol symbol held).2
        rw [(typeFits.aliased symbol aliased).1] at plain
        cases plain
      obtain ⟨name, called, given⟩ := name
      exact ⟨plain, name, called, given, Or.inl ⟨by rw [aliased]; rfl, apart⟩⟩

theorem referable_of_isBase {e : Engine} (fits : e.program.Fits manner ages now)
    (named : e.program.NominalsNamed e.settings) {base : TypeId} (isBase : e.program.isBase base = true)
    {symbol : SymbolId} (held : (e.program.type base).symbol = some symbol)
    (nonempty : (e.program.symbol symbol).name.isEmpty = false) : e.Referable base := by
  refine referable_of_symbol fits held nonempty fun unaliased => ?_
  rw [Program.isBase, held, Option.any_some, unaliased, Option.isSome_none, Bool.or_false] at isBase
  obtain ⟨flags, nominal | reference⟩ := (fits.types base).declared symbol held isBase
  · refine ⟨?_, named symbol isBase⟩
    rw [TypeInfo.isAnonymousObject, ((fits.types base).nominal nominal).2.2.1, Bool.and_false]
  · refine ⟨?_, named symbol isBase⟩
    rw [TypeInfo.isAnonymousObject, TypeInfo.hasObjectFlag, reference]
    exact Bool.and_false _

theorem basesNamed_of_fits {settings : ExtractionSettings} {libraries : LibrarySettings}
    (fits : p.Fits manner ages now) (named : p.NominalsNamed settings) (bases : p.BasesFit) :
    BasesNamed { program := p, settings, libraries } := by
  intro declaration clause held site listed base recorded
  have isBase := bases declaration clause held site listed base recorded
  have written := (fits.sites declaration).heritage clause held site listed
  obtain ⟨-, place, expression, identifier, name, -⟩ :=
    (fits.sites site).base written base (answer_of_typeAt recorded)
  have given : baseName { program := p, settings, libraries } site = (p.site place).name := by
    unfold baseName
    rw [expression]
    exact if_pos identifier
  rw [given, name]
  cases has : (p.type base).symbol with
  | none => exact Or.inl rfl
  | some symbol =>
      by_cases unnamed : (p.symbol symbol).name = ""
      · exact Or.inl unnamed
      · right
        exact referable_of_isBase (e := { program := p, settings, libraries }) fits named isBase has
          (by simpa using unnamed)

theorem defaultsNameless_of_fits (fits : p.Fits manner ages now) (nameless : manner.nameless) :
    DefaultsNameless p := by
  intro site expression held
  obtain ⟨-, kind⟩ := (fits.sites site).expression expression held
  exact (fits.sites expression).nameless nameless kind

end Engine

open Engine Extract in
theorem complete_of_extractModule (fits : p.Fits manner ages now) (nameless : manner.nameless)
    {settings : Settings} (named : p.NominalsNamed settings.extraction) (bases : p.BasesFit)
    {bindings : Bindings} {elapsed : Data} {x : Extraction} {after : Walk}
    (ran : extractModule p settings bindings elapsed = (.ok x, after)) (unfailed : x.failures = []) :
    ∃ final : Walk, final.Reachable ∧ final.Complete ∧ x.graph = graphOf final ∧
      x.dangling = danglingOf final ∧ after.registry = final.registry := by
  have covering := covering_start settings.libraries (basesNamed_of_fits fits named bases)
  have clean (symbol : SymbolId) (kind : RootKind) :
      Clean ((start p settings.extraction settings.libraries).includeRoot symbol kind) :=
    clean_includeRoot covering (orderly_start p settings.extraction settings.libraries)
      (defaultsNameless_of_fits fits nameless) symbol kind
  have fresh : Tally.Sound {} { bindings } := by
    refine ⟨.fresh bindings, fun _ => ⟨?_, fun _ => rfl⟩⟩
    intro name node filled
    cases filled.1
  exact complete_of_exportsOf clean fresh ran unfailed

open Engine Extract in
/-- What a run without failures over a built program leaves behind: nothing dangles, no name is only
reserved, and every reference in an entry leads to an entry or to a name that the entry declares. -/
theorem extractModule_accounted (built : p.Built fun call _ => call.Nameless) (settings : Settings)
    (named : p.NominalsNamed settings.extraction) (bases : p.BasesFit) (bindings : Bindings)
    (elapsed : Data) {x : Extraction} {after : Walk}
    (ran : extractModule p settings bindings elapsed = (.ok x, after)) (unfailed : x.failures = []) :
    x.dangling = [] ∧ x.graph.entries = after.registry.entries ∧
      (∀ name, after.registry.isPlaceholder name = false) ∧
      ∀ name node, (name, node) ∈ x.graph.entries → ∀ mentioned ∈ node.mentions,
        Table.has x.graph.entries mentioned = true ∨
          mentioned ∈ (Table.get? x.graph.localNames name).getD [] := by
  obtain ⟨ages, live⟩ := live_of_built { disciplined := False, nameless := True } built
    fun call p nameless => ⟨False.elim, fun _ => nameless⟩
  obtain ⟨final, reached, complete, graph, dangling, same⟩ :=
    complete_of_extractModule live.toFits trivial named bases ran unfailed
  rw [graph, dangling, same]
  refine ⟨complete.dangling_eq_nil reached, rfl, complete.2, ?_⟩
  intro name node entry mentioned member
  exact complete.accounted reached entry member

def familyCalls : List Call :=
  [.interface { header := { name := "Base" }, members := [("id", .plain (some Program.stringType))] },
   .interface { header := { name := "Leaf" }, bases := [some ⟨15⟩] },
   .addMembers (some ⟨16⟩) [("next", .plain (some ⟨16⟩))]]

def familyProgram : Program := (Program.start "src/index.ts").takes familyCalls

theorem built_family : familyProgram.Built fun call _ => call.Nameless := by
  refine Program.built_takes (fun call _ => call.isNameless) ?_ (.start _ _) ?_
  · exact fun call _ checked => Call.nameless_of_isNameless checked
  · decide +kernel

theorem extracts_family : (match (extractModule familyProgram {}).1 with
    | .ok x => x.failures.isEmpty && x.graph.names == ["Base", "Leaf"]
    | .error _ => false) = true := by
  decide +kernel

theorem extractModule_family : ∃ x after, extractModule familyProgram {} = (.ok x, after) ∧
    x.failures = [] ∧ x.graph.names = ["Base", "Leaf"] ∧ x.dangling = [] ∧
    after.registry.isPlaceholder "Leaf" = false := by
  have named : familyProgram.NominalsNamed {} := Program.nominalsNamed_of_forall (by decide +kernel)
  have bases : familyProgram.BasesFit := Program.basesFit_of_leadsToBases (by decide +kernel)
  have extracted := extracts_family
  rcases ran : extractModule familyProgram {} with ⟨fault | x, after⟩
  · rw [ran] at extracted
    cases extracted
  · rw [ran] at extracted
    simp only [Bool.and_eq_true, List.isEmpty_iff, beq_iff_eq] at extracted
    obtain ⟨unfailed, names⟩ := extracted
    obtain ⟨dangling, -, filled, -⟩ :=
      extractModule_accounted built_family {} named bases [] .null ran unfailed
    exact ⟨x, after, rfl, unfailed, names, dangling, filled "Leaf"⟩

end TypeAtlas
