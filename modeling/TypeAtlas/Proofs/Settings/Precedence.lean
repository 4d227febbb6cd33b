import TypeAtlas.Proofs.Settings.Sources

/-!
Setting by setting, what is loaded is what the highest source has for it, and the built-in value
where no source has anything.
-/

namespace TypeAtlas

open Data Read

namespace Checked

variable {α β : Type}

theorem of_map_ok {f : α → β} {x : Checked α} {b : β} (ran : f <$> x = .ok b) :
    ∃ a, x = .ok a ∧ f a = b := by
  cases x with
  | ok a => exact ⟨a, rfl, Checked.ok.inj ran⟩
  | bad _ => cases ran

theorem of_seq_ok {f : Checked (α → β)} {x : Checked α} {b : β} (ran : f <*> x = .ok b) :
    ∃ g a, f = .ok g ∧ x = .ok a ∧ g a = b := by
  cases f with
  | ok g =>
      cases x with
      | ok a => exact ⟨g, a, rfl, rfl, Checked.ok.inj ran⟩
      | bad _ => cases ran
  | bad _ => cases x <;> cases ran

theorem of_under_ok {step : Step} {x : Checked α} {a : α} (ran : x.under step = .ok a) :
    x = .ok a := by
  cases x with
  | ok _ => exact ran
  | bad _ => cases ran

theorem of_toExcept_ok {x : Checked α} {a : α} (ran : x.toExcept = .ok a) : x = .ok a := by
  cases x with
  | ok _ => exact congrArg Checked.ok (Except.ok.inj ran)
  | bad violations =>
      rw [toExcept] at ran
      split at ran <;> cases ran

theorem of_inOrder_ok {ι : Type} {read : ι → Checked β} {items : List ι} {values : List β}
    (ran : inOrder (items.map read) = .ok values) :
    List.Forall₂ (fun item value => read item = .ok value) items values := by
  induction items generalizing values with
  | nil => cases ran; exact .nil
  | cons item rest ih =>
      obtain ⟨_, later, front, second, rfl⟩ := of_seq_ok ran
      obtain ⟨value, first, rfl⟩ := of_map_ok front
      exact .cons first (ih second)

end Checked

open Checked

theorem Read.of_part_ok {α : Type} {name : String} {read : Table String Data → Checked α}
    {input : Data} {value : α} (ran : part name read input = .ok value) :
    input.isMap = true ∧ read input.named = .ok value := by
  cases input <;> first | exact ⟨rfl, ran⟩ | cases ran

theorem Read.of_optional_ok {α : Type} {fields : Table String Data} {name : String}
    {builtIn value : α} {read : Data → Checked α}
    (ran : optional fields name builtIn read = .ok value) :
    (∃ input, Table.get? fields name = some input ∧ read input = .ok value) ∨
      Table.get? fields name = none ∧ value = builtIn := by
  unfold optional find? at ran
  cases found : Table.get? fields name with
  | some input =>
      rw [found] at ran
      exact .inl ⟨input, rfl, of_under_ok ran⟩
  | none =>
      rw [found] at ran
      exact .inr ⟨rfl, (Checked.ok.inj ran).symm⟩

/-- The value is read from what is found along the path, on which there are only maps; where nothing
is found, it is the built-in one. -/
structure ReadAt {α : Type} (d : Data) (path : List String) (read : Data → Checked α)
    (builtIn value : α) : Prop where
  isOpen : d.closes path = false
  found : ∀ input, d.at? path = some input → read input = .ok value
  absent : d.at? path = none → value = builtIn

namespace ReadAt

variable {α β : Type} {d : Data}

theorem here {read : Data → Checked α} {builtIn value : α} (reads : read d = .ok value) :
    ReadAt d [] read builtIn value :=
  ⟨rfl, fun _ same => Option.some.inj same ▸ reads, nofun⟩

theorem field {name : String} {rest : List String} {inner : Data → Checked β} {builtIn value : β}
    {read : Data → Checked α} (get : β → α) (mapped : d.isMap = true)
    (ran : optional d.named name builtIn inner = .ok value)
    (below : ∀ input, inner input = .ok value → ReadAt input rest read (get builtIn) (get value)) :
    ReadAt d (name :: rest) read (get builtIn) (get value) := by
  rcases of_optional_ok ran with ⟨input, held, reads⟩ | ⟨nothing, rfl⟩
  · have inside := below input reads
    have along : d.at? (name :: rest) = input.at? rest := by rw [at?_cons, held]; rfl
    refine ⟨?_, fun leaf found => inside.found leaf (along ▸ found),
      fun nothing => inside.absent (along ▸ nothing)⟩
    rw [closes_cons, mapped, held]
    exact inside.isOpen
  · have along : d.at? (name :: rest) = none := by rw [at?_cons, nothing]; rfl
    refine ⟨?_, fun leaf found => ?_, fun _ => rfl⟩
    · rw [closes_cons, mapped, nothing]
      rfl
    · rw [along] at found
      cases found

theorem within {fields : Table String Data} {heading title name : String}
    {readSection : Table String Data → Checked β} {builtIn value : β} {read : Data → Checked α}
    (get : β → α) (ran : optional fields heading builtIn (part title readSection) = .ok value)
    (inside : ∀ inner, readSection inner = .ok value →
      optional inner name (get builtIn) read = .ok (get value)) :
    ReadAt (map fields) [heading, name] read (get builtIn) (get value) := by
  refine .field get rfl ran fun input ran => ?_
  obtain ⟨mapped, ran⟩ := of_part_ok ran
  exact .field id mapped (inside _ ran) fun _ reads => .here reads

end ReadAt

theorem LoggingSettings.fields_of_ok {homes : Homes} {fields : Table String Data}
    {s : LoggingSettings} (ran : ofFields homes fields = .ok s) :
    optional fields "level" .warning Read.level = .ok s.level ∧
      optional fields "outputs" [{}] (list (part "LogOutputConfig" (LogOutput.ofFields homes))) =
        .ok s.outputs := by
  obtain ⟨_, outputs, front, second, rfl⟩ := of_seq_ok ran
  obtain ⟨level, first, rfl⟩ := of_map_ok front
  exact ⟨first, second⟩

theorem ExtractionSettings.fields_of_ok {fields : Table String Data} {s : ExtractionSettings}
    (ran : ofFields fields = .ok s) :
    optional fields "isolate_roots" false bool = .ok s.isolateRoots ∧
      optional fields "strict_refs" false bool = .ok s.strictRefs ∧
      optional fields "hidden_anonymous_max_hops" 3 readHops = .ok s.maxHops ∧
      optional fields "anonymous_prefix" "__" text = .ok s.anonymousStart := by
  obtain ⟨_, anonymousStart, three, fourth, rfl⟩ := of_seq_ok ran
  obtain ⟨_, maxHops, two, third, rfl⟩ := of_seq_ok three
  obtain ⟨_, strictRefs, one, second, rfl⟩ := of_seq_ok two
  obtain ⟨isolateRoots, first, rfl⟩ := of_map_ok one
  exact ⟨first, second, third, fourth⟩

theorem LibrarySettings.fields_of_ok {fields : Table String Data} {s : LibrarySettings}
    (ran : ofFields fields = .ok s) :
    optional fields "base_lib_patterns" ({} : LibrarySettings).basePatterns (list text) =
        .ok s.basePatterns ∧
      optional fields "global_patterns" ({} : LibrarySettings).globalPatterns (list text) =
        .ok s.globalPatterns ∧
      optional fields "modules" [] readModules = .ok s.modules := by
  obtain ⟨_, modules, two, third, rfl⟩ := of_seq_ok ran
  obtain ⟨_, globalPatterns, one, second, rfl⟩ := of_seq_ok two
  obtain ⟨basePatterns, first, rfl⟩ := of_map_ok one
  exact ⟨first, second, third⟩

theorem OutputSettings.fields_of_ok {fields : Table String Data} {s : OutputSettings}
    (ran : ofFields fields = .ok s) :
    optional fields "indent" (some 2) (nullable int) = .ok s.indent ∧
      optional fields "include_prop_ids" true bool = .ok s.includePropIds := by
  obtain ⟨_, includePropIds, one, second, rfl⟩ := of_seq_ok ran
  obtain ⟨indent, first, rfl⟩ := of_map_ok one
  exact ⟨first, second⟩

theorem Settings.sections_of_ok {homes : Homes} {fields : Table String Data} {s : Settings}
    (ran : ofFields homes fields = .ok s) :
    optional fields "logging" {} (part "LoggingConfig" (LoggingSettings.ofFields homes)) =
        .ok s.logging ∧
      optional fields "extraction" {} (part "ExtractionConfig" ExtractionSettings.ofFields) =
        .ok s.extraction ∧
      optional fields "libraries" {} (part "LibrariesConfig" LibrarySettings.ofFields) =
        .ok s.libraries ∧
      optional fields "output" {} (part "OutputConfig" OutputSettings.ofFields) = .ok s.output := by
  obtain ⟨_, output, three, fourth, rfl⟩ := of_seq_ok ran
  obtain ⟨_, libraries, two, third, rfl⟩ := of_seq_ok three
  obtain ⟨_, extraction, one, second, rfl⟩ := of_seq_ok two
  obtain ⟨logging, first, rfl⟩ := of_map_ok one
  exact ⟨first, second, third, fourth⟩

namespace LibrarySettings

def Listed (field : String × Data) (entry : String × List String) : Prop :=
  field.1 = entry.1 ∧ list text field.2 = .ok entry.2

theorem of_readModule_ok {key patterns : Data} {entry : String × List String}
    (ran : readModule key patterns = .ok entry) :
    key = .text entry.1 ∧ list text patterns = .ok entry.2 := by
  obtain ⟨_, listed, front, second, rfl⟩ := of_seq_ok ran
  obtain ⟨name, first, rfl⟩ := of_map_ok front
  have named : text key = .ok name := of_under_ok (of_under_ok first)
  refine ⟨?_, of_under_ok second⟩
  cases key <;> cases named
  rfl

theorem listed_of_readModules {input : Data} {modules : Table String (List String)}
    (ran : readModules input = .ok modules) :
    input.isMap = true ∧ List.Forall₂ Listed input.named modules := by
  cases input with
  | map fields =>
      refine ⟨rfl, (of_inOrder_ok ran).imp fun field entry reads => ?_⟩
      obtain ⟨name, listed⟩ := of_readModule_ok reads
      exact ⟨Data.text.inj name, listed⟩
  | keyed entries =>
      refine ⟨rfl, ?_⟩
      have reads := of_inOrder_ok ran
      clear ran
      induction reads with
      | nil => exact .nil
      | @cons field entry _ _ reads _ ih =>
          obtain ⟨key, input⟩ := field
          obtain ⟨rfl, listed⟩ := of_readModule_ok reads
          exact .cons ⟨rfl, listed⟩ ih
  | _ => cases ran

theorem get?_of_listed {fields : Table String Data} {modules : Table String (List String)}
    (listed : List.Forall₂ Listed fields modules) (name : String) :
    (∃ input patterns, Table.get? fields name = some input ∧ list text input = .ok patterns ∧
        Table.get? modules name = some patterns) ∨
      Table.get? fields name = none ∧ Table.get? modules name = none := by
  induction listed with
  | nil => exact .inr ⟨rfl, rfl⟩
  | @cons field entry fields modules same _ ih =>
      obtain ⟨key, input⟩ := field
      obtain ⟨key', patterns⟩ := entry
      obtain ⟨rfl, reads⟩ : key = key' ∧ list text input = .ok patterns := same
      by_cases found : key = name
      · exact .inl ⟨input, patterns, if_pos found, reads, if_pos found⟩
      · rw [Table.get?, Table.get?, if_neg found, if_neg found]
        exact ih

end LibrarySettings

/-- What can be set on its own: the fields of the sections, and the patterns of each module. -/
inductive Setting where
  | level
  | outputs
  | isolateRoots
  | strictRefs
  | maxHops
  | anonymousStart
  | basePatterns
  | globalPatterns
  | module (name : String)
  | indent
  | includePropIds

namespace Setting

def Kind : Setting → Type
  | level => Level
  | outputs => List LogOutput
  | isolateRoots | strictRefs | includePropIds => Bool
  | maxHops => Nat
  | anonymousStart => String
  | basePatterns | globalPatterns => List String
  | module _ => Option (List String)
  | indent => Option Int

def path : Setting → List String
  | level => ["logging", "level"]
  | outputs => ["logging", "outputs"]
  | isolateRoots => ["extraction", "isolate_roots"]
  | strictRefs => ["extraction", "strict_refs"]
  | maxHops => ["extraction", "hidden_anonymous_max_hops"]
  | anonymousStart => ["extraction", "anonymous_prefix"]
  | basePatterns => ["libraries", "base_lib_patterns"]
  | globalPatterns => ["libraries", "global_patterns"]
  | module name => ["libraries", "modules", name]
  | indent => ["output", "indent"]
  | includePropIds => ["output", "include_prop_ids"]

def read (homes : Homes) : (setting : Setting) → Data → Checked setting.Kind
  | level => Read.level
  | outputs => list (part "LogOutputConfig" (LogOutput.ofFields homes))
  | isolateRoots | strictRefs | includePropIds => bool
  | maxHops => ExtractionSettings.readHops
  | anonymousStart => text
  | basePatterns | globalPatterns => list text
  | module _ => fun input => some <$> list text input
  | indent => nullable int

def get (settings : Settings) : (setting : Setting) → setting.Kind
  | level => settings.logging.level
  | outputs => settings.logging.outputs
  | isolateRoots => settings.extraction.isolateRoots
  | strictRefs => settings.extraction.strictRefs
  | maxHops => settings.extraction.maxHops
  | anonymousStart => settings.extraction.anonymousStart
  | basePatterns => settings.libraries.basePatterns
  | globalPatterns => settings.libraries.globalPatterns
  | module name => Table.get? settings.libraries.modules name
  | indent => settings.output.indent
  | includePropIds => settings.output.includePropIds

theorem plain_of_read {homes : Homes} {setting : Setting} {input : Data} {value : setting.Kind}
    (reads : setting.read homes input = .ok value) : input.isMap = false := by
  cases setting <;> cases input <;> first | rfl | cases reads

theorem readAt_module {input : Data} {modules : Table String (List String)}
    (ran : LibrarySettings.readModules input = .ok modules) (name : String) :
    ReadAt input [name] (fun input => some <$> list text input) none (Table.get? modules name) := by
  obtain ⟨mapped, listed⟩ := LibrarySettings.listed_of_readModules ran
  rcases LibrarySettings.get?_of_listed listed name with
    ⟨patterns, texts, held, reads, got⟩ | ⟨nothing, got⟩
  · refine ⟨?_, fun leaf found => ?_, fun nothing => ?_⟩
    · rw [closes_cons, mapped, held]
      rfl
    · rw [at?_cons, held] at found
      cases found
      rw [reads, got]
      rfl
    · rw [at?_cons, held] at nothing
      cases nothing
  · refine ⟨?_, fun leaf found => ?_, fun _ => got⟩
    · rw [closes_cons, mapped, nothing]
      rfl
    · rw [at?_cons, nothing] at found
      cases found

theorem readAt {homes : Homes} {fields : Table String Data} {settings : Settings}
    (ran : Settings.ofFields homes fields = .ok settings) (setting : Setting) :
    ReadAt (map fields) setting.path (setting.read homes) (setting.get {}) (setting.get settings) := by
  obtain ⟨logging, extraction, libraries, output⟩ := Settings.sections_of_ok ran
  cases setting with
  | level =>
      exact .within LoggingSettings.level logging fun _ ran => (LoggingSettings.fields_of_ok ran).1
  | outputs =>
      exact .within LoggingSettings.outputs logging fun _ ran =>
        (LoggingSettings.fields_of_ok ran).2
  | isolateRoots =>
      exact .within ExtractionSettings.isolateRoots extraction fun _ ran =>
        (ExtractionSettings.fields_of_ok ran).1
  | strictRefs =>
      exact .within ExtractionSettings.strictRefs extraction fun _ ran =>
        (ExtractionSettings.fields_of_ok ran).2.1
  | maxHops =>
      exact .within ExtractionSettings.maxHops extraction fun _ ran =>
        (ExtractionSettings.fields_of_ok ran).2.2.1
  | anonymousStart =>
      exact .within ExtractionSettings.anonymousStart extraction fun _ ran =>
        (ExtractionSettings.fields_of_ok ran).2.2.2
  | basePatterns =>
      exact .within LibrarySettings.basePatterns libraries fun _ ran =>
        (LibrarySettings.fields_of_ok ran).1
  | globalPatterns =>
      exact .within LibrarySettings.globalPatterns libraries fun _ ran =>
        (LibrarySettings.fields_of_ok ran).2.1
  | module name =>
      refine .field (fun s : LibrarySettings => Table.get? s.modules name) rfl libraries fun _ ran => ?_
      obtain ⟨mapped, ran⟩ := of_part_ok ran
      exact .field (Table.get? · name) mapped (LibrarySettings.fields_of_ok ran).2.2 fun _ reads =>
        readAt_module reads name
  | indent =>
      exact .within OutputSettings.indent output fun _ ran => (OutputSettings.fields_of_ok ran).1
  | includePropIds =>
      exact .within OutputSettings.includePropIds output fun _ ran =>
        (OutputSettings.fields_of_ok ran).2

theorem path_cons (setting : Setting) : ∃ name rest, setting.path = name :: rest := by
  cases setting <;> exact ⟨_, _, rfl⟩

end Setting

theorem of_any_toOption {ε α : Type} {x : Except ε α} (holds : α → Bool)
    (any : x.toOption.any holds = true) : ∃ a, x = .ok a ∧ holds a = true := by
  cases x with
  | ok a => exact ⟨a, rfl, any⟩
  | error _ => cases any

namespace Settings

theorem ofFields_of_ofClosedFields {homes : Homes} {fields : Table String Data}
    {settings : Settings} (ran : ofClosedFields homes fields = .ok settings) :
    ofFields homes fields = .ok settings := by
  unfold ofClosedFields at ran
  split at ran
  · rename_i read _
    cases ran
    exact read
  · cases ran
  · cases ran

theorem ofFields_of_ofSources {s : Sources} {settings : Settings} (loaded : ofSources s = .ok settings) :
    ∃ fields, s.merged = .ok fields ∧ ofFields s.homes fields = .ok settings := by
  obtain ⟨fields, merged, ran⟩ := of_except_bind_ok loaded
  refine ⟨fields, merged, ofFields_of_ofClosedFields ?_⟩
  split at ran
  · cases ran
  · exact of_toExcept_ok ran

/-- Each setting is read from the highest source that has something for it, whatever the sources have
for the others. -/
theorem ofSources_precedence {s : Sources} {settings : Settings}
    (distinct : (map s.overrides).Distinct) (loaded : ofSources s = .ok settings) :
    ∃ g, s.given = .ok g ∧ ∀ setting : Setting,
      match g.setting? setting.path with
      | some input => setting.read s.homes input = .ok (setting.get settings)
      | none => setting.get settings = setting.get {} := by
  obtain ⟨fields, merged, ran⟩ := ofFields_of_ofSources loaded
  obtain ⟨g, -, given, -⟩ := Sources.of_merged merged
  refine ⟨g, given, fun setting => ?_⟩
  have reads := Setting.readAt ran setting
  obtain ⟨name, rest, path⟩ := setting.path_cons
  rw [path] at reads ⊢
  cases found : (map fields).at? (name :: rest) with
  | some input =>
      have taken := reads.found input found
      rw [Sources.setting?_of_plain merged given distinct reads.isOpen found
        (Setting.plain_of_read taken)]
      exact taken
  | none =>
      rw [Sources.setting?_of_none merged given distinct reads.isOpen found]
      exact reads.absent found

/-- Every source sets something. The environment has the level of both files again, and the overrides
leave it alone. -/
def layered : Sources where
  homes := { own := "/home/user" }
  shared := some ⟨"shared.yaml", "'logging':\n  'level': 'INFO'\n'output':\n  'indent': null\n"⟩
  project := some ⟨"config.yaml", "'logging':\n  'level': 'ERROR'\n"⟩
  environment := [("TYPEGRAPH__LOGGING", "\x7b\"level\": \"DEBUG\"\x7d")]
  overrides := [("extraction", map [("strict_refs", .bool true)])]

theorem ofSources_precedence_layered :
    ∃ settings g, ofSources layered = .ok settings ∧ layered.given = .ok g ∧
      ∀ setting : Setting,
        match g.setting? setting.path with
        | some input => setting.read layered.homes input = .ok (setting.get settings)
        | none => setting.get settings = setting.get {} := by
  have empty : (map []).Distinct := .map List.nodup_nil nofun
  have distinct : (map layered.overrides).Distinct :=
    empty.put "extraction" (empty.put "strict_refs" (.plain rfl))
  obtain ⟨settings, loaded, -⟩ := of_any_toOption (x := ofSources layered) (fun _ => true)
    (by decide +kernel)
  obtain ⟨g, given, holds⟩ := ofSources_precedence distinct loaded
  exact ⟨settings, g, loaded, given, holds⟩

def withdrawn : Sources where
  homes := { own := "/home/user" }
  shared := some ⟨"shared.yaml", "'logging':\n  'level': 'INFO'\n"⟩
  project := some ⟨"config.yaml", "'logging':\n"⟩
  overrides := [("logging", map [("outputs", .list [])])]

/-- Only the shared file sets the level, and what is loaded has the built-in one. -/
theorem level_of_withdrawn :
    ∃ settings g, ofSources withdrawn = .ok settings ∧ withdrawn.given = .ok g ∧
      (map g.overrides).at? Setting.level.path = none ∧
      (map g.environment).at? Setting.level.path = none ∧
      g.project.at? Setting.level.path = none ∧
      g.shared.at? Setting.level.path = some (.text "INFO") ∧
      Setting.level.read withdrawn.homes (.text "INFO") = .ok Level.info ∧
      settings.logging.level = .warning := by
  obtain ⟨settings, loaded, level⟩ := of_any_toOption (x := ofSources withdrawn)
    (fun settings => settings.logging.level = .warning) (by decide +kernel)
  obtain ⟨g, given, held⟩ := of_any_toOption (x := withdrawn.given)
    (fun g =>
      ((map g.overrides).at? Setting.level.path).isNone &&
      ((map g.environment).at? Setting.level.path).isNone &&
      (g.project.at? Setting.level.path).isNone &&
      (g.shared.at? Setting.level.path).bind asText? = some "INFO")
    (by decide +kernel)
  simp only [Bool.and_eq_true, Option.isNone_iff_eq_none, decide_eq_true_eq] at held level
  obtain ⟨⟨⟨first, second⟩, third⟩, fourth⟩ := held
  obtain ⟨input, found, isText⟩ := Option.bind_eq_some_iff.mp fourth
  have told : input = .text "INFO" := by
    cases input <;> cases isText
    rfl
  exact ⟨settings, g, loaded, given, first, second, third, told ▸ found, rfl, level⟩

end Settings

end TypeAtlas
