import TypeAtlas.Proofs.Data.Reading
import TypeAtlas.Settings.Sources

/-!
What the sources of settings come to when they are merged: at every path, what the highest source has
there, as long as the higher sources have nothing but maps on the way.
-/

namespace TypeAtlas

open Data

theorem Data.distinct_ofPairs {pairs : List (String × Data)}
    (each : ∀ pair ∈ pairs, pair.2.Distinct) : (map (Table.ofPairs pairs)).Distinct := by
  have filled {table : Table String Data} (before : (map table).Distinct) :
      (map (pairs.foldl (fun table pair => Table.put table pair.1 pair.2) table)).Distinct := by
    induction pairs generalizing table with
    | nil => exact before
    | cons pair rest ih =>
        rw [List.forall_mem_cons] at each
        exact ih each.2 (before.put pair.1 each.1)
  exact filled (.map List.nodup_nil nofun)

namespace Environment.Outline

theorem distinct_of_read {o : Outline} {path : List String} {text : String} {value : Data}
    (read : o.read path text = .ok value) : value.Distinct := by
  unfold Outline.read at read
  split at read
  · cases read; exact .plain rfl
  · split at read
    · split at read
      · split at read
        · rename_i found
          cases read
          exact distinct_of_ofJson? found
        · cases read
      · cases read; exact .plain rfl
    · cases read
      cases found : ofJson? text with
      | none => exact .plain rfl
      | some held => exact distinct_of_ofJson? found
    · cases read; exact .plain rfl

theorem distinct_insertAt {path : List String} {value : Data} (valued : value.Distinct)
    {fields : Table String Data} (before : (map fields).Distinct) :
    (map (insertAt path value fields)).Distinct := by
  induction path generalizing fields with
  | nil => exact before
  | cons key rest ih =>
      cases rest with
      | nil => exact before.put key valued
      | cons next rest =>
          rw [insertAt]
          split
          · rename_i found
            exact before.put key (ih (before.get? found))
          · exact before
          · exact before.put key (ih (.map List.nodup_nil nofun))
          · nofun

theorem distinct_of_below {o : Outline} {vars : Table String String} {fields : Table String Data}
    (ran : o.below vars = .ok fields) : (map fields).Distinct := by
  have start : (map []).Distinct := .map List.nodup_nil nofun
  refine holds_of_foldlM (fun fields => (map fields).Distinct)
    (fun kept item next before ran => ?_) start ran
  dsimp only at ran
  split at ran
  · obtain ⟨value, read, ran⟩ := of_except_bind_ok ran
    cases ran
    exact distinct_insertAt (distinct_of_read read) before
  · cases ran
    exact before

theorem distinct_respelled (o : Outline) {fields : Table String Data}
    (before : (map fields).Distinct) : (map (o.respelled fields)).Distinct := by
  refine distinct_ofPairs fun pair member => ?_
  obtain ⟨field, held, rfl⟩ := List.mem_map.mp member
  have valued : field.2.Distinct := before.of_mem held
  exact valued

theorem distinct_of_value? {o : Outline} {vars : Table String String} {value : Data}
    (ran : o.value? vars = .ok (some value)) : value.Distinct := by
  unfold value? at ran
  split at ran
  · obtain ⟨fields, below, ran⟩ := of_except_bind_ok ran
    have told := Except.ok.inj ran
    split at told
    · cases told
    · cases told
      exact distinct_respelled o (distinct_of_below below)
  · split at ran
    · cases ran
    · cases ran
    · rename_i read
      obtain ⟨fields, below, ran⟩ := of_except_bind_ok ran
      cases ran
      refine distinct_respelled o ?_
      rw [← mergeValue_map]
      exact (distinct_of_ofJson? read).mergeValue (distinct_of_below below)
    · rename_i read
      cases ran
      exact distinct_of_ofJson? read

end Environment.Outline

/-- The variables set each section once. -/
theorem Environment.distinct_of_sections {vars : Table String String} {fields : Table String Data}
    (ran : Environment.sections vars = .ok fields) : (map fields).Distinct := by
  obtain ⟨read, each, same⟩ := of_except_bind_ok ran
  cases same
  have listed : (Table.keys (read.filterMap id)).Sublist (outlines.map Outline.name) ∧
      ∀ field ∈ read.filterMap id, field.2.Distinct := by
    have made := forall₂_of_mapM_lift each
    clear each ran
    generalize outlines = all at made ⊢
    induction made with
    | nil => exact ⟨List.Sublist.slnil, nofun⟩
    | @cons o value os values made _ ih =>
        obtain ⟨held, found, same⟩ := of_except_bind_ok made
        cases same
        cases held with
        | none => exact ⟨ih.1.cons _, ih.2⟩
        | some inner =>
            exact ⟨ih.1.cons_cons _, List.forall_mem_cons.mpr ⟨Outline.distinct_of_value? found, ih.2⟩⟩
  exact .map (listed.1.nodup (by decide)) listed.2

theorem SettingsFile.distinct_of_content {file : SettingsFile} {content : Data}
    (read : file.content = .ok content) : content.Distinct := by
  unfold SettingsFile.content at read
  split at read
  · cases read
  · cases read
  · rename_i found
    cases read
    split
    · exact Yaml.distinct_of_read found
    · exact .map List.nodup_nil (by simp [named])

def SettingsFile.contentOf : Option SettingsFile → Except Fault Data
  | some file => file.content
  | none => .ok (.map [])

theorem SettingsFile.distinct_of_contentOf {file : Option SettingsFile} {content : Data}
    (read : contentOf file = .ok content) : content.Distinct := by
  cases file with
  | none => cases read; exact .map List.nodup_nil (by simp [named])
  | some file => exact distinct_of_content read

structure Given where
  shared : Data
  project : Data
  environment : Table String Data
  overrides : Table String Data

/-- What the highest source gives that has something at the path. Where the file of the project has a
value that is no map, whatever the shared file has below it is taken back. -/
def Given.setting? (g : Given) (path : List String) : Option Data :=
  (map g.overrides).at? path <|> (map g.environment).at? path <|> g.project.at? path <|>
    if g.project.closes path then none else g.shared.at? path

namespace Sources

def given (s : Sources) : Except Fault Given := do
  let project ← SettingsFile.contentOf s.project
  let shared ← SettingsFile.contentOf s.shared
  let environment ← Environment.sections s.environment
  return { shared, project, environment, overrides := s.overrides }

/-- What is laid over something, so that the result is a map, is a map as what is below it. -/
theorem maps_of_laidOver {base upper merged : Data} (laid : base.laidOver upper = .ok merged)
    (mapped : merged.isMap = true) :
    base.isMap = true ∧ upper.isMap = true ∧ merged = mergeValue (some base) upper := by
  unfold laidOver at laid
  split at laid
  · cases laid; cases mapped
  · cases laid
  · split at laid
    · rename_i both
      rw [Bool.and_eq_true] at both
      cases laid
      exact ⟨both.1, both.2, rfl⟩
    · cases laid

theorem eq_map_of_asSections {d : Data} {fields : Table String Data}
    (sections : asSections d = .ok fields) : d = map fields := by
  cases d <;> cases sections
  rfl

theorem of_merged {s : Sources} {fields : Table String Data} (ran : s.merged = .ok fields) :
    ∃ g files, s.given = .ok g ∧ g.project.isMap = true ∧ files.isMap = true ∧
      (files = mergeValue (some g.shared) g.project ∧ g.shared.isMap = true ∨
        files = g.project ∧ g.shared.holds = false) ∧
      map fields = mergeValue (some files) (map (mergeFields g.environment g.overrides)) := by
  obtain ⟨project, first, ran⟩ := of_except_bind_ok ran
  obtain ⟨shared, second, ran⟩ := of_except_bind_ok ran
  obtain ⟨files, joined, ran⟩ : ∃ files,
      (if shared.holds then shared.laidOver project else .ok project) = .ok files ∧
        (do asSections (← files.laidOver
          (map (mergeFields (← Environment.sections s.environment) s.overrides)))) =
            .ok fields := by
    dsimp only at ran
    split at ran
    · rename_i holds
      rw [if_pos holds]
      exact of_except_bind_ok ran
    · rename_i empty
      exact ⟨project, if_neg empty, ran⟩
  obtain ⟨environment, third, ran⟩ := of_except_bind_ok ran
  obtain ⟨all, laid, ran⟩ := of_except_bind_ok ran
  cases eq_map_of_asSections ran
  obtain ⟨filed, -, merged⟩ := maps_of_laidOver laid rfl
  have given : s.given = .ok ⟨shared, project, environment, s.overrides⟩ := by
    have first : SettingsFile.contentOf s.project = .ok project := by
      rw [← first]; cases s.project <;> rfl
    have second : SettingsFile.contentOf s.shared = .ok shared := by
      rw [← second]; cases s.shared <;> rfl
    rw [Sources.given, first, second, third]
    rfl
  split at joined
  · obtain ⟨below, above, files⟩ := maps_of_laidOver joined filed
    exact ⟨_, _, given, above, filed, .inl ⟨files, below⟩, merged⟩
  · rename_i empty
    cases joined
    exact ⟨_, _, given, filed, filed, .inr ⟨rfl, Bool.eq_false_iff.mpr empty⟩, merged⟩

theorem distinct_of_given {s : Sources} {g : Given} (ran : s.given = .ok g)
    (distinct : (map s.overrides).Distinct) :
    g.project.Distinct ∧ (map g.environment).Distinct ∧ (map g.overrides).Distinct := by
  obtain ⟨project, first, ran⟩ := of_except_bind_ok ran
  obtain ⟨shared, second, ran⟩ := of_except_bind_ok ran
  obtain ⟨environment, third, ran⟩ := of_except_bind_ok ran
  cases ran
  exact ⟨SettingsFile.distinct_of_contentOf first, Environment.distinct_of_sections third, distinct⟩

theorem at?_of_empty {d : Data} (empty : d.holds = false) (name : String) (rest : List String) :
    d.at? (name :: rest) = none := by
  have nothing : d.named = [] := by
    cases d with
    | map fields =>
        obtain rfl : fields = [] := by simpa [holds] using empty
        rfl
    | keyed entries =>
        obtain rfl : entries = [] := by simpa [holds] using empty
        rfl
    | _ => rfl
  rw [at?_cons, nothing]
  rfl

/-- What stands at a path that no value of the merged sources closes. -/
theorem at?_merged {s : Sources} {fields : Table String Data} {g : Given} {name : String}
    {rest : List String} (ran : s.merged = .ok fields) (given : s.given = .ok g)
    (distinct : (map s.overrides).Distinct) (isOpen : (map fields).closes (name :: rest) = false) :
    (map fields).at? (name :: rest) =
      overlaid
        (overlaid (if g.project.closes (name :: rest) then none else g.shared.at? (name :: rest))
          (g.project.at? (name :: rest)))
        (overlaid ((map g.environment).at? (name :: rest)) ((map g.overrides).at? (name :: rest))) := by
  obtain ⟨g', files, given', projected, filed, joined, merged⟩ := of_merged ran
  obtain rfl : g = g' := Except.ok.inj (given.symm.trans given')
  obtain ⟨ofProject, ofEnvironment, ofOverrides⟩ := distinct_of_given given distinct
  have upper : (map (mergeFields g.environment g.overrides)).Distinct := by
    rw [← mergeValue_map]
    exact ofEnvironment.mergeValue ofOverrides
  have above : (map (mergeFields g.environment g.overrides)).closes (name :: rest) = false := by
    refine Bool.eq_false_iff.mpr fun closed => ?_
    rw [merged, closes_mergeValue filed rfl upper closed] at isOpen
    cases isOpen
  have top : (map g.overrides).closes (name :: rest) = false := by
    refine Bool.eq_false_iff.mpr fun closed => ?_
    rw [← mergeValue_map, closes_mergeValue rfl rfl ofOverrides closed] at above
    cases above
  have bottom : files.at? (name :: rest) =
      overlaid (if g.project.closes (name :: rest) then none else g.shared.at? (name :: rest))
        (g.project.at? (name :: rest)) := by
    rcases joined with ⟨rfl, sharedMap⟩ | ⟨rfl, empty⟩
    · rw [at?_mergeValue sharedMap projected ofProject]
      split
      · rename_i closed
        rw [at?_of_closes closed]
        rfl
      · rfl
    · rw [at?_of_empty empty, ite_self]
      cases g.project.at? (name :: rest) <;> simp
  rw [merged, at?_mergeValue filed rfl upper, above, bottom, ← mergeValue_map,
    at?_mergeValue rfl rfl ofOverrides, top]
  rfl

end Sources

theorem Data.orElse_of_overlaid {old new : Option Data} {value : Data}
    (found : overlaid old new = some value) (plain : value.isMap = false) :
    (new <|> old) = some value := by
  cases new with
  | none => exact found
  | some laid =>
      rw [overlaid_some, Option.some.injEq] at found
      rw [← found, isMap_mergeValue] at plain
      rw [← found, mergeValue_of_plain old plain]
      rfl

theorem Data.none_of_overlaid {old new : Option Data} (nothing : overlaid old new = none) :
    new = none ∧ old = none := by
  cases new with
  | none => exact ⟨rfl, nothing⟩
  | some laid => cases nothing

namespace Sources

variable {s : Sources} {fields : Table String Data} {g : Given} {name : String} {rest : List String}

/-- A value that is no map is the one that the highest source gives. -/
theorem setting?_of_plain {value : Data} (ran : s.merged = .ok fields) (given : s.given = .ok g)
    (distinct : (map s.overrides).Distinct) (isOpen : (map fields).closes (name :: rest) = false)
    (found : (map fields).at? (name :: rest) = some value) (plain : value.isMap = false) :
    g.setting? (name :: rest) = some value := by
  rw [at?_merged ran given distinct isOpen] at found
  have highest := orElse_of_overlaid found plain
  rw [Given.setting?]
  cases top : overlaid ((map g.environment).at? (name :: rest)) ((map g.overrides).at? (name :: rest)) with
  | some above =>
      rw [top] at highest
      obtain rfl : above = value := Option.some.inj highest
      have above := orElse_of_overlaid top plain
      cases own : (map g.overrides).at? (name :: rest) with
      | some value' => rw [own] at above; exact above
      | none =>
          rw [own] at above
          change (map g.environment).at? (name :: rest) = some _ at above
          rw [above]
          rfl
  | none =>
      obtain ⟨first, second⟩ := none_of_overlaid top
      rw [top] at highest
      change overlaid _ _ = some value at highest
      have below := orElse_of_overlaid highest plain
      rw [first, second]
      exact below

theorem setting?_of_none (ran : s.merged = .ok fields) (given : s.given = .ok g)
    (distinct : (map s.overrides).Distinct) (isOpen : (map fields).closes (name :: rest) = false)
    (nothing : (map fields).at? (name :: rest) = none) : g.setting? (name :: rest) = none := by
  rw [at?_merged ran given distinct isOpen] at nothing
  obtain ⟨top, bottom⟩ := none_of_overlaid nothing
  obtain ⟨first, second⟩ := none_of_overlaid top
  obtain ⟨third, fourth⟩ := none_of_overlaid bottom
  rw [Given.setting?, first, second, third, fourth]
  rfl

end Sources

end TypeAtlas
