import TypeAtlas.Data.Merge
import TypeAtlas.Proofs.Gather

/-!
The laws of deep merging, told by the paths of names to the values inside of a value. At every path the
upper map has the last word, unless both maps have a map there, which are merged in turn. What lies
below a path on the way to which the upper map has a value that is no map is gone.
-/

namespace TypeAtlas.Data

def named : Data → Table String Data
  | map fields => fields
  | keyed entries => namedEntries entries
  | _ => []

theorem named_of_plain {d : Data} (plain : d.isMap = false) : d.named = [] := by
  cases d <;> first | rfl | cases plain

def at? (d : Data) : List String → Option Data
  | [] => some d
  | name :: rest => (Table.get? d.named name).bind (at? · rest)

@[simp] theorem at?_nil (d : Data) : d.at? [] = some d := rfl

theorem at?_cons (d : Data) (name : String) (rest : List String) :
    d.at? (name :: rest) = (Table.get? d.named name).bind (at? · rest) := rfl

def closes (d : Data) : List String → Bool
  | [] => false
  | name :: rest => !d.isMap || (Table.get? d.named name).any (closes · rest)

theorem closes_cons (d : Data) (name : String) (rest : List String) :
    d.closes (name :: rest) = (!d.isMap || (Table.get? d.named name).any (closes · rest)) := rfl

theorem at?_of_closes {d : Data} {path : List String} (closed : d.closes path = true) :
    d.at? path = none := by
  induction path generalizing d with
  | nil => cases closed
  | cons name rest ih =>
      rw [closes_cons, Bool.or_eq_true] at closed
      rcases closed with plain | below
      · rw [at?_cons, named_of_plain (by simpa using plain)]
        rfl
      · rw [at?_cons]
        cases found : Table.get? d.named name with
        | none => rfl
        | some child =>
            rw [found] at below
            exact ih below

/-- In every map that a path can reach, each name stands once. -/
inductive Distinct : Data → Prop
  | plain {d : Data} : d.isMap = false → Distinct d
  | map {d : Data} : (Table.keys d.named).Nodup → (∀ field ∈ d.named, Distinct field.2) → Distinct d

theorem Distinct.keys {d : Data} (distinct : d.Distinct) : (Table.keys d.named).Nodup := by
  cases distinct with
  | plain plain => rw [named_of_plain plain]; exact List.nodup_nil
  | map keys => exact keys

theorem Distinct.of_mem {d : Data} (distinct : d.Distinct) {field : String × Data}
    (member : field ∈ d.named) : field.2.Distinct := by
  cases distinct with
  | plain plain => rw [named_of_plain plain] at member; cases member
  | map _ each => exact each field member

theorem Distinct.get? {d child : Data} (distinct : d.Distinct) {name : String}
    (found : Table.get? d.named name = some child) : child.Distinct :=
  distinct.of_mem (Table.mem_of_get? found)

theorem Distinct.put {fields : Table String Data} {value : Data} (name : String)
    (distinct : (Data.map fields).Distinct) (valued : value.Distinct) :
    (Data.map (Table.put fields name value)).Distinct := by
  refine .map (Table.nodup_put name value distinct.keys) fun field member => ?_
  rcases Table.mem_put member with old | rfl
  · exact distinct.of_mem old
  · exact valued

end TypeAtlas.Data

namespace TypeAtlas

namespace Table

variable {κ β : Type} [DecidableEq κ]

omit [DecidableEq κ] in
theorem keys_cons (key : κ) (value : β) (rest : Table κ β) :
    keys ((key, value) :: rest) = key :: keys rest := rfl

theorem ext_get? {first second : Table κ β} (keys : keys first = keys second)
    (distinct : (Table.keys first).Nodup) (values : ∀ key, get? first key = get? second key) :
    first = second := by
  induction first generalizing second with
  | nil => exact (List.map_eq_nil_iff.mp keys.symm).symm
  | cons entry rest ih =>
      obtain ⟨key, value⟩ := entry
      cases second with
      | nil => cases keys
      | cons other others =>
          obtain ⟨key', value'⟩ := other
          simp only [keys_cons, List.cons.injEq, List.nodup_cons] at keys distinct
          obtain ⟨rfl, keys⟩ := keys
          have same : value = value' := by simpa [get?] using values key
          have rests : rest = others := by
            refine ih keys distinct.2 fun wanted => ?_
            by_cases here : key = wanted
            · subst here
              rw [(get?_eq_none_iff rest key).mpr distinct.1,
                (get?_eq_none_iff others key).mpr (keys ▸ distinct.1)]
            · simpa [get?, here] using values wanted
          rw [same, rests]

end Table

namespace Data

def overlaid (old : Option Data) : Option Data → Option Data
  | some value => some (mergeValue old value)
  | none => old

@[simp] theorem overlaid_none (old : Option Data) : overlaid old none = old := rfl

@[simp] theorem overlaid_some (old : Option Data) (value : Data) :
    overlaid old (some value) = some (mergeValue old value) := rfl

/-- A value that is no map replaces what is there. -/
theorem mergeValue_of_plain (old : Option Data) {value : Data} (plain : value.isMap = false) :
    mergeValue old value = value := by
  cases value with
  | map | keyed => cases plain
  | _ => simp only [mergeValue]

/-- A value replaces what is no map. -/
theorem mergeValue_of_unmapped {old : Option Data} (unmapped : ∀ held ∈ old, held.isMap = false)
    (value : Data) : mergeValue old value = value := by
  cases value with
  | map fields | keyed entries =>
      cases old with
      | none => simp only [mergeValue]
      | some held =>
          cases held with
          | map | keyed => cases unmapped _ rfl
          | _ => simp only [mergeValue]
  | _ => simp only [mergeValue]

theorem maps_or_mergeValue_eq (old : Option Data) (value : Data) :
    (∃ held, old = some held ∧ held.isMap = true ∧ value.isMap = true) ∨
      mergeValue old value = value := by
  cases mapped : value.isMap with
  | false => exact .inr (mergeValue_of_plain old mapped)
  | true =>
      by_cases held : ∃ held, old = some held ∧ held.isMap = true
      · obtain ⟨held, found, olds⟩ := held
        exact .inl ⟨held, found, olds, rfl⟩
      · exact .inr (mergeValue_of_unmapped (fun inner found =>
          Bool.eq_false_iff.mpr fun olds => held ⟨inner, found, olds⟩) value)

@[simp] theorem mergeValue_none (value : Data) : mergeValue none value = value :=
  mergeValue_of_unmapped (by simp) value

@[simp] theorem mergeValue_map (held fields : Table String Data) :
    mergeValue (some (map held)) (map fields) = map (mergeFields held fields) := by
  simp only [mergeValue]

theorem isMap_mergeValue (old : Option Data) (value : Data) :
    (mergeValue old value).isMap = value.isMap := by
  cases value with
  | map fields | keyed entries =>
      cases old with
      | none => simp only [mergeValue, isMap]
      | some held => cases held <;> simp only [mergeValue, isMap]
  | _ => simp only [mergeValue]

theorem get?_mergeFields {upper : Table String Data} (distinct : (Table.keys upper).Nodup)
    (base : Table String Data) (name : String) :
    Table.get? (mergeFields base upper) name =
      overlaid (Table.get? base name) (Table.get? upper name) := by
  induction upper generalizing base with
  | nil => simp only [mergeFields, Table.get?, overlaid_none]
  | cons field rest ih =>
      obtain ⟨key, value⟩ := field
      rw [Table.keys_cons, List.nodup_cons] at distinct
      rw [mergeFields, ih distinct.2, Table.get?]
      split
      · rename_i same
        subst same
        rw [(Table.get?_eq_none_iff rest key).mpr distinct.1, overlaid_none,
          Table.get?_put_self, overlaid_some]
      · rename_i different
        rw [Table.get?_put_of_ne _ _ different]

theorem keys_mergeFields {upper : Table String Data} (distinct : (Table.keys upper).Nodup)
    (base : Table String Data) :
    Table.keys (mergeFields base upper) =
      Table.keys base ++ (Table.keys upper).filter (· ∉ Table.keys base) := by
  induction upper generalizing base with
  | nil => simp [mergeFields, Table.keys]
  | cons field rest ih =>
      obtain ⟨key, value⟩ := field
      rw [Table.keys_cons, List.nodup_cons] at distinct
      rw [mergeFields, ih distinct.2, Table.keys_put, Table.keys_cons]
      by_cases held : key ∈ Table.keys base
      · simp [held]
      · have later : (Table.keys rest).filter (· ∉ Table.keys base ++ [key]) =
            (Table.keys rest).filter (· ∉ Table.keys base) := by
          refine List.filter_congr fun name member => ?_
          have other : name ≠ key := fun same => distinct.1 (same ▸ member)
          simp [other]
        rw [if_neg held, later]
        simp [held]

theorem nodup_mergeFields {base upper : Table String Data} (below : (Table.keys base).Nodup)
    (above : (Table.keys upper).Nodup) : (Table.keys (mergeFields base upper)).Nodup := by
  rw [keys_mergeFields above, List.nodup_append]
  refine ⟨below, above.sublist List.filter_sublist, fun name held other new => ?_⟩
  rintro rfl
  simp [held] at new

theorem sameKey_text (held : Data) (name : String) :
    sameKey held (text name) = true ↔ held = text name := by
  cases held <;> simp [sameKey, keyNumber?, same]
  case float value => cases value.toInt? <;> simp

theorem sameKey_comm_text {key : Data} (other : key.asText? = none) (name : String) :
    sameKey (text name) key = false := by
  cases key with
  | text _ => cases other
  | float value => cases number : value.toInt? <;> simp [sameKey, keyNumber?, same, number]
  | _ => simp [sameKey, keyNumber?, same]

theorem namedEntries_cons (key value : Data) (rest : List (Data × Data)) :
    namedEntries ((key, value) :: rest) =
      match key.asText? with
      | some name => (name, value) :: namedEntries rest
      | none => namedEntries rest := by
  cases named : key.asText? <;> simp [namedEntries, named]

theorem asText?_eq_some {d : Data} {name : String} (named : d.asText? = some name) : d = text name := by
  cases d <;> cases named
  rfl

theorem valueAt?_text (entries : List (Data × Data)) (name : String) :
    valueAt? entries (text name) = Table.get? (namedEntries entries) name := by
  induction entries with
  | nil => rfl
  | cons entry rest ih =>
      obtain ⟨key, value⟩ := entry
      rw [valueAt?, List.find?_cons, namedEntries_cons]
      cases same : sameKey key (text name) with
      | true =>
          rw [(sameKey_text key name).mp same]
          simp [asText?, Table.get?]
      | false =>
          rw [← valueAt?, ih]
          cases named : key.asText? with
          | none => rfl
          | some other =>
              have different : other ≠ name := by
                rintro rfl
                rw [asText?_eq_some named, (sameKey_text _ other).mpr rfl] at same
                cases same
              simp [Table.get?, different]

theorem namedEntries_putEntry (entries : List (Data × Data)) (name : String) (value : Data) :
    namedEntries (putEntry entries (text name) value) =
      Table.put (namedEntries entries) name value := by
  induction entries with
  | nil => rfl
  | cons entry rest ih =>
      obtain ⟨key, old⟩ := entry
      rw [putEntry]
      split
      · rename_i same
        rw [(sameKey_text key name).mp same]
        simp [namedEntries_cons, asText?, Table.put]
      · rename_i different
        rw [namedEntries_cons, namedEntries_cons, ih]
        cases named : key.asText? with
        | none => rfl
        | some other =>
            have distinct : other ≠ name := by
              rintro rfl
              exact different (by rw [asText?_eq_some named, sameKey_text])
            simp [Table.put, distinct]

/-- An entry with another key than a text changes nothing under the names. -/
theorem namedEntries_putEntry_of_other (entries : List (Data × Data)) {key : Data}
    (other : key.asText? = none) (value : Data) :
    namedEntries (putEntry entries key value) = namedEntries entries := by
  induction entries with
  | nil => simp [putEntry, namedEntries, other]
  | cons entry rest ih =>
      obtain ⟨held, old⟩ := entry
      rw [putEntry]
      split
      · rename_i same
        have unnamed : held.asText? = none := by
          cases named : held.asText? with
          | none => rfl
          | some name =>
              rw [asText?_eq_some named, sameKey_comm_text other] at same
              cases same
        simp [namedEntries_cons, unnamed]
      · rw [namedEntries_cons, namedEntries_cons, ih]

theorem namedEntries_entriesOf (fields : Table String Data) :
    namedEntries (entriesOf fields) = fields := by
  induction fields with
  | nil => rfl
  | cons field rest ih =>
      rw [entriesOf, List.map_cons, namedEntries_cons, ← entriesOf, ih]
      rfl

theorem namedEntries_mergeNamed (entries : List (Data × Data)) (fields : Table String Data) :
    namedEntries (mergeNamed entries fields) = mergeFields (namedEntries entries) fields := by
  induction fields generalizing entries with
  | nil => simp only [mergeNamed, mergeFields]
  | cons field rest ih =>
      rw [mergeNamed, mergeFields, ih, namedEntries_putEntry, valueAt?_text]

theorem namedEntries_mergeEntries (entries upper : List (Data × Data)) :
    namedEntries (mergeEntries entries upper) =
      mergeFields (namedEntries entries) (namedEntries upper) := by
  induction upper generalizing entries with
  | nil => simp only [mergeEntries, namedEntries, List.filterMap_nil, mergeFields]
  | cons entry rest ih =>
      obtain ⟨key, value⟩ := entry
      rw [mergeEntries, ih, namedEntries_cons]
      cases named : key.asText? with
      | none => rw [namedEntries_putEntry_of_other _ named]
      | some name =>
          rw [asText?_eq_some named, namedEntries_putEntry, valueAt?_text]
          simp only [mergeFields]

theorem named_mergeValue {base upper : Data} (below : base.isMap = true) (above : upper.isMap = true) :
    (mergeValue (some base) upper).named = mergeFields base.named upper.named := by
  cases base with
  | map held =>
      cases upper with
      | map fields => simp only [mergeValue, named]
      | keyed entries =>
          simp only [mergeValue, named, namedEntries_mergeEntries, namedEntries_entriesOf]
      | _ => cases above
  | keyed held =>
      cases upper with
      | map fields => simp only [mergeValue, named, namedEntries_mergeNamed]
      | keyed entries => simp only [mergeValue, named, namedEntries_mergeEntries]
      | _ => cases above
  | _ => cases below

theorem closes_of_plain {d : Data} (plain : d.isMap = false) (name : String) (rest : List String) :
    d.closes (name :: rest) = true := by
  rw [closes_cons, plain]
  rfl

theorem at?_mergeValue {base upper : Data} {path : List String} (below : base.isMap = true)
    (above : upper.isMap = true) (distinct : upper.Distinct) :
    (mergeValue (some base) upper).at? path =
      if upper.closes path then none else overlaid (base.at? path) (upper.at? path) := by
  induction path generalizing base upper with
  | nil => simp [closes]
  | cons name rest ih =>
      rw [at?_cons, named_mergeValue below above, get?_mergeFields distinct.keys, closes_cons,
        at?_cons, at?_cons, above]
      cases new : Table.get? upper.named name with
      | none => simp
      | some value =>
          have valued := distinct.get? new
          simp only [overlaid_some, Option.bind_some, Option.any_some, Bool.not_true, Bool.false_or]
          -- two maps are merged in turn; in all other cases the value above is the new one
          cases mapped : value.isMap with
          | false =>
              rw [mergeValue_of_plain _ mapped]
              cases rest with
              | nil => simp [closes, mergeValue_of_plain _ mapped]
              | cons next rest => rw [at?_cons, named_of_plain mapped, closes_of_plain mapped]; rfl
          | true =>
              by_cases held : ∃ old, Table.get? base.named name = some old ∧ old.isMap = true
              · obtain ⟨old, found, olds⟩ := held
                rw [found, ih olds mapped valued]
                rfl
              · have unmapped : ∀ old ∈ Table.get? base.named name, old.isMap = false := by
                  intro old found
                  exact Bool.eq_false_iff.mpr fun olds => held ⟨old, found, olds⟩
                rw [mergeValue_of_unmapped unmapped]
                cases rest with
                | nil => simp [closes, mergeValue_of_unmapped unmapped]
                | cons next rest =>
                    have nothing : (Table.get? base.named name).bind (at? · (next :: rest)) = none := by
                      cases found : Table.get? base.named name with
                      | none => rfl
                      | some old =>
                          exact at?_of_closes (closes_of_plain (unmapped old found) next rest)
                    rw [nothing]
                    cases closed : value.closes (next :: rest) with
                    | true => rw [at?_of_closes closed]; rfl
                    | false => cases value.at? (next :: rest) <;> simp

/-- A value above that is no map closes the path after merging, too. -/
theorem closes_mergeValue {base upper : Data} {path : List String} (below : base.isMap = true)
    (above : upper.isMap = true) (distinct : upper.Distinct) (closed : upper.closes path = true) :
    (mergeValue (some base) upper).closes path = true := by
  induction path generalizing base upper with
  | nil => cases closed
  | cons name rest ih =>
      rw [closes_cons, above] at closed
      rw [closes_cons, named_mergeValue below above, get?_mergeFields distinct.keys]
      cases new : Table.get? upper.named name with
      | none => simp [new] at closed
      | some value =>
          have inner : value.closes rest = true := by simpa [new] using closed
          rw [overlaid_some, Option.any_some, Bool.or_eq_true]
          refine .inr ?_
          rcases maps_or_mergeValue_eq (Table.get? base.named name) value with
            ⟨old, found, olds, mapped⟩ | same
          · rw [found]
            exact ih olds mapped (distinct.get? new) inner
          · rw [same]
            exact inner

theorem Distinct.mergeValue {base upper : Data} (below : base.Distinct) (above : upper.Distinct) :
    (mergeValue (some base) upper).Distinct := by
  induction above generalizing base with
  | plain plain =>
      rw [mergeValue_of_plain _ plain]
      exact .plain plain
  | @map upper keys each ih =>
      rcases maps_or_mergeValue_eq (some base) upper with ⟨_, rfl | _, based, mapped⟩ | same
      · have named := named_mergeValue based mapped
        have nodup := nodup_mergeFields below.keys keys
        refine .map (named ▸ nodup) fun field member => ?_
        rw [named] at member
        have found := Table.get?_of_mem nodup member
        rw [get?_mergeFields keys] at found
        cases new : Table.get? upper.named field.1 with
        | none =>
            rw [new] at found
            exact below.get? found
        | some value =>
            have inside := Table.mem_of_get? new
            rw [new, overlaid_some, Option.some.injEq] at found
            rw [← found]
            rcases maps_or_mergeValue_eq (Table.get? base.named field.1) value with
              ⟨old, held, -⟩ | same
            · rw [held]
              exact ih _ inside (below.get? held)
            · rw [same]
              exact each _ inside
      · rw [same]
        exact .map keys each

/-- In every map that a path can reach, the keys are texts and each stands once. -/
inductive Textual : Data → Prop
  | plain {d : Data} : d.isMap = false → Textual d
  | map {fields : Table String Data} : (Table.keys fields).Nodup →
      (∀ field ∈ fields, Textual field.2) → Textual (map fields)

theorem Textual.distinct {d : Data} (textual : d.Textual) : d.Distinct := by
  induction textual with
  | plain plain => exact .plain plain
  | map keys _ ih => exact .map keys ih

theorem Textual.keys {fields : Table String Data} (textual : (Data.map fields).Textual) :
    (Table.keys fields).Nodup := textual.distinct.keys

theorem Textual.get? {fields : Table String Data} {name : String} {value : Data}
    (textual : (Data.map fields).Textual) (found : Table.get? fields name = some value) :
    value.Textual := by
  cases textual with
  | plain plain => cases plain
  | map _ each => exact each _ (Table.mem_of_get? found)

theorem Textual.at? {d found : Data} {path : List String} (textual : d.Textual)
    (held : d.at? path = some found) : found.Textual := by
  induction path generalizing d with
  | nil => exact Option.some.inj held ▸ textual
  | cons name rest ih =>
      obtain ⟨child, inside, below⟩ := Option.bind_eq_some_iff.mp held
      cases textual with
      | plain plain => rw [named_of_plain plain] at inside; cases inside
      | map _ each => exact ih (each _ (Table.mem_of_get? inside)) below

theorem Textual.eq_map {d : Data} (textual : d.Textual) (mapped : d.isMap = true) :
    ∃ fields, d = Data.map fields := by
  cases textual with
  | plain plain => rw [mapped] at plain; cases plain
  | map => exact ⟨_, rfl⟩

theorem mergeValue_self {d : Data} (textual : d.Textual) : mergeValue (some d) d = d := by
  induction textual with
  | plain plain => exact mergeValue_of_plain _ plain
  | @map fields keys each ih =>
      rw [mergeValue_map]
      refine congrArg Data.map (Table.ext_get? ?_ (nodup_mergeFields keys keys) fun name => ?_)
      · simp [keys_mergeFields keys]
      · rw [get?_mergeFields keys]
        cases found : Table.get? fields name with
        | none => rfl
        | some value => rw [overlaid_some, ih _ (Table.mem_of_get? found)]

/-- Laying the same value over the result once more changes nothing. -/
theorem mergeValue_absorbs {upper : Data} (above : upper.Textual) {old : Option Data}
    (below : ∀ held ∈ old, held.Textual) :
    mergeValue (some (mergeValue old upper)) upper = mergeValue old upper := by
  induction above generalizing old with
  | plain plain => rw [mergeValue_of_plain _ plain, mergeValue_of_plain _ plain]
  | @map fields keys each ih =>
      rcases maps_or_mergeValue_eq old (.map fields) with ⟨held, rfl, mapped, -⟩ | same
      · obtain ⟨inner, rfl⟩ := (below held rfl).eq_map mapped
        have textual := below _ rfl
        simp only [mergeValue_map]
        refine congrArg Data.map (Table.ext_get? ?_ ?_ fun name => ?_)
        · simp +contextual [keys_mergeFields keys]
        · exact nodup_mergeFields (nodup_mergeFields textual.keys keys) keys
        · rw [get?_mergeFields keys, get?_mergeFields keys]
          cases new : Table.get? fields name with
          | none => rfl
          | some value =>
              rw [overlaid_some, overlaid_some,
                ih _ (Table.mem_of_get? new) fun older found => textual.get? found]
      · rw [same]
        exact mergeValue_self (.map keys each)

theorem mergeFields_nil_left {fields : Table String Data} (distinct : (Table.keys fields).Nodup) :
    mergeFields [] fields = fields := by
  have nodup : (Table.keys (mergeFields [] fields)).Nodup :=
    nodup_mergeFields List.nodup_nil distinct
  refine Table.ext_get? ?_ nodup fun name => ?_
  · rw [keys_mergeFields distinct]
    simp [Table.keys]
  · rw [get?_mergeFields distinct]
    cases Table.get? fields name <;> simp [Table.get?]

/-- A map laid over another one is merged with it, at every path at which both have maps: the keys of
the lower map come first and the new ones of the upper map after them, and under a key is what the upper
map has there, or else what the lower one has, unless both have maps, which are merged. So an empty map
changes nothing and is changed into what is laid over it, and a map that is laid over itself, or for a
second time, changes nothing either. -/
theorem mergeFields_pathwise {base upper : Table String Data} (below : (map base).Textual)
    (above : (map upper).Textual) :
    laidOver (map base) (map upper) = .ok (map (mergeFields base upper)) ∧
    (∀ (path : List String) (held laid : Table String Data),
      (map base).at? path = some (map held) → (map upper).at? path = some (map laid) →
      ∃ merged, (map (mergeFields base upper)).at? path = some (map merged) ∧
        Table.keys merged =
          Table.keys held ++ (Table.keys laid).filter (· ∉ Table.keys held) ∧
        ∀ name, Table.get? merged name =
          match Table.get? held name, Table.get? laid name with
          | old, none => old
          | some (.map inner), some (.map outer) => some (.map (mergeFields inner outer))
          | _, some value => some value) ∧
    mergeFields base [] = base ∧ mergeFields [] base = base ∧ mergeFields base base = base ∧
    mergeFields (mergeFields base upper) upper = mergeFields base upper := by
  refine ⟨by simp [laidOver, isMap], ?_, by simp only [mergeFields], mergeFields_nil_left below.keys,
    ?_, ?_⟩
  · intro path held laid inBase inUpper
    have isOpen : (map upper).closes path = false :=
      Bool.eq_false_iff.mpr fun closed => by rw [at?_of_closes closed] at inUpper; cases inUpper
    have merged : (mergeValue (some (map base)) (map upper)).at? path = _ :=
      at?_mergeValue rfl rfl above.distinct
    rw [isOpen, inBase, inUpper, mergeValue_map] at merged
    have lower := below.at? inBase
    have higher := above.at? inUpper
    refine ⟨_, merged, keys_mergeFields higher.keys held, fun name => ?_⟩
    rw [get?_mergeFields higher.keys]
    cases new : Table.get? laid name with
    | none => rfl
    | some value =>
        rcases maps_or_mergeValue_eq (Table.get? held name) value with
          ⟨old, found, olds, values⟩ | same
        · obtain ⟨inner, rfl⟩ := (lower.get? found).eq_map olds
          obtain ⟨outer, rfl⟩ := (higher.get? new).eq_map values
          rw [found, overlaid_some, mergeValue_map]
        · rw [overlaid_some, same]
          split <;> simp_all
  · have same := mergeValue_self below
    rw [mergeValue_map] at same
    exact Data.map.inj same
  · have same : mergeValue (some (mergeValue (some (map base)) (map upper))) (map upper) = _ :=
      mergeValue_absorbs above (by simpa using below)
    simp only [mergeValue_map] at same
    exact Data.map.inj same

def lowerLibraries : Table String Data :=
  [("output", .map [("indent", .int 4)]),
   ("libraries", .map [("modules", .map [("react", .text "react/*")]), ("base", .texts ["lib.*"])])]

def upperLibraries : Table String Data :=
  [("libraries", .map [("global", .list []), ("modules", .map [("vue", .text "vue/*")]), ("base", .null)]),
   ("output", .null)]

theorem mergeFields_pathwise_libraries :
    (map lowerLibraries).Textual ∧ (map upperLibraries).Textual ∧
    (∃ merged, (map (mergeFields lowerLibraries upperLibraries)).at? ["libraries"] =
        some (map merged) ∧
      Table.keys merged = ["modules", "base", "global"] ∧
      Table.get? merged "modules" =
        some (map [("react", .text "react/*"), ("vue", .text "vue/*")]) ∧
      Table.get? merged "base" = some .null) ∧
    mergeFields (mergeFields lowerLibraries upperLibraries) upperLibraries =
      mergeFields lowerLibraries upperLibraries := by
  have lower : (map lowerLibraries).Textual := by
    refine .map (by decide) ?_
    simp only [lowerLibraries, List.forall_mem_cons]
    refine ⟨.map (by decide) ?_, .map (by decide) ?_, by simp⟩
    · simpa using Textual.plain rfl
    · simp only [List.forall_mem_cons]
      exact ⟨.map (by decide) (by simpa using Textual.plain rfl), .plain rfl, by simp⟩
  have upper : (map upperLibraries).Textual := by
    refine .map (by decide) ?_
    simp only [upperLibraries, List.forall_mem_cons]
    refine ⟨.map (by decide) ?_, .plain rfl, by simp⟩
    simp only [List.forall_mem_cons]
    exact ⟨.plain rfl, .map (by decide) (by simpa using Textual.plain rfl), .plain rfl, by simp⟩
  obtain ⟨-, along, -, -, -, again⟩ := mergeFields_pathwise lower upper
  obtain ⟨merged, reached, keys, values⟩ := along ["libraries"] _ _ rfl rfl
  exact ⟨lower, upper, ⟨merged, reached, keys.trans (by decide), values "modules", values "base"⟩, again⟩

end Data

end TypeAtlas
