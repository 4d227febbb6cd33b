import Mathlib.Data.List.Basic
import Mathlib.Data.List.Induction
import TypeAtlas.Graph
import TypeAtlas.Proofs.Node.Mention

/-!
Names that lead nowhere. The references in a node are the objects of that kind in its written form, in
the same order, so what a graph reports as dangling can be read off the graph as it is written.
-/

namespace TypeAtlas

section Dedup

variable {α : Type} [DecidableEq α]

theorem dedup_concat (items : List α) (item : α) :
    dedup (items ++ [item]) =
      if item ∈ dedup items then dedup items else dedup items ++ [item] := by
  rw [dedup, List.foldl_append]
  rfl

theorem mem_dedup_iff {items : List α} {item : α} : item ∈ dedup items ↔ item ∈ items := by
  induction items using List.reverseRecOn with
  | nil => simp [dedup]
  | append_singleton items last ih =>
      rw [dedup_concat]
      by_cases known : last ∈ dedup items
      · by_cases same : item = last
        · simp [same, known]
        · simp [known, same, ih]
      · simp [known, ih]

theorem pairwise_dedup (items : List α) :
    (dedup items).Pairwise fun first second => items.idxOf first < items.idxOf second := by
  induction items using List.reverseRecOn with
  | nil => simp [dedup]
  | append_singleton items last ih =>
      have earlier : (dedup items).Pairwise fun first second =>
          (items ++ [last]).idxOf first < (items ++ [last]).idxOf second := by
        refine ih.imp_of_mem fun {first second} one other before => ?_
        rwa [List.idxOf_append_of_mem (mem_dedup_iff.mp one),
          List.idxOf_append_of_mem (mem_dedup_iff.mp other)]
      rw [dedup_concat]
      by_cases known : last ∈ dedup items
      · rwa [if_pos known]
      · rw [if_neg known, List.pairwise_append]
        refine ⟨earlier, List.pairwise_singleton _ _, ?_⟩
        intro first member second same
        rw [List.mem_singleton] at same
        subst same
        have inside := mem_dedup_iff.mp member
        rw [List.idxOf_append_of_mem inside,
          List.idxOf_append_of_notMem (mt mem_dedup_iff.mpr known)]
        have bound := List.idxOf_lt_length_of_mem inside
        omega

theorem nodup_dedup (items : List α) : (dedup items).Nodup :=
  (pairwise_dedup items).imp fun {first second} before same => by
    subst same
    omega

end Dedup

namespace Data

/-- Somewhere in a value there is an object of the kind `ref` with this name. -/
inductive Refers (name : String) : Data → Prop
  | here {fields : List (String × Data)} (kind : Table.get? fields "kind" = some (.text "ref"))
      (target : Table.get? fields "refName" = some (.text name)) : Refers name (.map fields)
  | field {fields : List (String × Data)} {entry : String × Data} (held : entry ∈ fields)
      (inside : Refers name entry.2) : Refers name (.map fields)
  | item {items : List Data} {value : Data} (held : value ∈ items) (inside : Refers name value) :
      Refers name (.list items)

def refName? (fields : List (String × Data)) : Option String :=
  match Table.get? fields "kind", Table.get? fields "refName" with
  | some (.text kind), some (.text name) => if kind = "ref" then some name else none
  | _, _ => none

mutual

/-- The names that objects of the kind `ref` have, an object before what is in it, field by field. -/
def refNames : Data → List String
  | .map fields => (refName? fields).toList ++ refNamesOfFields fields
  | .list items => refNamesOfItems items
  | _ => []

def refNamesOfItems : List Data → List String
  | [] => []
  | item :: rest => refNames item ++ refNamesOfItems rest

def refNamesOfFields : List (String × Data) → List String
  | [] => []
  | (_, value) :: rest => refNames value ++ refNamesOfFields rest

end

theorem refNamesOfItems_eq (items : List Data) : refNamesOfItems items = items.flatMap refNames := by
  induction items with
  | nil => rfl
  | cons item rest ih => simp [refNamesOfItems, ih]

theorem refNamesOfFields_eq (fields : List (String × Data)) :
    refNamesOfFields fields = fields.flatMap fun entry => entry.2.refNames := by
  induction fields with
  | nil => rfl
  | cons entry rest ih => simp [refNamesOfFields, ih]

theorem refName?_eq_some_iff {fields : List (String × Data)} {name : String} :
    refName? fields = some name ↔ Table.get? fields "kind" = some (.text "ref") ∧
      Table.get? fields "refName" = some (.text name) := by
  unfold refName?
  split
  · rename_i kind target isKind isTarget
    by_cases same : kind = "ref"
    · simp [isKind, isTarget, same]
    · simp [isKind, same]
  · rename_i other
    refine ⟨by rintro ⟨⟩, ?_⟩
    rintro ⟨isKind, isTarget⟩
    exact absurd isTarget (other _ _ isKind)

theorem mem_refNames_of_refers {name : String} {data : Data} (refers : Refers name data) :
    name ∈ data.refNames := by
  induction refers with
  | here kind target =>
      have named := refName?_eq_some_iff.mpr ⟨kind, target⟩
      simp [refNames, named]
  | field held inside ih =>
      rw [refNames, refNamesOfFields_eq]
      exact List.mem_append_right _ (List.mem_flatMap.mpr ⟨_, held, ih⟩)
  | item held inside ih =>
      rw [refNames, refNamesOfItems_eq]
      exact List.mem_flatMap.mpr ⟨_, held, ih⟩

theorem refers_of_mem_refNames {name : String} (data : Data) (member : name ∈ data.refNames) :
    Refers name data := by
  match data with
  | .map fields =>
      rw [refNames, refNamesOfFields_eq, List.mem_append, Option.mem_toList] at member
      rcases member with own | below
      · obtain ⟨kind, target⟩ := refName?_eq_some_iff.mp own
        exact .here kind target
      · obtain ⟨entry, held, inside⟩ := List.mem_flatMap.mp below
        have smaller := List.sizeOf_lt_of_mem held
        exact .field held (refers_of_mem_refNames entry.2 inside)
  | .list items =>
      rw [refNames, refNamesOfItems_eq] at member
      obtain ⟨value, held, inside⟩ := List.mem_flatMap.mp member
      have smaller := List.sizeOf_lt_of_mem held
      exact .item held (refers_of_mem_refNames value inside)
termination_by sizeOf data
decreasing_by
  · cases entry
    simp at smaller ⊢
    omega
  · simp
    omega

theorem mem_refNames_iff {name : String} {data : Data} : name ∈ data.refNames ↔ Refers name data :=
  ⟨refers_of_mem_refNames data, mem_refNames_of_refers⟩

end Data

namespace Node

theorem kind_ne_ref {node : Node} (other : node.ownRef = []) : node.kind ≠ "ref" := by
  cases node with
  | primitive kind => cases kind <;> decide
  | ref r => cases other
  | _ => simp [kind]

theorem refName?_written (node : Node) :
    (Data.refName? (("kind", .text node.kind) ::
      node.fields.map fun field => (field.1, field.2.toData))).toList =
      node.ownRef.map (·.name) := by
  cases owned : node.ownRef with
  | nil =>
      rw [List.map_nil, Option.toList_eq_nil_iff, Option.eq_none_iff_forall_ne_some]
      intro name found
      have isKind := (Data.refName?_eq_some_iff.mp found).1
      simp only [Table.get?, if_true, Option.some.injEq, Data.text.injEq] at isKind
      exact kind_ne_ref owned isKind
  | cons r rest =>
      cases node with
      | ref own =>
          cases owned
          rfl
      | _ => cases owned

theorem refNames_slot {slot : Slot}
    (each : ∀ child ∈ slot.nodes, child.toData.refNames = child.mentions) :
    slot.toData.refNames = mentionsAll slot.nodes := by
  cases slot with
  | one child => simpa [Slot.toData, Slot.write, Slot.nodes] using each
  | many children =>
      have written : (Slot.many children).toData = .list (children.map toData) := by
        simp [Slot.toData, Slot.write]
      rw [written, Data.refNames, Data.refNamesOfItems_eq, List.flatMap_map, mentionsAll]
      exact List.flatMap_congr each
  | literal value => cases value <;> rfl
  | _ => rfl

theorem refNames_toData (node : Node) : node.toData.refNames = node.mentions := by
  have below : ∀ field ∈ node.fields, field.2.toData.refNames = mentionsAll field.2.nodes := by
    intro field held
    refine refNames_slot fun child inside => ?_
    have smaller := sizeOf_lt_of_mem_fields held inside
    exact refNames_toData child
  rw [toData_eq, Data.refNames, refName?_written, mentions_eq, Data.refNamesOfFields_eq,
    List.flatMap_cons, List.flatMap_map]
  congr 1
  rw [children, nodesOf, mentionsAll, List.flatMap_assoc]
  exact List.flatMap_congr below
termination_by sizeOf node

end Node

namespace Graph

def localsOf (g : Graph) (name : String) : List String := (Table.get? g.localNames name).getD []

/-- Each place in the written graph that refers to neither an entry nor a name of its own entry, in the
order of the entries and of the fields in them. -/
def unresolved (g : Graph) : List String :=
  g.toData.flatMap fun (name, data) =>
    data.refNames.filter fun ref => ref ∉ g.names ∧ ref ∉ g.localsOf name

theorem dangling_eq (g : Graph) : g.dangling = dedup g.unresolved := by
  rw [dangling, unresolved, toData, List.flatMap_map]
  congr 1
  refine List.flatMap_congr fun entry _ => ?_
  obtain ⟨name, node⟩ := entry
  have registered (ref : String) := Table.has_iff g.entries ref
  simp only [danglingIn, if_true, Node.refNames_toData, Node.mentions]
  refine List.filter_congr fun ref _ => ?_
  simp [names, localsOf, ← registered]

theorem mem_unresolved_iff {g : Graph} {name : String} :
    name ∈ g.unresolved ↔ ∃ entry ∈ g.toData, Data.Refers name entry.2 ∧
      name ∉ g.names ∧ name ∉ g.localsOf entry.1 := by
  simp [unresolved, Data.mem_refNames_iff]

/-- A name is reported exactly when some entry is written with a reference to it, at any depth, and it is
neither an entry nor a name of that entry's own; it is reported once, at the place of the first such
reference. -/
theorem dangling_exact (g : Graph) :
    (∀ name, name ∈ g.dangling ↔ ∃ entry ∈ g.toData, Data.Refers name entry.2 ∧
      name ∉ g.names ∧ name ∉ g.localsOf entry.1) ∧
    g.dangling.Nodup ∧
    g.dangling.Pairwise fun first second =>
      g.unresolved.idxOf first < g.unresolved.idxOf second := by
  rw [dangling_eq]
  refine ⟨fun name => ?_, nodup_dedup _, pairwise_dedup _⟩
  rw [mem_dedup_iff, mem_unresolved_iff]

end Graph

end TypeAtlas
