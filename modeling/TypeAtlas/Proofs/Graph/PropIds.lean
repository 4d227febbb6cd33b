import Mathlib.Data.List.Forall2
import TypeAtlas.Proofs.Node.Reading
import TypeAtlas.Proofs.Node.Unnumbered

/-!
Graphs as plain data without the ids of properties: the data of a graph whose properties have no ids,
from which no other field has gone.
-/

namespace TypeAtlas

namespace Data

def isProp (d : Data) : Bool := (d.field? "kind").bind asText? == some "prop"

theorem dropPropIdsItems_eq (items : List Data) : dropPropIdsItems items = items.map dropPropIds := by
  induction items with
  | nil => rfl
  | cons item rest ih => rw [dropPropIdsItems, ih, List.map_cons]

theorem dropPropIdsFields_eq (isProp : Bool) (fields : List (String × Data)) :
    dropPropIdsFields isProp fields =
      (fields.filter fun field => !(isProp && field.1 == "id")).map
        fun field => (field.1, dropPropIds field.2) := by
  induction fields with
  | nil => rfl
  | cons field rest ih =>
      obtain ⟨name, value⟩ := field
      rw [dropPropIdsFields, ih, List.filter_cons]
      cases isProp && name == "id" <;> rfl

theorem dropPropIds_list (items : List Data) :
    dropPropIds (list items) = list (items.map dropPropIds) := by
  rw [dropPropIds, dropPropIdsItems_eq]

theorem dropPropIds_map (fields : List (String × Data)) :
    dropPropIds (map fields) = map (dropPropIdsFields (map fields).isProp fields) := by
  rw [dropPropIds, isProp, field?]
  cases Table.get? fields "kind" with
  | none => rfl
  | some value => cases value <;> rfl

/-- The same as far as one level shows: a map has the same keys in the same order, but for the id of a
property, a list has as many items, and anything else is equal. -/
def SameButId : Data → Data → Prop
  | map fields, new =>
    ∃ kept, new = map kept ∧
      Table.keys kept = (Table.keys fields).filter fun name => !((map fields).isProp && name == "id")
  | list items, new => ∃ kept, new = list kept ∧ kept.length = items.length
  | old, new => new = old

theorem sameButId_dropPropIds (d : Data) : d.SameButId (dropPropIds d) := by
  cases d with
  | map fields =>
      refine ⟨_, dropPropIds_map fields, ?_⟩
      simp [dropPropIdsFields_eq, Table.keys, List.filter_map, Function.comp_def]
  | list items => exact ⟨_, dropPropIds_list items, List.length_map _⟩
  | _ => rfl

def step? : Data → Step → Option Data
  | map fields, .key name => Table.get? fields name
  | list items, .item index => items[index]?
  | _, _ => none

def follow? (d : Data) : List Step → Option Data
  | [] => some d
  | step :: rest => (d.step? step).bind (follow? · rest)

def passesPropId (d : Data) : List Step → Bool
  | [] => false
  | step :: rest => (d.isProp && step == .key "id") || (d.step? step).any (passesPropId · rest)

theorem get?_dropPropIdsFields (isProp : Bool) (fields : Table String Data) (name : String) :
    Table.get? (dropPropIdsFields isProp fields) name =
      if isProp && name == "id" then none else (Table.get? fields name).map dropPropIds := by
  induction fields with
  | nil => cases isProp && name == "id" <;> rfl
  | cons field rest ih =>
      obtain ⟨key, value⟩ := field
      rw [dropPropIdsFields]
      by_cases here : key = name
      · subst here
        cases gone : isProp && key == "id" <;> simp_all [Table.get?]
      · cases gone : isProp && key == "id" <;> simp_all [Table.get?]

theorem step?_dropPropIds (d : Data) (step : Step) :
    (dropPropIds d).step? step =
      if d.isProp && step == .key "id" then none else (d.step? step).map dropPropIds := by
  cases d with
  | map fields =>
      rw [dropPropIds_map]
      cases step with
      | key name =>
          have same : (Step.key name == Step.key "id") = (name == "id") := by
            rw [Bool.eq_iff_iff, beq_iff_eq, beq_iff_eq, Step.key.injEq]
          rw [same]
          exact get?_dropPropIdsFields _ fields name
      | item index => simp [step?]
  | list items =>
      rw [dropPropIds_list]
      cases step with
      | key name => rfl
      | item index => exact List.getElem?_map
  | _ => rfl

theorem follow?_dropPropIds (d : Data) (path : List Step) :
    (dropPropIds d).follow? path =
      if d.passesPropId path then none else (d.follow? path).map dropPropIds := by
  induction path generalizing d with
  | nil => rfl
  | cons step rest ih =>
      rw [follow?, follow?, passesPropId, step?_dropPropIds]
      cases d.isProp && step == .key "id" with
      | true => rfl
      | false =>
          cases d.step? step with
          | none => rfl
          | some below => exact ih below

/-- The second is the first without the ids of properties, at any depth: along every path that leads
to none of them it has the same, and along the others it has nothing. -/
def OnlyLacksPropIds (old new : Data) : Prop :=
  ∀ path, match old.follow? path, old.passesPropId path with
    | some held, false => ∃ kept, new.follow? path = some kept ∧ held.SameButId kept
    | _, _ => new.follow? path = none

theorem onlyLacksPropIds_dropPropIds (d : Data) : d.OnlyLacksPropIds (dropPropIds d) := by
  intro path
  have along := follow?_dropPropIds d path
  cases passes : d.passesPropId path with
  | true =>
      rw [passes, if_pos rfl] at along
      cases d.follow? path <;> exact along
  | false =>
      rw [passes, if_neg Bool.false_ne_true] at along
      cases found : d.follow? path with
      | none => rw [found] at along; exact along
      | some held => rw [found] at along; exact ⟨_, along, sameButId_dropPropIds held⟩

end Data

namespace Node

theorem isProp_toData (node : Node) : node.toData.isProp = (node.kind == "prop") := by
  rw [toData_eq]
  simp [Data.isProp, Data.field?, Table.get?, Data.asText?]

/-- Without the ids of properties, a node is written as the node with no ids is. -/
theorem dropPropIds_toData (node : Node) : dropPropIds node.toData = node.unnumbered.toData := by
  have each : ∀ field ∈ node.fields, dropPropIds field.2.toData = field.2.unnumbered.toData := by
    rintro ⟨name, slot⟩ held
    have below (child : Node) (inside : child ∈ slot.nodes) :
        dropPropIds child.toData = child.unnumbered.toData :=
      have := sizeOf_lt_of_mem_fields held inside
      dropPropIds_toData child
    cases slot with
    | one child => exact below child (List.mem_singleton.mpr rfl)
    | many children =>
        rw [Slot.unnumbered_many, Slot.toData_many, Slot.toData_many, Data.dropPropIds_list,
          List.map_map, List.map_map]
        exact congrArg Data.list (List.map_congr_left below)
    | literal value => cases value <;> rfl
    | _ => rfl
  have isProp := isProp_toData node
  rw [toData_eq] at isProp ⊢
  rw [Data.dropPropIds_map, isProp, Data.dropPropIdsFields_eq, toData_eq, kind_unnumbered,
    fields_unnumbered]
  have tag : (!(node.kind == "prop" && "kind" == "id")) = true := by simp
  rw [List.filter_cons, if_pos tag, List.map_cons, List.filter_map, List.map_map, List.map_map]
  refine congrArg (fun rest => Data.map (("kind", .text node.kind) :: rest))
    (List.map_congr_left fun field held => ?_)
  exact congrArg (Prod.mk field.1) (each field (List.mem_filter.mp held).1)
termination_by sizeOf node

end Node

namespace Graph

def unnumbered (g : Graph) : Graph :=
  { g with entries := g.entries.map fun (name, node) => (name, node.unnumbered) }

/-- Without the ids of properties, a graph is written as the graph with no ids is: entry by entry only
the ids are gone, and each entry is read back. -/
theorem toData_without_propIds (g : Graph) :
    g.toData false = g.unnumbered.toData ∧
      List.Forall₂ (fun entry written =>
          written.1 = entry.1 ∧ entry.2.toData.OnlyLacksPropIds written.2 ∧
            Node.ofData written.2 = .ok entry.2.unnumbered.erased)
        g.entries (g.toData false) := by
  constructor
  · simp [toData, unnumbered, Node.dropPropIds_toData]
  · refine List.forall₂_map_right_iff.mpr (List.forall₂_same.mpr fun entry _ => ⟨rfl, ?_, ?_⟩)
    · exact Data.onlyLacksPropIds_dropPropIds entry.2.toData
    · change Node.ofData (dropPropIds entry.2.toData) = _
      rw [Node.dropPropIds_toData]
      exact Node.ofDataFrom_toData (Nat.le_succ _)

end Graph

end TypeAtlas
