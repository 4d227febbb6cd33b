import TypeAtlas.Proofs.Graph.Dangling
import TypeAtlas.Proofs.Walk.Growth

/-!
A registry as its history tells it. Entries and reserved names are two structures that every call
updates apart; what both hold after any calls can be read off the list of the calls.
-/

namespace TypeAtlas

namespace Registry

/-- The calls that write to a registry. -/
inductive Write
  | set (name : String) (node : Node)
  | fill (name : String) (node : Node)
  | reserve (name : String)
  | resolve (name : String) (types : List Node) (live : Option TypeId)

namespace Write

def name : Write → String
  | set name _ => name
  | fill name _ => name
  | reserve name => name
  | resolve name _ _ => name

/-- The node that a call gives to its name; a call that only mentions the name gives none. -/
def node? : Write → Option Node
  | set _ node => some node
  | fill _ node => some node
  | reserve _ => none
  | resolve _ _ _ => none

def apply (r : Registry) : Write → Registry
  | set name node => r.set name node
  | fill name node => r.set name node
  | reserve name => r.reserve name
  | resolve name types live => (r.resolve name types live).2

theorem apply_of_node {call : Write} {node : Node} (given : call.node? = some node) (r : Registry) :
    call.apply r = r.set call.name node := by
  cases call <;> simp_all [node?, apply, name]

theorem apply_of_bare {call : Write} (bare : call.node? = none) (r : Registry) :
    call.apply r = r.reserve call.name := by
  cases call <;> simp_all [node?, apply, name, Registry.resolve]

theorem names_apply (call : Write) (r : Registry) :
    (call.apply r).names =
      if call.name ∈ r.names then r.names else r.names ++ [call.name] := by
  cases given : call.node? with
  | none => rw [apply_of_bare given, names_reserve]
  | some node => rw [apply_of_node given, names_set]

theorem bare_apply {r : Registry} (bare : r.Bare) (call : Write) : (call.apply r).Bare := by
  cases given : call.node? with
  | none =>
      rw [apply_of_bare given]
      exact bare_reserve bare call.name
  | some node =>
      rw [apply_of_node given]
      exact bare_set bare call.name node

/-- A call reserves its name when nothing stands there, and frees it when it gives a node. -/
theorem isPlaceholder_apply (call : Write) (r : Registry) (wanted : String) :
    (call.apply r).isPlaceholder wanted = true ↔
      call.name = wanted ∧ call.node? = none ∧ wanted ∉ r.names ∨
      r.isPlaceholder wanted = true ∧ (call.name = wanted → call.node? = none) := by
  cases given : call.node? with
  | some node =>
      rw [apply_of_node given, isPlaceholder_set]
      simp only [Bool.and_eq_true, decide_eq_true_eq, reduceCtorEq, false_and, and_false,
        false_or, imp_false, ne_eq, eq_comm (a := wanted)]
  | none =>
      rw [apply_of_bare given]
      by_cases known : call.name ∈ r.names
      · rw [reserve_of_has ((r.has_iff call.name).mpr known)]
        constructor
        · intro reserved
          exact Or.inr ⟨reserved, fun _ => rfl⟩
        · rintro (⟨rfl, -, fresh⟩ | ⟨reserved, -⟩)
          · exact absurd known fresh
          · exact reserved
      · have fresh : r.has call.name = false := by
          rw [← Bool.not_eq_true, has_iff]
          exact known
        rw [isPlaceholder_reserve fresh, Bool.or_eq_true, beq_iff_eq]
        constructor
        · rintro (rfl | reserved)
          · exact Or.inl ⟨rfl, rfl, known⟩
          · exact Or.inr ⟨reserved, fun _ => rfl⟩
        · rintro (⟨rfl, -, -⟩ | ⟨reserved, -⟩)
          · exact Or.inl rfl
          · exact Or.inr reserved

/-- A call that gives no node leaves every entry as it is. -/
theorem get?_apply_of_bare {call : Write} (bare : call.node? = none) {r : Registry} {wanted : String}
    (known : wanted ∈ r.names) : (call.apply r).get? wanted = r.get? wanted := by
  rw [apply_of_bare bare]
  by_cases same : call.name = wanted
  · subst same
    rw [reserve_of_has ((r.has_iff call.name).mpr known)]
  · exact get?_reserve_of_ne r same

end Write

def after (calls : List Write) : Registry := calls.foldl Write.apply {}

/-- The calls bring a name in without a node, and give it none afterwards. -/
def Pending (calls : List Write) (wanted : String) : Prop :=
  ∃ earlier call later, calls = earlier ++ call :: later ∧
    wanted ∉ earlier.map Write.name ∧ call.name = wanted ∧ call.node? = none ∧
    ∀ write ∈ later, write.name = wanted → write.node? = none

theorem after_concat (calls : List Write) (call : Write) :
    after (calls ++ [call]) = call.apply (after calls) := by
  rw [after, List.foldl_append]
  rfl

theorem pending_concat (calls : List Write) (call : Write) (wanted : String) :
    Pending (calls ++ [call]) wanted ↔
      call.name = wanted ∧ call.node? = none ∧ wanted ∉ calls.map Write.name ∨
      Pending calls wanted ∧ (call.name = wanted → call.node? = none) := by
  constructor
  · rintro ⟨earlier, first, later, split, fresh, named, bare, quiet⟩
    cases later using List.reverseRecOn with
    | nil =>
        rw [List.append_singleton_inj] at split
        obtain ⟨rfl, rfl⟩ := split
        exact Or.inl ⟨named, bare, fresh⟩
    | append_singleton later last =>
        rw [← List.cons_append, ← List.append_assoc, List.append_singleton_inj] at split
        obtain ⟨rfl, rfl⟩ := split
        right
        constructor
        · refine ⟨earlier, first, later, rfl, fresh, named, bare, ?_⟩
          intro write member
          exact quiet write (List.mem_append_left _ member)
        · exact quiet call (by simp)
  · rintro (⟨named, bare, fresh⟩ | ⟨⟨earlier, first, later, rfl, fresh, named, bare, quiet⟩, last⟩)
    · exact ⟨calls, call, [], rfl, fresh, named, bare, by simp⟩
    · refine ⟨earlier, first, later ++ [call], by simp, fresh, named, bare, ?_⟩
      intro write member
      rcases List.mem_append.mp member with member | member
      · exact quiet write member
      · rw [List.mem_singleton] at member
        subst member
        exact last

theorem names_after (calls : List Write) :
    (after calls).names = dedup (calls.map Write.name) := by
  induction calls using List.reverseRecOn with
  | nil => rfl
  | append_singleton calls call ih =>
      rw [after_concat, Write.names_apply, ih, List.map_append, List.map_singleton, dedup_concat]

theorem mem_names_after {calls : List Write} {wanted : String} :
    wanted ∈ (after calls).names ↔ wanted ∈ calls.map Write.name := by
  rw [names_after, mem_dedup_iff]

theorem bare_after (calls : List Write) : (after calls).Bare := by
  induction calls using List.reverseRecOn with
  | nil =>
      intro wanted reserved
      simp [after, isPlaceholder] at reserved
  | append_singleton calls call ih =>
      rw [after_concat]
      exact Write.bare_apply ih call

theorem isPlaceholder_after_iff (calls : List Write) (wanted : String) :
    (after calls).isPlaceholder wanted = true ↔ Pending calls wanted := by
  induction calls using List.reverseRecOn with
  | nil => simp [after, isPlaceholder, Pending]
  | append_singleton calls call ih =>
      rw [after_concat, Write.isPlaceholder_apply, pending_concat, ih, mem_names_after]

theorem not_pending_of_given {calls : List Write} {call : Write} {node : Node} (held : call ∈ calls)
    (given : call.node? = some node) : ¬ Pending calls call.name := by
  induction calls using List.reverseRecOn with
  | nil => simp at held
  | append_singleton calls last ih =>
      rw [pending_concat]
      rintro (⟨named, bare, fresh⟩ | ⟨pending, quiet⟩)
      all_goals rcases List.mem_append.mp held with earlier | same
      · exact fresh (List.mem_map_of_mem earlier)
      · rw [List.mem_singleton] at same
        subst same
        rw [bare] at given
        cases given
      · exact ih earlier pending
      · rw [List.mem_singleton] at same
        subst same
        rw [quiet rfl] at given
        cases given

/-- Entries stand in the order of first mention. Reserved are the names that were brought in without
a node and given none since, in the same order, each with nothing but itself for an entry. A call
without a node changes no entry, and no call reserves a name again that a node was given to. -/
theorem after_agrees_with_calls (calls : List Write) :
    (after calls).names.Nodup ∧
    (∀ name, name ∈ (after calls).names ↔ ∃ call ∈ calls, call.name = name) ∧
    ((after calls).names.Pairwise fun first second =>
      (calls.map Write.name).idxOf first < (calls.map Write.name).idxOf second) ∧
    (∀ name, (after calls).isPlaceholder name = true ↔ Pending calls name) ∧
    (∀ name, Pending calls name → (after calls).get? name = some (.ref { name })) ∧
    (∀ name, name ∈ (after calls).unfilled ↔ Pending calls name) ∧
    (after calls).unfilled.Sublist (after calls).names ∧
    (∀ call : Write, call.node? = none → ∀ name ∈ (after calls).names,
      (after (calls ++ [call])).get? name = (after calls).get? name) ∧
    (∀ call ∈ calls, call.node? ≠ none → ∀ further,
      (after (calls ++ further)).isPlaceholder call.name = false) := by
  have reserved := isPlaceholder_after_iff calls
  refine ⟨?_, ?_, ?_, reserved, ?_, ?_, List.filter_sublist, ?_, ?_⟩
  · rw [names_after]
    exact nodup_dedup _
  · intro name
    rw [mem_names_after, List.mem_map]
  · rw [names_after]
    exact pairwise_dedup _
  · intro name pending
    exact bare_after calls name ((reserved name).mpr pending)
  · intro name
    rw [unfilled, List.mem_filter, reserved]
    refine and_iff_right_of_imp ?_
    rintro ⟨earlier, call, later, rfl, -, rfl, -, -⟩
    rw [mem_names_after]
    simp
  · intro call bare name known
    rw [after_concat]
    exact Write.get?_apply_of_bare bare known
  · intro call held given further
    obtain ⟨node, given⟩ := Option.ne_none_iff_exists'.mp given
    rw [← Bool.not_eq_true, isPlaceholder_after_iff]
    exact not_pending_of_given (List.mem_append_left _ held) given

def treeCalls : List Write :=
  [.reserve "Node", .resolve "Leaf" [] none, .fill "Node" (.imported "Node" none .module_)]

/-- The filled name is not reserved again by a later reference, and the other one stays as it is. -/
theorem after_agrees_with_calls_tree :
    (after treeCalls).get? "Leaf" = some (.ref { name := "Leaf" }) ∧
      (after (treeCalls ++ [.reserve "Leaf"])).get? "Leaf" = some (.ref { name := "Leaf" }) ∧
      (after (treeCalls ++ [.resolve "Node" [] none])).isPlaceholder "Node" = false := by
  obtain ⟨-, mentioned, -, -, bare, -, -, kept, free⟩ := after_agrees_with_calls treeCalls
  have pending : Pending treeCalls "Leaf" :=
    ⟨[.reserve "Node"], .resolve "Leaf" [] none, _, rfl, by decide, rfl, rfl, by simp [Write.name]⟩
  have listed : "Leaf" ∈ (after treeCalls).names :=
    (mentioned "Leaf").mpr ⟨.resolve "Leaf" [] none, by simp [treeCalls], rfl⟩
  have entry := bare "Leaf" pending
  refine ⟨entry, ?_, ?_⟩
  · rw [kept (.reserve "Leaf") rfl "Leaf" listed, entry]
  · exact free (.fill "Node" (.imported "Node" none .module_)) (by simp [treeCalls])
      (by simp [Write.node?]) [.resolve "Node" [] none]

end Registry

end TypeAtlas
