import TypeAtlas.Proofs.Node.Mention
import TypeAtlas.Proofs.Walk.Growth

/-!
Covered walks: every name that an entry mentions has an entry of its own or belongs to the names that
the entry declares. While a node is under construction the innermost scope collects those names.
-/

namespace TypeAtlas

open Node (mentions mentionsAll)

namespace Walk

def localsOf (w : Walk) (name : String) : List String := (Table.get? w.localNames name).getD []

def Knows (w : Walk) (name : String) : Prop :=
  w.registry.has name = true ∨ name ∈ w.scopes.headD []

def Covered (w : Walk) : Prop :=
  ∀ name node, w.registry.Filled name node → ∀ mentioned ∈ node.mentions,
    w.registry.has mentioned = true ∨ mentioned ∈ w.localsOf name

theorem Extends.knows {w after : Walk} (extended : w.Extends after) {name : String}
    (known : w.Knows name) : after.Knows name := by
  rcases known with known | known
  · exact Or.inl (extended.has known)
  · right
    have scopes := extended.scopes
    cases inside : w.scopes with
    | nil =>
        rw [inside] at known
        cases known
    | cons scope outer =>
        rw [inside] at known scopes
        obtain ⟨declared, grown⟩ := scopes
        rw [grown]
        exact List.mem_append_left _ known

theorem Extends.scopes_ne_nil {w after : Walk} (extended : w.Extends after)
    (inside : w.scopes ≠ []) : after.scopes ≠ [] := by
  have scopes := extended.scopes
  cases held : w.scopes with
  | nil => exact absurd held inside
  | cons scope outer =>
      rw [held] at scopes
      obtain ⟨declared, grown⟩ := scopes
      rw [grown]
      exact List.cons_ne_nil _ _

theorem Extends.localsOf {w after : Walk} (extended : w.Extends after) {name declared : String}
    (held : declared ∈ w.localsOf name) : declared ∈ after.localsOf name := by
  unfold Walk.localsOf at held ⊢
  cases found : Table.get? w.localNames name with
  | none =>
      rw [found] at held
      cases held
  | some names =>
      rw [found] at held
      obtain ⟨more, found⟩ := extended.locals name names found
      rw [found]
      exact List.mem_append_left _ held

/-- Covered entries stay covered when a walk goes on and writes no entry. -/
theorem Covered.of_extends {w after : Walk} (covered : w.Covered) (extended : w.Extends after)
    (filled : ∀ name node, after.registry.Filled name node → w.registry.Filled name node) :
    after.Covered := by
  intro name node held mentioned member
  rcases covered name node (filled name node held) mentioned member with known | known
  · exact Or.inl (extended.has known)
  · exact Or.inr (extended.localsOf known)

theorem Covered.of_same_registry {w after : Walk} (covered : w.Covered) (extended : w.Extends after)
    (registry : after.registry = w.registry) : after.Covered := by
  apply covered.of_extends extended
  intro name node held
  rwa [registry] at held

theorem Covered.reserve {w : Walk} (covered : w.Covered) (name : String) :
    (w.reserve name).Covered := by
  apply covered.of_extends (extends_reserve w name)
  intro other node held
  change (w.registry.reserve name).Filled other node at held
  exact Registry.filled_of_reserve held

/-- A new entry is covered when it mentions no other names than a walk has or the entry declares. -/
theorem Covered.set {w : Walk} (covered : w.Covered) {name : String} {node : Node}
    (accounted : ∀ mentioned ∈ node.mentions,
      w.registry.has mentioned = true ∨ mentioned ∈ w.localsOf name) :
    (w.set name node).Covered := by
  have extended := extends_set w name node
  intro other held filled mentioned member
  change (w.registry.set name node).Filled other held at filled
  rcases Registry.filled_of_set filled with ⟨rfl, rfl⟩ | ⟨-, before⟩
  · rcases accounted mentioned member with known | known
    · exact Or.inl (extended.has known)
    · exact Or.inr (extended.localsOf known)
  · rcases covered other held before mentioned member with known | known
    · exact Or.inl (extended.has known)
    · exact Or.inr (extended.localsOf known)

theorem mem_localsOf_closeScope {w : Walk} {name declared : String}
    (member : declared ∈ w.scopes.headD []) : declared ∈ (w.closeScope name).localsOf name := by
  cases inside : w.scopes with
  | nil =>
      rw [inside] at member
      cases member
  | cons scope outer =>
      rw [inside] at member
      cases scope with
      | nil => cases member
      | cons first rest =>
          simp only [localsOf, closeScope, inside, Table.get?_put_self, Option.getD_some]
          exact mem_addNames member

theorem closeScope_set (w : Walk) (name other : String) (node : Node) :
    (w.set name node).closeScope other = (w.closeScope other).set name node := by
  rcases w with ⟨registry, bindings, scopes, localNames, unidentified, events⟩
  rcases scopes with _ | ⟨_ | ⟨first, rest⟩, outer⟩ <;> rfl

theorem Covered.closeScope {w : Walk} (covered : w.Covered) (name : String) :
    (w.closeScope name).Covered := by
  intro other held filled mentioned member
  rw [registry_closeScope] at filled ⊢
  rcases covered other held filled mentioned member with present | present
  · exact Or.inl present
  · right
    unfold localsOf at present ⊢
    cases found : Table.get? w.localNames other with
    | none =>
        rw [found] at present
        cases present
    | some names =>
        rw [found] at present
        obtain ⟨more, found⟩ := locals_closeScope w name other names found
        rw [found]
        exact List.mem_append_left _ present

theorem Covered.close {w : Walk} (covered : w.Covered) {name : String} {node : Node}
    (known : ∀ mentioned ∈ node.mentions, w.Knows mentioned) :
    ((w.closeScope name).set name node).Covered := by
  apply (covered.closeScope name).set
  intro mentioned member
  rw [registry_closeScope]
  rcases known mentioned member with present | present
  · exact Or.inl present
  · exact Or.inr (mem_localsOf_closeScope present)

end Walk

end TypeAtlas
