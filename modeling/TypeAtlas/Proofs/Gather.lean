import TypeAtlas.Table

/-!
Lists and tables gathered item by item: whatever is found in one was put there.
-/

namespace TypeAtlas

variable {α β ε : Type}

theorem mem_of_foldl {step : List α → α → List α}
    (adds : ∀ kept item other, other ∈ step kept item → other ∈ kept ∨ other = item)
    {items kept : List α} {other : α} (member : other ∈ items.foldl step kept) :
    other ∈ kept ∨ other ∈ items := by
  induction items generalizing kept with
  | nil => exact Or.inl member
  | cons item rest ih =>
      rcases ih member with held | later
      · rcases adds kept item other held with old | rfl
        · exact Or.inl old
        · exact Or.inr (List.mem_cons_self ..)
      · exact Or.inr (List.mem_cons_of_mem _ later)

theorem holds_of_foldlM {step : β → α → Except ε β} (holds : β → Prop)
    (keeps : ∀ kept item next, holds kept → step kept item = .ok next → holds next)
    {items : List α} {start final : β} (first : holds start)
    (ran : items.foldlM step start = .ok final) : holds final := by
  induction items generalizing start with
  | nil =>
      cases ran
      exact first
  | cons item rest ih =>
      rw [List.foldlM_cons] at ran
      cases one : step start item with
      | error fault =>
          rw [one] at ran
          cases ran
      | ok next =>
          rw [one] at ran
          exact ih (keeps start item next first one) ran

theorem mem_of_mapM {f : α → Except ε β} {items : List α} {values : List β}
    (ran : items.mapM f = .ok values) {value : β} (member : value ∈ values) :
    ∃ item ∈ items, f item = .ok value := by
  induction items generalizing values with
  | nil =>
      cases ran
      cases member
  | cons item rest ih =>
      rw [List.mapM_cons] at ran
      cases first : f item with
      | error fault =>
          rw [first] at ran
          cases ran
      | ok made =>
          cases others : rest.mapM f with
          | error fault =>
              rw [first, others] at ran
              cases ran
          | ok later =>
              rw [first, others] at ran
              cases ran
              rcases List.mem_cons.mp member with rfl | member
              · exact ⟨item, List.mem_cons_self .., first⟩
              · obtain ⟨source, inside, same⟩ := ih others member
                exact ⟨source, List.mem_cons_of_mem _ inside, same⟩

namespace Table

variable {κ : Type} [DecidableEq κ]

theorem mem_put {table : Table κ β} {key : κ} {value : β} {entry : κ × β}
    (member : entry ∈ put table key value) : entry ∈ table ∨ entry = (key, value) := by
  induction table with
  | nil => exact Or.inr (List.mem_singleton.mp member)
  | cons first rest ih =>
      rw [put] at member
      split at member
      · rename_i same
        rcases List.mem_cons.mp member with rfl | later
        · exact Or.inr (by rw [same])
        · exact Or.inl (List.mem_cons_of_mem _ later)
      · rcases List.mem_cons.mp member with rfl | later
        · exact Or.inl (List.mem_cons_self ..)
        · exact (ih later).imp_left (List.mem_cons_of_mem _)

theorem mem_of_get? {table : Table κ β} {key : κ} {value : β} (found : get? table key = some value) :
    (key, value) ∈ table := by
  induction table with
  | nil => cases found
  | cons first rest ih =>
      rw [get?] at found
      split at found
      · rename_i same
        cases found
        rw [← same]
        exact List.mem_cons_self ..
      · exact List.mem_cons_of_mem _ (ih found)

/-- A table of pairs holds nothing else. -/
theorem mem_of_get?_ofPairs {pairs : List (κ × β)} {key : κ} {value : β}
    (found : get? (ofPairs pairs) key = some value) : (key, value) ∈ pairs := by
  have adds (kept : Table κ β) (item other : κ × β) (member : other ∈ put kept item.1 item.2) :
      other ∈ kept ∨ other = item := mem_put member
  rcases mem_of_foldl adds (mem_of_get? found) with none | member
  · cases none
  · exact member

/-- Keys are written once. -/
theorem nodup_put {table : Table κ β} (key : κ) (value : β) (distinct : (keys table).Nodup) :
    (keys (put table key value)).Nodup := by
  rw [keys_put]
  split
  · exact distinct
  · rename_i fresh
    rw [List.nodup_append]
    refine ⟨distinct, List.pairwise_singleton _ key, ?_⟩
    intro other member last same
    rw [List.mem_singleton] at same
    rintro rfl
    exact fresh (same ▸ member)

theorem get?_of_mem {table : Table κ β} {key : κ} {value : β} (distinct : (keys table).Nodup)
    (member : (key, value) ∈ table) : get? table key = some value := by
  induction table with
  | nil => cases member
  | cons entry rest ih =>
      rw [keys, List.map_cons, List.nodup_cons] at distinct
      rcases List.mem_cons.mp member with rfl | later
      · simp [get?]
      · have different : entry.1 ≠ key := by
          rintro rfl
          exact distinct.1 (List.mem_map.mpr ⟨(entry.1, value), later, rfl⟩)
        rw [get?, if_neg different]
        exact ih distinct.2 later

end Table

end TypeAtlas
