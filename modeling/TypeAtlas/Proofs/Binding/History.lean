import TypeAtlas.Proofs.Binding
import TypeAtlas.Proofs.Gather

/-!
Bindings over a history of requests. A type of a module keeps the binding it got first, no two types
share one, and the first one is the earliest candidate that is free when it is given.
-/

namespace TypeAtlas.Bindings

theorem freeFrom_eq (used : List String) (name : String) (fuel n : Nat) :
    ∃ k ≤ fuel, freeFrom used name fuel n = candidate name (n + k) ∧
      ∀ j < k, candidate name (n + j) ∈ used := by
  induction fuel generalizing n with
  | zero => exact ⟨0, by omega, rfl, by omega⟩
  | succ fuel ih =>
      rw [freeFrom]
      by_cases inUse : candidate name n ∈ used
      · obtain ⟨k, bound, found, tried⟩ := ih (n + 1)
        refine ⟨k + 1, by omega, ?_, ?_⟩
        · rw [if_pos inUse, found, Nat.add_right_comm, Nat.add_assoc]
        · intro j below
          cases j with
          | zero => exact inUse
          | succ j =>
              rw [Nat.add_comm j 1, ← Nat.add_assoc]
              exact tried j (by omega)
      · exact ⟨0, by omega, by simp [inUse], by omega⟩

/-- The search ends with the earliest candidate that is not in use, after at most as many steps as
there are names in use. -/
theorem firstFree_eq (used : List String) (name : String) :
    ∃ k ≤ used.length, firstFree used name = candidate name k ∧ candidate name k ∉ used ∧
      ∀ j < k, candidate name j ∈ used := by
  obtain ⟨k, bound, found, tried⟩ := freeFrom_eq used name used.length 0
  simp only [Nat.zero_add] at found tried
  refine ⟨k, bound, found, ?_, tried⟩
  rw [← found]
  exact firstFree_not_mem used name

/-- The type of a module that a binding is asked for, and the names it has to keep clear of. -/
structure Request where
  home : String
  name : String
  taken : List String

def Request.key (request : Request) : String × String := (request.home, request.name)

def serve (bindings : Bindings) : List Request → List String × Bindings
  | [] => ([], bindings)
  | request :: rest =>
    let (binding, after) := bindings.bind request.home request.name request.taken
    let (others, final) := serve after rest
    (binding :: others, final)

theorem serve_cons (bindings : Bindings) (request : Request) (rest : List Request) :
    serve bindings (request :: rest) =
      let given := bindings.bind request.home request.name request.taken
      (given.1 :: (serve given.2 rest).1, (serve given.2 rest).2) := rfl

theorem serve_append (bindings : Bindings) (first second : List Request) :
    serve bindings (first ++ second) =
      ((serve bindings first).1 ++ (serve (serve bindings first).2 second).1,
        (serve (serve bindings first).2 second).2) := by
  induction first generalizing bindings with
  | nil => rfl
  | cons request rest ih => simp only [List.cons_append, serve_cons, ih]

theorem length_serve (bindings : Bindings) (requests : List Request) :
    (serve bindings requests).1.length = requests.length := by
  induction requests generalizing bindings with
  | nil => rfl
  | cons request rest ih => simp [serve_cons, ih]

def Unshared (bindings : Bindings) : Prop :=
  ∀ key other binding, Table.get? bindings key = some binding →
    Table.get? bindings other = some binding → key = other

theorem mem_owned_of_get? {bindings : Bindings} {key : String × String} {binding : String}
    (held : Table.get? bindings key = some binding) : binding ∈ bindings.owned :=
  List.mem_map.mpr ⟨(key, binding), Table.mem_of_get? held, rfl⟩

section Bind

variable {bindings : Bindings} (home name : String) (taken : List String)

theorem get?_bind_of_bound {key : String × String} {binding : String}
    (held : Table.get? bindings key = some binding) :
    Table.get? (bindings.bind home name taken).2 key = some binding := by
  by_cases same : (home, name) = key
  · subst same
    rw [bind_of_bound taken held, held]
  · rw [get?_bind_of_ne taken same, held]

theorem owned_put_of_unbound {key : String × String} (binding : String)
    (unbound : Table.get? bindings key = none) :
    owned (Table.put bindings key binding) = bindings.owned ++ [binding] := by
  induction bindings with
  | nil => rfl
  | cons entry rest ih =>
      by_cases same : entry.1 = key
      · simp [Table.get?, same] at unbound
      · simp only [Table.get?, if_neg same] at unbound
        simp only [owned] at ih
        simp [Table.put, same, owned, ih unbound]

/-- What is owned afterwards was owned before, or is what has been given. -/
theorem mem_owned_bind (other : String) :
    other ∈ (bindings.bind home name taken).2.owned ↔
      other = (bindings.bind home name taken).1 ∨ other ∈ bindings.owned := by
  cases held : Table.get? bindings (home, name) with
  | none =>
      rw [bind_of_unbound taken held, owned_put_of_unbound _ held]
      simp [or_comm]
  | some binding =>
      rw [bind_of_bound taken held]
      have owned := mem_owned_of_get? held
      constructor
      · exact Or.inr
      · rintro (rfl | member)
        · exact owned
        · exact member

theorem unshared_bind (unshared : Unshared bindings) :
    Unshared (bindings.bind home name taken).2 := by
  cases held : Table.get? bindings (home, name) with
  | some binding => rwa [bind_of_bound taken held]
  | none =>
      have fresh := (bind_fresh taken held).2
      have self : Table.get? (bindings.bind home name taken).2 (home, name) =
          some (bindings.bind home name taken).1 := get?_bind_self taken
      -- the new binding is owned by nobody, so a type other than the one that got it has another
      have apart (key : String × String) (distinct : (home, name) ≠ key) :
          Table.get? (bindings.bind home name taken).2 key ≠
            some (bindings.bind home name taken).1 := by
        rw [get?_bind_of_ne taken distinct]
        exact fun found => fresh (mem_owned_of_get? found)
      intro key other binding first second
      by_cases same : (home, name) = key <;> by_cases equal : (home, name) = other
      · exact same.symm.trans equal
      · rw [← same, self, Option.some.injEq] at first
        exact absurd (first ▸ second) (apart other equal)
      · rw [← equal, self, Option.some.injEq] at second
        exact absurd (second ▸ first) (apart key same)
      · rw [get?_bind_of_ne taken same] at first
        rw [get?_bind_of_ne taken equal] at second
        exact unshared key other binding first second

end Bind

theorem get?_serve_of_bound {bindings : Bindings} {key : String × String} {binding : String}
    (held : Table.get? bindings key = some binding) (requests : List Request) :
    Table.get? (serve bindings requests).2 key = some binding := by
  induction requests generalizing bindings with
  | nil => exact held
  | cons request rest ih => exact ih (get?_bind_of_bound _ _ _ held)

theorem get?_serve (bindings : Bindings) (requests : List Request) (i : Nat)
    (inside : i < requests.length) :
    Table.get? (serve bindings requests).2 requests[i].key = (serve bindings requests).1[i]? := by
  induction requests generalizing bindings i with
  | nil => simp at inside
  | cons request rest ih =>
      cases i with
      | zero => exact get?_serve_of_bound (get?_bind_self request.taken) rest
      | succ i => exact ih _ i (by simpa using inside)

theorem unshared_serve {bindings : Bindings} (unshared : Unshared bindings)
    (requests : List Request) : Unshared (serve bindings requests).2 := by
  induction requests generalizing bindings with
  | nil => exact unshared
  | cons request rest ih => exact ih (unshared_bind _ _ _ unshared)

theorem mem_owned_serve (bindings : Bindings) (requests : List Request) (other : String) :
    other ∈ (serve bindings requests).2.owned ↔
      other ∈ (serve bindings requests).1 ∨ other ∈ bindings.owned := by
  induction requests generalizing bindings with
  | nil => simp [serve]
  | cons request rest ih =>
      simp only [serve_cons, ih, mem_owned_bind, List.mem_cons]
      tauto

theorem get?_serve_of_unasked {bindings : Bindings} {requests : List Request}
    {key : String × String} (unasked : ∀ request ∈ requests, request.key ≠ key) :
    Table.get? (serve bindings requests).2 key = Table.get? bindings key := by
  induction requests generalizing bindings with
  | nil => rfl
  | cons request rest ih =>
      have distinct : (request.home, request.name) ≠ key := unasked request (List.mem_cons_self ..)
      rw [serve_cons, ih fun later member => unasked later (List.mem_cons_of_mem _ member),
        get?_bind_of_ne _ distinct]

theorem bind_eq_candidate {bindings : Bindings} {request : Request}
    (unbound : Table.get? bindings request.key = none) :
    ∃ k ≤ bindings.owned.length + request.taken.length,
      (bindings.bind request.home request.name request.taken).1 = candidate request.name k ∧
      (candidate request.name k ∉ request.taken ∧ candidate request.name k ∉ bindings.owned) ∧
      ∀ j < k, candidate request.name j ∈ request.taken ∨
        candidate request.name j ∈ bindings.owned := by
  obtain ⟨k, bound, found, free, tried⟩ :=
    firstFree_eq (bindings.owned ++ request.taken) request.name
  simp only [List.length_append, List.mem_append, not_or] at bound free tried
  refine ⟨k, bound, ?_, free.symm, fun j below => (tried j below).symm⟩
  rw [bind_of_unbound _ unbound, found]

section First

variable {before : List Request} (after : List Request) {request : Request}

theorem getElem?_serve_append (bindings : Bindings) :
    (serve bindings (before ++ request :: after)).1[before.length]? =
      some ((serve bindings before).2.bind request.home request.name request.taken).1 := by
  simp [serve_append, serve_cons, length_serve]

theorem take_serve_append (bindings : Bindings) :
    (serve bindings (before ++ request :: after)).1.take before.length =
      (serve bindings before).1 := by
  rw [serve_append, List.take_left' (length_serve bindings before)]

/-- The first request for a type is answered with the earliest candidate that is neither taken nor
given before. -/
theorem getElem?_serve_of_first (unasked : ∀ earlier ∈ before, earlier.key ≠ request.key) :
    let given := (serve [] (before ++ request :: after)).1
    ∃ k, given[before.length]? = some (candidate request.name k) ∧
      (candidate request.name k ∉ request.taken ∧
        candidate request.name k ∉ given.take before.length) ∧
      ∀ j < k, candidate request.name j ∈ request.taken ∨
        candidate request.name j ∈ given.take before.length := by
  have unbound : Table.get? (serve [] before).2 request.key = none :=
    get?_serve_of_unasked unasked
  obtain ⟨k, -, found, free, tried⟩ := bind_eq_candidate unbound
  have owned (name : String) : name ∈ (serve [] before).2.owned ↔ name ∈ (serve [] before).1 := by
    rw [mem_owned_serve]
    simp [Bindings.owned]
  refine ⟨k, ?_, ?_, ?_⟩
  · rw [getElem?_serve_append, found]
  · rw [take_serve_append, ← owned]
    exact free
  · intro j below
    rw [take_serve_append, ← owned]
    exact tried j below

end First

/-- Over any history of requests on an empty table, two requests get the same binding exactly when
they ask for the same type of the same module, and the first request for a type gets the earliest of
its candidates that is neither taken nor given before. -/
theorem serve_stable_fresh (requests : List Request) :
    let given := (serve [] requests).1
    given.length = requests.length ∧
    (∀ i j (_ : i < requests.length) (_ : j < requests.length),
      given[i]? = given[j]? ↔ requests[i].key = requests[j].key) ∧
    ∀ i (_ : i < requests.length), (∀ j (_ : j < i), requests[j].key ≠ requests[i].key) →
      ∃ k, given[i]? = some (candidate requests[i].name k) ∧
        (candidate requests[i].name k ∉ requests[i].taken ∧
          candidate requests[i].name k ∉ given.take i) ∧
        ∀ j < k, candidate requests[i].name j ∈ requests[i].taken ∨
          candidate requests[i].name j ∈ given.take i := by
  have empty : Unshared [] := fun _ _ _ held => by cases held
  refine ⟨length_serve [] requests, ?_, ?_⟩
  · intro i j first second
    rw [← get?_serve [] requests i first, ← get?_serve [] requests j second]
    constructor
    · intro same
      have given := get?_serve [] requests i first
      rw [List.getElem?_eq_getElem (by rwa [length_serve])] at given
      exact unshared_serve empty requests _ _ _ given (same ▸ given)
    · intro same
      rw [same]
  · intro i inside first
    have size : (requests.take i).length = i := by simp; omega
    have split : requests.take i ++ requests[i] :: requests.drop (i + 1) = requests := by simp
    have unasked : ∀ earlier ∈ requests.take i, earlier.key ≠ requests[i].key := by
      intro earlier member
      obtain ⟨j, below, rfl⟩ := List.getElem_of_mem member
      rw [List.getElem_take]
      exact first j (by omega)
    have answer := getElem?_serve_of_first (requests.drop (i + 1)) unasked
    rwa [size, split] at answer

/-- Two modules export the same name, and one of them a type whose name looks like a numbered binding. -/
theorem serve_stable_fresh_numbered :
    let requests : List Request := [⟨"a", "T", []⟩, ⟨"b", "T", []⟩, ⟨"b", "T_1", []⟩, ⟨"a", "T", ["T"]⟩]
    let given := (serve [] requests).1
    given = ["T", "T_1", "T_1_1", "T"] ∧ given[0]? = given[3]? ∧ given[1]? ≠ given[2]? ∧
      ∃ k, given[2]? = some (candidate "T_1" k) ∧
        (candidate "T_1" k ∉ [] ∧ candidate "T_1" k ∉ ["T", "T_1"]) ∧
        ∀ j < k, candidate "T_1" j ∈ [] ∨ candidate "T_1" j ∈ ["T", "T_1"] := by
  intro requests given
  obtain ⟨-, same, first⟩ := serve_stable_fresh requests
  refine ⟨by decide +kernel, ?_, ?_, ?_⟩
  · exact (same 0 3 (by decide) (by decide)).mpr (by decide)
  · exact fun equal => absurd ((same 1 2 (by decide) (by decide)).mp equal) (by decide)
  · exact first 2 (by decide) (by decide)

end TypeAtlas.Bindings
