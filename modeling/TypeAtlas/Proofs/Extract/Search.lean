import Mathlib.Algebra.GroupWithZero.Nat
import Mathlib.Data.List.Nodup
import Mathlib.Data.List.ReduceOption
import Mathlib.Tactic.Tauto
import TypeAtlas.Extract.Shape
import TypeAtlas.Program.Builder.Declared
import TypeAtlas.Proofs.Node.Mention
import TypeAtlas.Proofs.Program.Whole

/-!
The search for inherited members. The edges of shapes are followed depth first, each name once, with one
list of seen names for all branches; the ids that come of it are those of everything in reach.
-/

namespace TypeAtlas

theorem Engine.edgeCount_eq (node : Node) : edgeCount node = node.outgoing.length := by
  cases node <;> simp [edgeCount, Node.outgoing]

namespace Registry

def outgoing (r : Registry) (name : String) : List Node := (r.get? name).elim [] Node.outgoing

def members (r : Registry) (name : String) : List Node := (r.get? name).elim [] Node.members

def holdsShape (r : Registry) (name : String) : Bool := (r.get? name).any Node.isShape

/-- The edges that some edges lead to, one or more steps away. -/
inductive Behind (r : Registry) (edges : List Node) : Node.Ref Node → Prop
  | edge {edge : Node.Ref Node} (member : .ref edge ∈ edges) : Behind r edges edge
  | further {edge next : Node.Ref Node} (behind : Behind r edges edge)
      (member : .ref next ∈ r.outgoing edge.name) : Behind r edges next

theorem Behind.mono {r : Registry} {edges more : List Node} {edge : Node.Ref Node}
    (behind : r.Behind edges edge) (subset : ∀ next, .ref next ∈ edges → r.Behind more next) :
    r.Behind more edge := by
  induction behind with
  | edge member => exact subset _ member
  | further _ member ih => exact .further ih member

/-- A depth-first search with the names that it has seen, the latest first. An edge of a new name is
taken: what leaves its entry is searched before the rest, which knows of all names seen below. -/
inductive Search (r : Registry) : List String → List Node → List (Node.Ref Node) → Prop
  | done (seen : List String) : Search r seen [] []
  | pass {seen : List String} {node : Node} {rest : List Node} {taken : List (Node.Ref Node)}
      (known : ∀ edge, node = .ref edge → edge.name ∈ seen) (later : Search r seen rest taken) :
      Search r seen (node :: rest) taken
  | take {seen : List String} {edge : Node.Ref Node} {rest : List Node}
      {inner outer : List (Node.Ref Node)} (fresh : edge.name ∉ seen)
      (below : Search r (edge.name :: seen) (r.outgoing edge.name) inner)
      (later : Search r ((inner.map (·.name)).reverse ++ edge.name :: seen) rest outer) :
      Search r seen (.ref edge :: rest) (edge :: (inner ++ outer))

/-- The edge is the first of its name that a search from some edges comes to. -/
def FirstVisited (r : Registry) (edges : List Node) (edge : Node.Ref Node) : Prop :=
  ∃ taken, r.Search [] edges taken ∧ edge ∈ taken

variable {r : Registry} {seen : List String} {edges rest : List Node}
  {taken : List (Node.Ref Node)}

namespace Search

theorem unique (search : r.Search seen edges taken) {others : List (Node.Ref Node)}
    (other : r.Search seen edges others) : taken = others := by
  induction search generalizing others with
  | done seen =>
      cases other
      rfl
  | pass known _ ih =>
      cases other with
      | pass _ later => exact ih later
      | take fresh _ _ => exact absurd (known _ rfl) fresh
  | take fresh _ _ below later =>
      cases other with
      | pass known _ => exact absurd (known _ rfl) fresh
      | take _ inside after =>
          obtain rfl := below inside
          obtain rfl := later after
          rfl

theorem append (search : r.Search seen (edges ++ rest) taken) :
    ∃ inner outer, r.Search seen edges inner ∧
      r.Search ((inner.map (·.name)).reverse ++ seen) rest outer ∧ taken = inner ++ outer := by
  induction edges generalizing seen taken with
  | nil => exact ⟨[], taken, .done seen, search, rfl⟩
  | cons node edges ih =>
      cases search with
      | pass known later =>
          obtain ⟨inner, outer, first, second, rfl⟩ := ih later
          exact ⟨inner, outer, .pass known first, second, rfl⟩
      | @take _ edge _ below _ fresh inside after =>
          obtain ⟨inner, outer, first, second, rfl⟩ := ih after
          refine ⟨edge :: (below ++ inner), outer, .take fresh inside first, ?_, ?_⟩
          · simpa using second
          · simp

theorem behind (search : r.Search seen edges taken) : ∀ edge ∈ taken, r.Behind edges edge := by
  induction search with
  | done seen => simp
  | pass _ _ ih =>
      intro edge member
      exact (ih edge member).mono fun next held => .edge (List.mem_cons_of_mem _ held)
  | @take seen edge rest inner outer fresh _ _ below later =>
      have here : r.Behind (.ref edge :: rest) edge := .edge (List.mem_cons_self ..)
      intro other member
      rcases List.mem_cons.mp member with rfl | member
      · exact here
      rcases List.mem_append.mp member with inside | after
      · exact (below other inside).mono fun next held => .further here held
      · exact (later other after).mono fun next held => .edge (List.mem_cons_of_mem _ held)

theorem fresh (search : r.Search seen edges taken) : ∀ edge ∈ taken, edge.name ∉ seen := by
  induction search with
  | done seen => simp
  | pass _ _ ih => exact ih
  | take fresh _ _ below later =>
      intro other member known
      rcases List.mem_cons.mp member with rfl | member
      · exact fresh known
      rcases List.mem_append.mp member with inside | after
      · exact below other inside (List.mem_cons_of_mem _ known)
      · exact later other after (by simp [known])

theorem distinct (search : r.Search seen edges taken) : (taken.map (·.name)).Nodup := by
  induction search with
  | done seen => simp
  | pass _ _ ih => exact ih
  | @take seen edge rest inner outer _ below later ihBelow ihLater =>
      rw [List.map_cons, List.nodup_cons, List.map_append]
      constructor
      · intro again
        rw [← List.map_append] at again
        obtain ⟨other, member, same⟩ := List.mem_map.mp again
        rcases List.mem_append.mp member with inside | after
        · exact below.fresh other inside (by simp [same])
        · exact later.fresh other after (by simp [same])
      · refine List.nodup_append.mpr ⟨ihBelow, ihLater, ?_⟩
        intro name inside again after same
        obtain ⟨other, member, rfl⟩ := List.mem_map.mp after
        subst same
        exact later.fresh other member (List.mem_append_left _ (List.mem_reverse.mpr inside))

/-- Nothing is skipped: each edge of the list has a name that was seen before or is taken, and so has
each edge that leaves an entry which a taken edge leads to. -/
theorem covers (search : r.Search seen edges taken) :
    (∀ edge, .ref edge ∈ edges → edge.name ∈ seen ∨ edge.name ∈ taken.map (·.name)) ∧
    ∀ edge ∈ taken, ∀ next, .ref next ∈ r.outgoing edge.name →
      next.name ∈ seen ∨ next.name ∈ taken.map (·.name) := by
  induction search with
  | done seen => simp
  | pass known _ ih =>
      refine ⟨?_, ih.2⟩
      intro edge member
      rcases List.mem_cons.mp member with same | member
      · exact Or.inl (known edge same.symm)
      · exact ih.1 edge member
  | @take seen edge rest inner outer _ _ _ below later =>
      have ofBelow {name : String}
          (found : name ∈ edge.name :: seen ∨ name ∈ inner.map (·.name)) :
          name ∈ seen ∨ name ∈ (edge :: (inner ++ outer)).map (·.name) := by
        simp only [List.mem_cons, List.map_cons, List.map_append, List.mem_append] at found ⊢
        tauto
      have ofLater {name : String}
          (found : name ∈ (inner.map (·.name)).reverse ++ edge.name :: seen ∨
            name ∈ outer.map (·.name)) :
          name ∈ seen ∨ name ∈ (edge :: (inner ++ outer)).map (·.name) := by
        simp only [List.mem_cons, List.map_cons, List.map_append, List.mem_append,
          List.mem_reverse] at found ⊢
        tauto
      constructor
      · intro other member
        rcases List.mem_cons.mp member with same | member
        · cases same
          simp
        · exact ofLater (later.1 other member)
      · intro other member next held
        rcases List.mem_cons.mp member with rfl | member
        · exact ofBelow (below.1 next held)
        rcases List.mem_append.mp member with inside | after
        · exact ofBelow (below.2 other inside next held)
        · exact ofLater (later.2 other after next held)

theorem reaches (search : r.Search [] edges taken) {edge : Node.Ref Node}
    (behind : r.Behind edges edge) : edge.name ∈ taken.map (·.name) := by
  induction behind with
  | edge member => simpa using search.covers.1 _ member
  | further _ member ih =>
      obtain ⟨before, held, same⟩ := List.mem_map.mp ih
      rw [← same] at member
      simpa using search.covers.2 before held _ member

theorem firstVisited_iff (search : r.Search [] edges taken) (edge : Node.Ref Node) :
    r.FirstVisited edges edge ↔ edge ∈ taken := by
  constructor
  · rintro ⟨others, other, member⟩
    rwa [search.unique other]
  · exact fun member => ⟨taken, search, member⟩

theorem existsUnique (search : r.Search [] edges taken) {edge : Node.Ref Node}
    (behind : r.Behind edges edge) :
    ∃! first, r.FirstVisited edges first ∧ first.name = edge.name := by
  obtain ⟨first, member, same⟩ := List.mem_map.mp (search.reaches behind)
  refine ⟨first, ⟨(search.firstVisited_iff first).mpr member, same⟩, ?_⟩
  rintro other ⟨visited, named⟩
  have held := (search.firstVisited_iff other).mp visited
  exact List.inj_on_of_nodup_map search.distinct held member (named.trans same.symm)

end Search

theorem FirstVisited.behind {edge : Node.Ref Node} (first : r.FirstVisited edges edge) :
    r.Behind edges edge := by
  obtain ⟨taken, search, member⟩ := first
  exact search.behind edge member

def unfollowed (r : Registry) (seen : List String) : Nat :=
  ((r.entries.filter (·.1 ∉ seen)).map fun entry => Engine.edgeCount entry.2).sum

theorem sum_unseen_le (entries : Table String Node) (name : String) (seen : List String) :
    ((entries.filter (·.1 ∉ name :: seen)).map fun entry => Engine.edgeCount entry.2).sum ≤
      ((entries.filter (·.1 ∉ seen)).map fun entry => Engine.edgeCount entry.2).sum := by
  induction entries with
  | nil => exact Nat.le_refl _
  | cons entry rest ih =>
      by_cases known : entry.1 ∈ seen
      · simpa [known] using ih
      · by_cases same : entry.1 = name
        · subst same
          simp [known] at ih ⊢
          omega
        · simp [known, same] at ih ⊢
          omega

theorem unfollowed_cons (r : Registry) {name : String} {seen : List String} (fresh : name ∉ seen) :
    (r.outgoing name).length + r.unfollowed (name :: seen) ≤ r.unfollowed seen := by
  -- the first entry of the name counts its own edges, all others count what they did before
  unfold outgoing get? unfollowed
  induction r.entries with
  | nil => simp [Table.get?]
  | cons entry rest ih =>
      obtain ⟨key, node⟩ := entry
      by_cases same : key = name
      · subst same
        have less := sum_unseen_le rest key seen
        simp [Table.get?, fresh, Engine.edgeCount_eq] at less ⊢
        omega
      · by_cases known : key ∈ seen
        · simpa [Table.get?, same, known] using ih
        · simp [Table.get?, same, known] at ih ⊢
          omega

theorem unfollowed_nil (r : Registry) :
    r.entries.foldl (fun count entry => count + Engine.edgeCount entry.2) 0 = r.unfollowed [] := by
  have counts (entries : Table String Node) (n : Nat) :
      entries.foldl (fun count entry => count + Engine.edgeCount entry.2) n =
        n + (entries.map fun entry => Engine.edgeCount entry.2).sum := by
    induction entries generalizing n with
    | nil => rfl
    | cons entry rest ih =>
        rw [List.foldl_cons, ih, List.map_cons, List.sum_cons, Nat.add_assoc]
  rw [counts, unfollowed]
  simp

end Registry

namespace Engine

variable (e : Engine)

/-- The ids that an edge shows: those of the entry it leads to, if that is a shape, and otherwise those
of its live type. -/
def shownIds (r : Registry) (edge : Node.Ref Node) : Except Fault (List Int) :=
  match r.get? edge.name with
  | some (.interface shape) | some (.classShape shape _) => .ok (propIds shape.props)
  | _ => e.livePropIds edge.live

theorem shownIds_of_shape {r : Registry} {edge : Node.Ref Node}
    (shape : r.holdsShape edge.name = true) :
    e.shownIds r edge = .ok (propIds (r.members edge.name)) := by
  rw [Registry.holdsShape] at shape
  rw [shownIds, Registry.members]
  cases held : r.get? edge.name with
  | none => simp [held] at shape
  | some node => cases node <;> simp_all [Node.isShape, Node.members]

theorem shownIds_of_other {r : Registry} {edge : Node.Ref Node}
    (other : r.holdsShape edge.name = false) : e.shownIds r edge = e.livePropIds edge.live := by
  rw [Registry.holdsShape] at other
  rw [shownIds]
  cases held : r.get? edge.name with
  | none => rfl
  | some node => cases node <;> simp_all [Node.isShape]

theorem mem_propIds_iff {members : List Node} {id : Int} :
    id ∈ propIds members ↔
      ∃ property, .prop property ∈ members ∧ property.id = some id ∧ id ≠ 0 := by
  rw [propIds, List.mem_filterMap]
  constructor
  · rintro ⟨node, member, same⟩
    cases node with
    | prop property =>
        obtain ⟨own, known, nonzero⟩ := Option.bind_eq_some_iff.mp same
        by_cases zero : own = 0
        · simp [zero] at nonzero
        · rw [if_neg zero, Option.some.injEq] at nonzero
          subst nonzero
          exact ⟨property, member, known, zero⟩
    | _ => cases same
  · rintro ⟨property, member, known, nonzero⟩
    exact ⟨.prop property, member, by simp [known, nonzero]⟩

/-- Only a list without gaps can be read item by item. -/
theorem mapM_present_iff {α β : Type} (f : α → β) {slots : List (Option α)} {values : List β} :
    (slots.mapM fun slot => do return f (← present slot)) = .ok values ↔
      none ∉ slots ∧ values = slots.reduceOption.map f := by
  induction slots generalizing values with
  | nil => simp [pure, Except.pure, eq_comm]
  | cons slot rest ih =>
      rw [List.mapM_cons]
      cases slot with
      | none =>
          constructor
          · intro ran
            cases ran
          · rintro ⟨whole, -⟩
            simp at whole
      | some value =>
          constructor
          · intro ran
            obtain ⟨first, found, ran⟩ := of_except_bind_ok ran
            obtain ⟨others, later, same⟩ := of_except_bind_ok ran
            obtain ⟨whole, rfl⟩ := ih.mp later
            cases found
            cases same
            exact ⟨by simp [whole], rfl⟩
          · rintro ⟨whole, rfl⟩
            have later := ih.mpr ⟨fun gap => whole (List.mem_cons_of_mem _ gap), rfl⟩
            rw [later]
            rfl

theorem livePropIds_iff {type : TypeId} {ids : List Int} :
    e.livePropIds (some type) = .ok ids ↔ (e.program.type type).properties.Full ∧
      ids = (e.program.type type).properties.slots.reduceOption.map e.program.memberId := by
  rw [livePropIds]
  cases held : (e.program.type type).properties with
  | none =>
      constructor
      · intro ran
        cases ran
      · rintro ⟨full, -⟩
        exact absurd rfl full.set
  | some slots =>
      refine (mapM_present_iff e.program.memberId).trans ?_
      constructor
      · rintro ⟨whole, rfl⟩
        exact ⟨Slots.full_some whole, rfl⟩
      · rintro ⟨full, rfl⟩
        exact ⟨full.whole, rfl⟩

theorem exists_livePropIds_iff {live : Option TypeId} :
    (∃ ids, e.livePropIds live = .ok ids) ↔
      ∀ type, live = some type → (e.program.type type).properties.Full := by
  cases live with
  | none => simp [livePropIds, pure, Except.pure]
  | some type => simp [livePropIds_iff]

theorem mem_livePropIds {live : Option TypeId} {ids : List Int}
    (ran : e.livePropIds live = .ok ids) {id : Int} :
    id ∈ ids ↔ ∃ type member, live = some type ∧
      some member ∈ (e.program.type type).properties.slots ∧ e.program.memberId member = id := by
  cases live with
  | none =>
      cases ran
      simp
  | some type =>
      rw [livePropIds_iff] at ran
      simp [ran.2, List.reduceOption_mem_iff]

theorem inheritedIdsFrom_ref (r : Registry) (fuel : Nat) {edge : Node.Ref Node} (rest : List Node)
    {seen : List String} (fresh : edge.name ∉ seen) :
    e.inheritedIdsFrom r (fuel + 1) (.ref edge :: rest) seen = (do
      let ids ← e.shownIds r edge
      let others ← e.inheritedIdsFrom r fuel (r.outgoing edge.name ++ rest) (edge.name :: seen)
      pure (ids ++ others)) := by
  rw [inheritedIdsFrom, if_neg fresh, shownIds, Registry.outgoing]
  cases r.get? edge.name with
  | none => cases e.livePropIds edge.live <;> rfl
  | some node => cases node <;> rfl

def shownBy (r : Registry) (taken : List (Node.Ref Node)) : Except Fault (List Int) := do
  return (← taken.mapM (e.shownIds r)).flatten

theorem shownBy_cons (r : Registry) (edge : Node.Ref Node) (taken : List (Node.Ref Node)) :
    e.shownBy r (edge :: taken) = (do
      let ids ← e.shownIds r edge
      let others ← e.shownBy r taken
      pure (ids ++ others)) := by
  rw [shownBy, shownBy, List.mapM_cons]
  cases e.shownIds r edge with
  | error fault => rfl
  | ok ids => cases taken.mapM (e.shownIds r) <;> rfl

/-- With levels enough for the edges that are left, the work list is gone through in the order of the
search, and nothing is left out. -/
theorem inheritedIdsFrom_search (r : Registry) {fuel : Nat} {edges : List Node} {seen : List String}
    (enough : edges.length + r.unfollowed seen < fuel) : ∃ taken, r.Search seen edges taken ∧
      e.inheritedIdsFrom r fuel edges seen = e.shownBy r taken := by
  induction fuel generalizing edges seen with
  | zero => omega
  | succ fuel ih =>
      cases edges with
      | nil => exact ⟨[], .done seen, rfl⟩
      | cons node rest =>
          rw [List.length_cons] at enough
          cases node with
          | ref edge =>
              by_cases known : edge.name ∈ seen
              · have left : rest.length + r.unfollowed seen < fuel := by omega
                obtain ⟨taken, search, same⟩ := ih left
                refine ⟨taken, .pass ?_ search, ?_⟩
                · intro other named
                  cases named
                  exact known
                · rw [inheritedIdsFrom, if_pos known, same]
              · have fewer := r.unfollowed_cons known
                have left : (r.outgoing edge.name ++ rest).length +
                    r.unfollowed (edge.name :: seen) < fuel := by
                  rw [List.length_append]
                  omega
                obtain ⟨taken, search, same⟩ := ih left
                obtain ⟨inner, outer, below, later, rfl⟩ := search.append
                refine ⟨edge :: (inner ++ outer), .take known below later, ?_⟩
                rw [inheritedIdsFrom_ref e r fuel rest known, same, shownBy_cons]
          | _ =>
              have left : rest.length + r.unfollowed seen < fuel := by omega
              obtain ⟨taken, search, same⟩ := ih left
              exact ⟨taken, .pass nofun search, same⟩

theorem inheritedIds_search (r : Registry) (edges : List Node) :
    ∃ taken, r.Search [] edges taken ∧ e.inheritedIds r edges = e.shownBy r taken := by
  refine e.inheritedIdsFrom_search r ?_
  have all := r.unfollowed_nil
  omega

def Shows (e : Engine) (r : Registry) (edge : Node.Ref Node) (id : Int) : Prop :=
  ∃ ids, e.shownIds r edge = .ok ids ∧ id ∈ ids

theorem exists_shownBy_iff {r : Registry} {taken : List (Node.Ref Node)} :
    (∃ ids, e.shownBy r taken = .ok ids) ↔ ∀ edge ∈ taken, ∃ ids, e.shownIds r edge = .ok ids := by
  induction taken with
  | nil => exact ⟨fun _ => nofun, fun _ => ⟨[], rfl⟩⟩
  | cons edge rest ih =>
      rw [List.forall_mem_cons, ← ih, shownBy_cons]
      constructor
      · rintro ⟨ids, ran⟩
        obtain ⟨own, shown, ran⟩ := of_except_bind_ok ran
        obtain ⟨others, later, -⟩ := of_except_bind_ok ran
        exact ⟨⟨own, shown⟩, others, later⟩
      · rintro ⟨⟨own, shown⟩, others, later⟩
        exact ⟨own ++ others, by rw [shown, later]; rfl⟩

theorem mem_shownBy {r : Registry} {taken : List (Node.Ref Node)} {ids : List Int}
    (ran : e.shownBy r taken = .ok ids) {id : Int} :
    id ∈ ids ↔ ∃ edge ∈ taken, e.Shows r edge id := by
  induction taken generalizing ids with
  | nil =>
      cases ran
      simp
  | cons edge rest ih =>
      rw [shownBy_cons] at ran
      obtain ⟨own, shown, ran⟩ := of_except_bind_ok ran
      obtain ⟨others, later, same⟩ := of_except_bind_ok ran
      cases same
      have first : e.Shows r edge id ↔ id ∈ own := by simp [Shows, shown]
      rw [List.mem_append, ih later, List.exists_mem_cons_iff, first]

variable {e} {r : Registry} {edges : List Node} {ids : List Int}

theorem exists_inheritedIds_iff :
    (∃ ids, e.inheritedIds r edges = .ok ids) ↔
      ∀ edge, r.FirstVisited edges edge → ∃ ids, e.shownIds r edge = .ok ids := by
  obtain ⟨taken, search, same⟩ := e.inheritedIds_search r edges
  rw [same, exists_shownBy_iff]
  simp only [search.firstVisited_iff]

theorem mem_inheritedIds_iff (ran : e.inheritedIds r edges = .ok ids) {id : Int} :
    id ∈ ids ↔ ∃ edge, r.FirstVisited edges edge ∧ e.Shows r edge id := by
  obtain ⟨taken, search, same⟩ := e.inheritedIds_search r edges
  rw [same] at ran
  rw [e.mem_shownBy ran]
  simp only [search.firstVisited_iff]

theorem shows_of_inheritedIds (ran : e.inheritedIds r edges = .ok ids) {id : Int}
    (member : id ∈ ids) : ∃ edge, r.Behind edges edge ∧ e.Shows r edge id := by
  obtain ⟨edge, first, shows⟩ := (mem_inheritedIds_iff ran).mp member
  exact ⟨edge, first.behind, shows⟩

theorem shows_of_shape {edge : Node.Ref Node} (shape : r.holdsShape edge.name = true) {id : Int} :
    e.Shows r edge id ↔
      ∃ property, .prop property ∈ r.members edge.name ∧ property.id = some id ∧ id ≠ 0 := by
  simp [Shows, e.shownIds_of_shape shape, mem_propIds_iff]

theorem shows_of_other {edge : Node.Ref Node} (other : r.holdsShape edge.name = false)
    (told : ∃ ids, e.shownIds r edge = .ok ids) {id : Int} :
    e.Shows r edge id ↔ ∃ type member, edge.live = some type ∧
      some member ∈ (e.program.type type).properties.slots ∧ e.program.memberId member = id := by
  obtain ⟨ids, shown⟩ := told
  have live := shown
  rw [e.shownIds_of_other other] at live
  rw [← e.mem_livePropIds live]
  simp [Shows, shown]

/-- The edges that a search visits first without finding a shape lead to live types whose members can
be told. -/
def CanCollect (e : Engine) (r : Registry) (edges : List Node) : Prop :=
  ∀ edge type, r.FirstVisited edges edge → r.holdsShape edge.name = false →
    edge.live = some type → (e.program.type type).properties.Full

theorem canCollect_iff :
    e.CanCollect r edges ↔ ∀ edge, r.FirstVisited edges edge → ∃ ids, e.shownIds r edge = .ok ids := by
  constructor
  · intro able edge first
    cases shape : r.holdsShape edge.name with
    | true => exact ⟨_, e.shownIds_of_shape shape⟩
    | false =>
        rw [e.shownIds_of_other shape, exists_livePropIds_iff]
        exact fun type live => able edge type first shape live
  · intro told edge type first other live
    have shown := told edge first
    rw [e.shownIds_of_other other, exists_livePropIds_iff] at shown
    exact shown type live

/-- An id that a search should collect: of a property of a shape in reach, or of a member of the live
type of the first edge to a name that stands for no shape. -/
def Collects (e : Engine) (r : Registry) (edges : List Node) (id : Int) : Prop :=
  (∃ edge property, r.Behind edges edge ∧ .prop property ∈ r.members edge.name ∧
    property.id = some id ∧ id ≠ 0) ∨
  ∃ edge type member, r.FirstVisited edges edge ∧ r.holdsShape edge.name = false ∧
    edge.live = some type ∧ some member ∈ (e.program.type type).properties.slots ∧
    e.program.memberId member = id

theorem holdsShape_of_mem {name : String} {node : Node} (member : node ∈ r.members name) :
    r.holdsShape name = true := by
  rw [Registry.members] at member
  rw [Registry.holdsShape]
  cases held : r.get? name with
  | none => simp [held] at member
  | some entry => cases entry <;> simp_all [Node.isShape, Node.members]

theorem collects_of_inheritedIds (ran : e.inheritedIds r edges = .ok ids) (id : Int) :
    id ∈ ids ↔ e.Collects r edges id := by
  have told := exists_inheritedIds_iff.mp ⟨ids, ran⟩
  obtain ⟨taken, search, -⟩ := e.inheritedIds_search r edges
  rw [mem_inheritedIds_iff ran]
  constructor
  · rintro ⟨edge, first, shows⟩
    cases shape : r.holdsShape edge.name with
    | true =>
        obtain ⟨property, listed⟩ := (shows_of_shape shape).mp shows
        exact Or.inl ⟨edge, property, first.behind, listed⟩
    | false =>
        obtain ⟨type, member, live⟩ := (shows_of_other shape (told edge first)).mp shows
        exact Or.inr ⟨edge, type, member, first, shape, live⟩
  · rintro (⟨edge, property, behind, listed, known⟩ | ⟨edge, type, member, first, other, live⟩)
    · obtain ⟨first, ⟨visited, same⟩, -⟩ := search.existsUnique behind
      rw [← same] at listed
      have shape := holdsShape_of_mem listed
      exact ⟨first, visited, (shows_of_shape shape).mpr ⟨property, listed, known⟩⟩
    · exact ⟨edge, first, (shows_of_other other (told edge first)).mpr ⟨type, member, live⟩⟩

/-- Edges of one name that stands for no shape agree on the live type. -/
def Uniform (r : Registry) (edges : List Node) : Prop :=
  ∀ a b, r.Behind edges a → r.Behind edges b → a.name = b.name → r.holdsShape a.name = false →
    a.live = b.live

end Engine

namespace Registry

/-- The entries of two registries are shapes alike, with the same members and the same edges in any
order. -/
structure Reorders (r other : Registry) : Prop where
  shapes : ∀ name, r.holdsShape name = other.holdsShape name
  members : ∀ name, (r.members name).Perm (other.members name)
  edges : ∀ name, (r.outgoing name).Perm (other.outgoing name)

variable {r other : Registry} {edges others : List Node}

theorem Reorders.symm (alike : r.Reorders other) : other.Reorders r where
  shapes name := (alike.shapes name).symm
  members name := (alike.members name).symm
  edges name := (alike.edges name).symm

theorem Behind.reordered (alike : r.Reorders other) (same : edges.Perm others)
    {edge : Node.Ref Node} (behind : r.Behind edges edge) : other.Behind others edge := by
  induction behind with
  | edge member => exact .edge (same.mem_iff.mp member)
  | further _ member ih => exact .further ih ((alike.edges _).mem_iff.mp member)

theorem FirstVisited.reordered {e : Engine} (alike : r.Reorders other) (same : edges.Perm others)
    (uniform : Engine.Uniform r edges) {edge : Node.Ref Node} (first : r.FirstVisited edges edge)
    (unshaped : r.holdsShape edge.name = false) : ∃ counterpart,
      other.FirstVisited others counterpart ∧ counterpart.name = edge.name ∧
      counterpart.live = edge.live := by
  obtain ⟨taken, search, -⟩ := e.inheritedIds_search other others
  obtain ⟨counterpart, ⟨visited, named⟩, -⟩ :=
    search.existsUnique (first.behind.reordered alike same)
  have back := visited.behind.reordered alike.symm same.symm
  exact ⟨counterpart, visited, named, (uniform edge counterpart first.behind back named.symm
    unshaped).symm⟩

end Registry

namespace Engine

variable {e : Engine} {r other : Registry} {edges others : List Node}

theorem Uniform.reordered (uniform : Uniform r edges) (alike : r.Reorders other)
    (same : edges.Perm others) : Uniform other others := by
  intro a b first second named unshaped
  rw [← alike.shapes] at unshaped
  exact uniform a b (first.reordered alike.symm same.symm) (second.reordered alike.symm same.symm)
    named unshaped

theorem CanCollect.reordered (able : e.CanCollect r edges) (alike : r.Reorders other)
    (same : edges.Perm others) (uniform : Uniform r edges) : e.CanCollect other others := by
  intro edge type first unshaped live
  obtain ⟨counterpart, visited, named, agree⟩ := first.reordered (e := e) alike.symm same.symm
    (uniform.reordered alike same) unshaped
  rw [← named, ← alike.shapes] at unshaped
  exact able counterpart type visited unshaped (agree.trans live)

theorem Collects.reordered {id : Int} (collects : e.Collects r edges id) (alike : r.Reorders other)
    (same : edges.Perm others) (uniform : Uniform r edges) : e.Collects other others id := by
  rcases collects with ⟨edge, property, behind, listed, known⟩ |
    ⟨edge, type, member, first, unshaped, live, listed⟩
  · exact Or.inl ⟨edge, property, behind.reordered alike same, (alike.members _).mem_iff.mp listed,
      known⟩
  · obtain ⟨counterpart, visited, named, agree⟩ :=
      first.reordered (e := e) alike same uniform unshaped
    rw [← named, alike.shapes] at unshaped
    exact Or.inr ⟨counterpart, type, member, visited, unshaped, agree.trans live, listed⟩

/-- The collection of inherited ids is reachability. Each name in reach has one edge that is visited
first; there is a result exactly when the live types that count can be told, and it holds the ids of
the properties of all shapes in reach and of the members of those live types, and no others. When edges
of one name agree on the live type, the order of edges does not matter. -/
theorem inheritedIds_exact (e : Engine) (r : Registry) (edges : List Node) :
    (∀ edge, r.Behind edges edge →
      ∃! first, r.FirstVisited edges first ∧ first.name = edge.name) ∧
    (∀ edge, r.FirstVisited edges edge → r.Behind edges edge) ∧
    ((∃ ids, e.inheritedIds r edges = .ok ids) ↔ e.CanCollect r edges) ∧
    (∀ ids, e.inheritedIds r edges = .ok ids → ∀ id, id ∈ ids ↔ e.Collects r edges id) ∧
    (Uniform r edges → ∀ other others, r.Reorders other → edges.Perm others →
      ∀ ids, e.inheritedIds r edges = .ok ids →
        ∃ same, e.inheritedIds other others = .ok same ∧ ∀ id, id ∈ same ↔ id ∈ ids) := by
  obtain ⟨taken, search, -⟩ := e.inheritedIds_search r edges
  have returns {r : Registry} {edges : List Node} :
      (∃ ids, e.inheritedIds r edges = .ok ids) ↔ e.CanCollect r edges :=
    exists_inheritedIds_iff.trans canCollect_iff.symm
  refine ⟨fun _ behind => search.existsUnique behind, fun _ first => first.behind, returns,
    fun _ ran => collects_of_inheritedIds ran, ?_⟩
  intro uniform other others alike same ids ran
  have able := returns.mp ⟨ids, ran⟩
  obtain ⟨result, found⟩ := returns.mpr (able.reordered alike same uniform)
  refine ⟨result, found, fun id => ?_⟩
  rw [collects_of_inheritedIds found, collects_of_inheritedIds ran]
  constructor
  · intro collects
    exact collects.reordered alike.symm same.symm (uniform.reordered alike same)
  · intro collects
    exact collects.reordered alike same uniform

def farEngine : Engine where
  program := (Build.objectLiteral [("far", .plain (some Program.stringType))] [] none none
    (Program.start "src/index.ts")).2
  settings := {}
  libraries := {}

def farEdge : Node.Ref Node := { name := "Far", live := some ⟨15⟩ }

def crossedEntry (bases : List (Node.Ref Node)) (id : Int) : Node :=
  .interface
    { bases := bases.map .ref
      props := [.prop { name := "own", id := some id, value := .unidentified }] }

def crossed : Registry where
  entries :=
    [("Top", crossedEntry [{ name := "Left" }, { name := "Right" }] 1),
     ("Left", crossedEntry [{ name := "Bottom" }] 2),
     ("Right", crossedEntry [{ name := "Bottom" }] 3),
     ("Bottom", crossedEntry [{ name := "Top" }, farEdge] 4)]

def crossedEdges : List Node := [.ref { name := "Left" }, .ref { name := "Right" }]

theorem of_behind_crossed {edge : Node.Ref Node} (behind : crossed.Behind crossedEdges edge) :
    edge.name ∈ ["Top", "Left", "Right", "Bottom"] ∨ edge = farEdge := by
  induction behind with
  | edge member =>
      simp only [crossedEdges, List.mem_cons, List.not_mem_nil, or_false, Node.ref.injEq] at member
      rcases member with rfl | rfl <;> simp
  | @further edge next _ member ih =>
      have leaving : crossed.outgoing "Top" = [.ref { name := "Left" }, .ref { name := "Right" }] ∧
          crossed.outgoing "Left" = [.ref { name := "Bottom" }] ∧
          crossed.outgoing "Right" = [.ref { name := "Bottom" }] ∧
          crossed.outgoing "Bottom" = [.ref { name := "Top" }, .ref farEdge] ∧
          crossed.outgoing farEdge.name = [] := by
        refine ⟨?_, ?_, ?_, ?_, ?_⟩ <;> rfl
      obtain ⟨top, left, right, bottom, far⟩ := leaving
      simp only [List.mem_cons, List.not_mem_nil, or_false] at ih
      rcases ih with (named | named | named | named) | rfl
      · rw [named, top] at member
        simp only [List.mem_cons, List.not_mem_nil, or_false, Node.ref.injEq] at member
        rcases member with rfl | rfl <;> simp
      · rw [named, left] at member
        simp only [List.mem_singleton, Node.ref.injEq] at member
        simp [member]
      · rw [named, right] at member
        simp only [List.mem_singleton, Node.ref.injEq] at member
        simp [member]
      · rw [named, bottom] at member
        simp only [List.mem_cons, List.not_mem_nil, or_false, Node.ref.injEq] at member
        rcases member with rfl | rfl <;> simp
      · rw [far] at member
        cases member

theorem uniform_crossed : Uniform crossed crossedEdges := by
  have shapes (name : String) (listed : name ∈ ["Top", "Left", "Right", "Bottom"]) :
      crossed.holdsShape name = true := by
    simp only [List.mem_cons, List.not_mem_nil, or_false] at listed
    rcases listed with rfl | rfl | rfl | rfl <;> rfl
  have far (edge : Node.Ref Node) (behind : crossed.Behind crossedEdges edge)
      (unshaped : crossed.holdsShape edge.name = false) : edge = farEdge := by
    rcases of_behind_crossed behind with listed | same
    · rw [shapes _ listed] at unshaped
      cases unshaped
    · exact same
  intro a b first second named unshaped
  rw [far a first unshaped, far b second (named ▸ unshaped)]

/-- Every entry of the cycle is read once and the missing one is known by its live type, whichever edge
comes first. -/
theorem inheritedIds_exact_crossed :
    (∃! first, crossed.FirstVisited crossedEdges first ∧ first.name = "Far") ∧
    farEngine.Collects crossed crossedEdges 19 ∧
    ∃ same, farEngine.inheritedIds crossed crossedEdges.reverse = .ok same ∧
      ∀ id, id ∈ same ↔ id ∈ [2, 4, 1, 3, 19] := by
  obtain ⟨once, -, -, exact_, any⟩ := inheritedIds_exact farEngine crossed crossedEdges
  have read : (farEngine.inheritedIds crossed crossedEdges).toOption = some [2, 4, 1, 3, 19] := by
    decide +kernel
  have ran : farEngine.inheritedIds crossed crossedEdges = .ok [2, 4, 1, 3, 19] := by
    cases result : farEngine.inheritedIds crossed crossedEdges with
    | error fault =>
        rw [result] at read
        cases read
    | ok ids =>
        rw [result] at read
        exact congrArg Except.ok (Option.some.inj read)
  have left : crossed.Behind crossedEdges { name := "Left" } := .edge (List.mem_cons_self ..)
  have bottom : crossed.Behind crossedEdges { name := "Bottom" } :=
    .further left (List.mem_singleton_self _)
  have far : crossed.Behind crossedEdges farEdge :=
    .further bottom (List.mem_cons_of_mem _ (List.mem_singleton_self _))
  have alike : crossed.Reorders crossed := ⟨fun _ => rfl, fun _ => .refl _, fun _ => .refl _⟩
  refine ⟨once farEdge far, (exact_ _ ran 19).mp (by simp), ?_⟩
  exact any uniform_crossed crossed crossedEdges.reverse alike (List.reverse_perm _).symm _ ran

end Engine

end TypeAtlas
