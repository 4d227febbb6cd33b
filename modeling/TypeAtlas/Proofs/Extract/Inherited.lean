import TypeAtlas.Proofs.Extract.Orderly
import TypeAtlas.Proofs.Extract.Search

/-!
Inherited members. A shape lists the members of its type that are not inherited: those that the search
along its edges does not come to.
-/

namespace TypeAtlas

def Program.OnlyExtends (p : Program) (type : TypeId) : Prop :=
  ∀ site, p.firstDeclaration (p.type type).symbol = some site →
    ∀ clause ∈ (p.site site).heritage, clause.token = .bases

/-- The id of a static member of a class. -/
def Program.Static (p : Program) (type : TypeId) (id : Int) : Prop :=
  ∃ symbol exports member site, (p.type type).symbol = some symbol ∧
    (p.symbol symbol).exports.each = .ok exports ∧ some member ∈ exports ∧
    (p.symbol member).valueDeclaration = some site ∧
    id = p.memberId ((p.site site).symbol.getD member)

namespace Engine

open Extract

variable {e : Engine} {w after : Walk}

theorem memberId_of_includeProp {prop : SymbolId} {node : Node}
    (ran : e.includeProp prop w = (.ok node, after)) :
    node.memberId? = some (e.program.memberId prop) := by
  obtain ⟨modifiers, _, -, ran⟩ := of_bind_ok ran
  obtain ⟨comment, _, -, ran⟩ := of_bind_ok ran
  obtain ⟨value, _, -, ran⟩ := of_bind_ok ran
  cases ran
  rfl

theorem holds_of_mapM {α β : Type} {f : α → Extract β} {holds : β → Prop}
    {items : List α} {values : List β}
    (each : ∀ item ∈ items, ∀ w value after, f item w = (.ok value, after) → holds value)
    (ran : items.mapM f w = (.ok values, after)) : ∀ value ∈ values, holds value := by
  induction items generalizing w values with
  | nil =>
      cases ran
      simp
  | cons item rest ih =>
      rw [List.mapM_cons] at ran
      obtain ⟨value, _, first, ran⟩ := of_bind_ok ran
      obtain ⟨others, _, second, ran⟩ := of_bind_ok ran
      cases ran
      intro other member
      rcases List.mem_cons.mp member with rfl | member
      · exact each item (List.mem_cons_self ..) _ _ _ first
      · exact ih (fun item held => each item (List.mem_cons_of_mem _ held)) second other member

/-- The properties that are written down are those whose id is not inherited, in their order. -/
theorem own_of_mapM {inherited : List Int} {properties : List (Option SymbolId)}
    {lists : List (List Node)}
    (ran : properties.mapM (e.includeOwn inherited) w = (.ok lists, after)) :
    ∃ members : List SymbolId, properties = members.map some ∧ lists.flatten.map Node.memberId? =
      ((members.map e.program.memberId).filter fun id => !inherited.contains id).map some := by
  induction properties generalizing w lists with
  | nil =>
      cases ran
      exact ⟨[], rfl, rfl⟩
  | cons prop rest ih =>
      rw [List.mapM_cons] at ran
      obtain ⟨own, between, first, ran⟩ := of_bind_ok ran
      obtain ⟨others, final, second, ran⟩ := of_bind_ok ran
      cases ran
      obtain ⟨members, rfl, same⟩ := ih second
      obtain ⟨member, asked, found, wrote⟩ := of_bind_ok first
      rw [lift_apply, Prod.mk.injEq] at found
      obtain rfl := of_present found.1
      refine ⟨member :: members, rfl, ?_⟩
      rw [List.flatten_cons, List.map_append, same, List.map_cons, List.filter_cons]
      split at wrote
      · rename_i isInherited
        cases wrote
        rw [isInherited]
        rfl
      · rename_i isOwn
        obtain ⟨node, _, made, written⟩ := of_bind_ok wrote
        cases written
        rw [Bool.not_eq_true] at isOwn
        rw [isOwn, List.map_singleton, memberId_of_includeProp made]
        rfl

/-- A shape that was made of a type while the registry was as given: it lists the properties that are
not inherited, in their order, and no others but static ones. -/
structure Lists (e : Engine) (r : Registry) (type : TypeId) (edges props : List Node)
    (members : List SymbolId) (inherited : List Int) : Prop where
  each : (e.program.type type).properties.each = .ok (members.map some)
  ids : e.inheritedIds r edges = .ok inherited
  own : ∃ own rest, props = own ++ rest ∧
    own.map Node.memberId? =
      ((members.map e.program.memberId).filter fun id => !inherited.contains id).map some ∧
    ∀ node ∈ rest, ∀ id, node.memberId? = some id → e.program.Static type id

theorem memberId_of_includeOwnIndex {type : TypeId} {edges : List Node} {kind : IndexKind}
    {nodes : List Node} (ran : e.includeOwnIndex type edges kind w = (.ok nodes, after)) :
    ∀ node ∈ nodes, node.memberId? = none := by
  cases held : e.program.indexTypeOf kind type with
  | none =>
      simp only [includeOwnIndex, held] at ran
      cases ran
      simp
  | some value =>
      simp only [includeOwnIndex, held] at ran
      split at ran
      · cases ran
        simp
      · obtain ⟨made, _, wrote, ran⟩ := of_bind_ok ran
        cases ran
        obtain ⟨name, _, -, wrote⟩ := of_bind_ok wrote
        obtain ⟨value, _, -, wrote⟩ := of_bind_ok wrote
        cases wrote
        simp [Node.memberId?]

theorem lists_of_includeShape {type : TypeId} {heritage : Heritage} {shape : Node.Shape Node}
    (ran : e.includeShape type heritage w = (.ok shape, after)) :
    shape.bases = heritage.bases ∧ ∃ members inherited,
      e.Lists w.registry type heritage.edges shape.props members inherited := by
  obtain ⟨seen, same, got, ran⟩ := of_bind_ok ran
  cases got
  obtain ⟨inherited, same, ids, ran⟩ := of_bind_ok ran
  rw [lift_apply, Prod.mk.injEq] at ids
  obtain ⟨ids, rfl⟩ := ids
  obtain ⟨properties, same, each, ran⟩ := of_bind_ok ran
  rw [lift_apply, Prod.mk.injEq] at each
  obtain ⟨each, rfl⟩ := each
  obtain ⟨props, _, own, ran⟩ := of_bind_ok ran
  obtain ⟨members, same, listed⟩ := own_of_mapM own
  rw [same] at each
  obtain ⟨numbers, _, number, ran⟩ := of_bind_ok ran
  obtain ⟨strings, _, string, ran⟩ := of_bind_ok ran
  obtain ⟨signatures, _, -, ran⟩ := of_bind_ok ran
  obtain ⟨calls, _, called, ran⟩ := of_bind_ok ran
  obtain ⟨comment, _, -, ran⟩ := of_bind_ok ran
  obtain ⟨types, _, -, ran⟩ := of_bind_ok ran
  cases ran
  have plain : ∀ node ∈ calls, node.memberId? = none := by
    refine holds_of_mapM (fun signature _ w node after made => ?_) called
    obtain ⟨callable, _, -, made⟩ := of_bind_ok made
    cases made
    rfl
  refine ⟨rfl, members, inherited, each, ids, props.flatten, numbers ++ strings ++ calls, by simp,
    listed, fun node member id held => ?_⟩
  have unlisted : node.memberId? = none := by
    simp only [List.mem_append] at member
    rcases member with (member | member) | member
    · exact memberId_of_includeOwnIndex number node member
    · exact memberId_of_includeOwnIndex string node member
    · exact plain node member
  rw [unlisted] at held
  cases held

theorem static_of_includeStatic {member : Option SymbolId} {nodes : List Node}
    (ran : e.includeStatic member w = (.ok nodes, after)) :
    ∀ node ∈ nodes, ∀ id, node.memberId? = some id → ∃ held site, member = some held ∧
      (e.program.symbol held).valueDeclaration = some site ∧
      id = e.program.memberId ((e.program.site site).symbol.getD held) := by
  obtain ⟨held, same, found, next⟩ := of_bind_ok ran
  rw [lift_apply, Prod.mk.injEq] at found
  obtain rfl := of_present found.1
  cases built : e.program.isPrototype held with
  | true =>
      simp only [built] at next
      cases next
      simp
  | false =>
      cases declared : (e.program.symbol held).valueDeclaration with
      | none =>
          simp only [built, declared] at next
          cases next
          simp
      | some site =>
          simp only [built, declared] at next
          obtain ⟨node, _, made, next⟩ := of_bind_ok next
          cases next
          intro other listed id known
          rw [List.mem_singleton] at listed
          subst listed
          rw [memberId_of_includeProp made] at known
          cases known
          exact ⟨held, site, rfl, declared, rfl⟩

theorem unlisted_of_includeConstructors {type : TypeId} {nodes : List Node}
    (ran : e.includeConstructors type w = (.ok nodes, after)) :
    ∀ node ∈ nodes, node.memberId? = none := by
  obtain ⟨sites, _, -, ran⟩ := of_bind_ok ran
  refine holds_of_mapM (fun site _ w node after made => ?_) ran
  obtain ⟨signature, _, -, made⟩ := of_bind_ok made
  obtain ⟨callable, _, -, made⟩ := of_bind_ok made
  cases made
  rfl

/-- A node is the shape of a type, made while the registry was as given. What an instantiation of a
class implements is not among its edges. -/
def Flattens (e : Engine) (r : Registry) (type : TypeId) (node : Node) : Prop :=
  ∃ members inherited implemented,
    e.Lists r type (node.outgoing ++ implemented) node.members members inherited ∧
      ((e.program.type type).isClass = true ∨ e.program.OnlyExtends type → implemented = [])

theorem implemented_of_includeClauses {clauses : List HeritageClause} {heritage : Heritage}
    (only : ∀ clause ∈ clauses, clause.token = .bases)
    (ran : e.includeClauses clauses w = (.ok heritage, after)) : heritage.implemented = [] := by
  induction clauses generalizing w heritage with
  | nil =>
      cases ran
      rfl
  | cons clause rest ih =>
      have token := only clause (List.mem_cons_self ..)
      obtain ⟨items, _, -, next⟩ := of_bind_ok ran
      obtain ⟨others, _, later, next⟩ := of_bind_ok next
      simp only [token] at next
      cases next
      have none := ih (fun clause member => only clause (List.mem_cons_of_mem _ member)) later
      exact none

theorem implemented_of_includeHeritage {type : TypeId} {heritage : Heritage}
    (only : e.program.OnlyExtends type)
    (ran : e.includeHeritage type w = (.ok heritage, after)) : heritage.implemented = [] := by
  cases declared : e.program.firstDeclaration (e.program.type type).symbol with
  | none =>
      simp only [includeHeritage, declared] at ran
      cases ran
      rfl
  | some site =>
      simp only [includeHeritage, declared] at ran
      split at ran
      · exact implemented_of_includeClauses (only site declared) ran
      · cases ran
        rfl

section Objects

variable (ordered : e.Orderly)
include ordered

theorem flattens_of_includeClass {type : TypeId} {node : Node}
    (ran : e.includeClass type w = (.ok node, after)) :
    ∃ between : Walk, w.Grows between ∧ between.Grows after ∧
      e.Flattens between.registry type node := by
  obtain ⟨heritage, between, shape, later, exported, statics, third, constructors, first, second, known,
    wrote, made, rfl⟩ := of_includeClass_ok ran
  obtain ⟨bases, members, inherited, lists⟩ := lists_of_includeShape second
  have before := (((orderly_ways ordered).includeHeritage type w).result first).1
  have middle := (((orderly_ways ordered).includeShape type heritage between).result second).1
  have written := ((orderly_mapM (orderly_visits ordered).includeStatic later).result wrote).1
  have built := (((orderly_visits ordered).includeConstructors type third).result made).1
  obtain ⟨own, rest, split, listed, others⟩ := lists.own
  refine ⟨between, before, (middle.trans written).trans built, members, inherited, [],
    ⟨lists.each, ?_, own, rest ++ statics.flatten ++ constructors, ?_, listed, ?_⟩, fun _ => rfl⟩
  · rw [Node.outgoing, bases, List.append_nil]
    exact lists.ids
  · simp [Node.members, split]
  · intro node member id held
    simp only [List.mem_append] at member
    rcases member with (member | member) | member
    · exact others node member id held
    · obtain ⟨nodes, inside, member⟩ := List.mem_flatten.mp member
      have static : ∀ nodes ∈ statics, ∀ node ∈ nodes, ∀ id, node.memberId? = some id →
          e.program.Static type id := by
        refine holds_of_mapM (fun item listed w nodes after ran node member id held => ?_) wrote
        obtain ⟨exposed, site, rfl, declared, rfl⟩ :=
          static_of_includeStatic ran node member id held
        obtain ⟨symbol, owner, exports⟩ := known (some exposed) listed
        exact ⟨symbol, exported, exposed, site, owner, exports, listed, declared, rfl⟩
      exact static nodes inside node member id held
    · rw [unlisted_of_includeConstructors made node member] at held
      cases held

theorem flattens_of_includeObject {type : TypeId} {node : Node}
    (ran : e.includeObject type w = (.ok (some node), after)) :
    (e.program.type type).isObject = true ∧ ((e.program.type type).isMapped = true ∨
      ∃ between : Walk, w.Grows between ∧ between.Grows after ∧
        e.Flattens between.registry type node) := by
  simp only [includeObject] at ran
  split at ran
  · cases ran
  · rename_i object
    refine ⟨by simpa using object, ?_⟩
    split at ran
    · exact Or.inl ‹_›
    · right
      split at ran
      · rw [map_eq] at ran
        obtain ⟨made, _, wrote, next⟩ := of_bind_ok ran
        cases next
        exact flattens_of_includeClass ordered wrote
      · obtain ⟨heritage, between, first, next⟩ := of_bind_ok ran
        obtain ⟨shape, later, second, next⟩ := of_bind_ok next
        cases next
        obtain ⟨bases, members, inherited, lists⟩ := lists_of_includeShape second
        have before := (((orderly_ways ordered).includeHeritage type w).result first).1
        have middle := (((orderly_ways ordered).includeShape type heritage between).result second).1
        refine ⟨between, before, middle, members, inherited, heritage.implemented, ?_, ?_⟩
        · rw [Node.outgoing, bases]
          exact lists
        · rintro (isClass | only)
          · exact absurd isClass ‹_›
          · exact implemented_of_includeHeritage only first

end Objects

end Engine

end TypeAtlas
