import TypeAtlas.Proofs.Builder.DescentCall
import TypeAtlas.Proofs.Extract.Heritage

/-!
What an entry lists of its type. An interface or a class lists the members that are declared at it, each
once and in their order: all others are inherited, and the search along the edges of the entry comes to
them, whether or not the bases had been built when the entry was made.
-/

namespace TypeAtlas

open Extract

variable {manner : Manner} {ages : Ages} {now : Nat}

namespace Program

variable {p : Program}

/-- A type has a member of the number. -/
def HasMember (p : Program) (type : TypeId) (id : Int) : Prop :=
  ∃ member, some member ∈ (p.type type).properties.slots ∧ p.memberId member = id

/-- Aliases have names. -/
def AliasesNamed (p : Program) : Prop :=
  ∀ symbol, (p.symbol symbol).hasFlag .typeAlias = true → (p.symbol symbol).name.isEmpty = false

theorem aliasesNamed_of_forall (each : ∀ s ∈ p.symbols.toList, s.hasFlag .typeAlias = true →
    s.name.isEmpty = false) : p.AliasesNamed :=
  p.symbol_of_forall (fun s => s.hasFlag .typeAlias = true → s.name.isEmpty = false)
    (fun aliased => by cases aliased) each

def rank (ages : Ages) (p : Program) (type : TypeId) : Nat :=
  (p.firstDeclaration (p.type type).symbol).elim 0 ages.site

theorem Rooted.first_eq {member declared : SymbolId} (rooted : p.Rooted member declared) :
    p.firstDeclaration (some member) = p.firstDeclaration (some declared) := by
  induction rooted with
  | declared => rfl
  | instantiated _ _ shared _ ih => exact shared.trans ih

theorem Rooted.original {member original declared : SymbolId} (rooted : p.Rooted member declared)
    (target : (p.symbol member).target = some original) : p.Rooted original declared := by
  cases rooted with
  | declared untargeted =>
      rw [untargeted] at target
      cases target
  | instantiated points _ _ rooted =>
      rw [target, Option.some_inj] at points
      exact points ▸ rooted

theorem Traced.parent_eq (traced : p.Traced) {a b rootA rootB : SymbolId} {parent other : SiteId}
    (rootedA : p.Rooted a rootA) (rootedB : p.Rooted b rootB) (same : p.memberId a = p.memberId b)
    (at_ : p.DeclaredBelow a parent) (also : p.DeclaredBelow b other) : parent = other := by
  rw [rootedA.memberId_eq, rootedB.memberId_eq] at same
  obtain rfl := traced.ascending.eq_of_id rootedA.declared_inside rootedB.declared_inside same
  obtain ⟨place, first, kind, below, inside⟩ := at_
  rw [rootedA.first_eq, ← rootedB.first_eq] at first
  exact DeclaredBelow.unique ⟨place, first, kind, below, inside⟩ also

theorem Traced.memberId_eq_original (traced : p.Traced) {type : TypeId} {member original : SymbolId}
    (held : some member ∈ (p.type type).properties.slots)
    (target : (p.symbol member).target = some original) : p.memberId original = p.memberId member := by
  obtain ⟨declared, rooted⟩ := traced.rooted ⟨type, held⟩
  rw [rooted.memberId_eq, (rooted.original target).memberId_eq]

/-- What stands at a place of a clause was there before the declaration of the clause. -/
theorem older_of_clause (fits : p.Fits manner ages now) (lineage : p.Lineage ages)
    {declaration site : SiteId} {clause : HeritageClause}
    (held : clause ∈ (p.site declaration).heritage) (listed : some site ∈ clause.types) {base : TypeId}
    (stands : (p.site site).answers.type = some (some base)) :
    base.index < ages.site declaration := by
  have kind := (fits.sites declaration).heritage clause held site listed
  have age := lineage.places declaration clause held site listed
  have older := ((fits.sites site).base kind base stands).1
  omega

theorem rank_le (fits : p.Fits manner ages now) (type : TypeId) : p.rank ages type ≤ type.index := by
  unfold rank
  cases known : (p.type type).symbol with
  | none => exact Nat.zero_le _
  | some symbol =>
      have age := ((fits.types type).symbol symbol known).1.2
      rw [firstDeclaration, Option.bind_some]
      cases first : (p.symbol symbol).declarations.first? with
      | none => exact Nat.zero_le _
      | some place =>
          have older := ((fits.symbols symbol).first place first).1.2
          exact Nat.le_trans older age

/-- A member that is declared at a type is not that of a type from before the declaration. -/
theorem not_hasMember_of_own (lineage : p.Lineage ages) (traced : p.Traced) {type other : TypeId}
    {member : SymbolId} (held : some member ∈ (p.type type).properties.slots)
    (own : p.isOwn type member = true) (older : other.index < p.rank ages type) :
    ¬ p.HasMember other (p.memberId member) := by
  rintro ⟨symbol, shown, same⟩
  obtain ⟨-, parent, declared, -⟩ := (lineage.types type).declared member held
  obtain ⟨-, place, also, age⟩ := (lineage.types other).declared symbol shown
  obtain ⟨_, rooted⟩ := traced.rooted ⟨type, held⟩
  obtain ⟨_, stems⟩ := traced.rooted ⟨other, shown⟩
  obtain rfl := traced.parent_eq rooted stems same.symm declared also
  rw [rank, declared.isOwn_iff.mp own, Option.elim_some] at older
  omega

/-- Nor is it a static member of a class from before. -/
theorem not_static_of_own (fits : p.Fits manner ages now) (lineage : p.Lineage ages) (traced : p.Traced)
    {type other : TypeId} {member : SymbolId} (held : some member ∈ (p.type type).properties.slots)
    (own : p.isOwn type member = true) (nominal : (p.type other).isNominal = true)
    (older : other.index < p.rank ages type) : ¬ p.Static other (p.memberId member) := by
  rintro ⟨symbol, exports, static, site, known, each, listed, value, same⟩
  have isNominal : (p.symbol symbol).isNominal = true := by
    obtain ⟨-, -, -, -, -, titled, titles, isNominal⟩ := (fits.types other).nominal nominal
    rw [known, Option.some_inj] at titles
    exact titles ▸ isNominal
  obtain ⟨declaration, first, ⟨-, valueless⟩ | ⟨-, at_, rooted, below⟩⟩ :=
    lineage.statics symbol isNominal static (Build.slots_of_each each ▸ listed)
  · rw [value] at valueless
    cases valueless
  · obtain ⟨place, found, stands⟩ := rooted.first
    rw [value, found, Option.some_inj] at at_
    subst at_
    rw [stands, Option.getD_some] at same
    obtain ⟨-, parent, declared, -⟩ := (lineage.types type).declared member held
    obtain ⟨_, stems⟩ := traced.rooted ⟨type, held⟩
    obtain rfl := traced.parent_eq stems rooted same declared below
    rw [rank, declared.isOwn_iff.mp own, Option.elim_some] at older
    have age := rank_le fits other
    rw [rank, known, firstDeclaration, Option.bind_some, first, Option.elim_some] at age
    omega

theorem nodup_own (fits : p.Fits manner ages now) (lineage : p.Lineage ages) (traced : p.Traced)
    {type : TypeId} (nominal : (p.type type).isNominal = true) {members : List SymbolId}
    (each : (p.type type).properties.each = .ok (members.map some)) :
    ((members.filter (p.isOwn type)).map p.memberId).Nodup := by
  have slots := Build.slots_of_each each
  have distinct := (lineage.types type).distinct nominal
  rw [slots] at distinct
  refine List.Nodup.map_on ?_ ((List.Nodup.of_map some distinct).filter _)
  intro a inA b inB same
  have single (member : SymbolId) (listed : member ∈ members.filter (p.isOwn type)) :
      p.Rooted member member := by
    obtain ⟨listed, own⟩ := List.mem_filter.mp listed
    have held : some member ∈ (p.type type).properties.slots := by
      rw [slots]
      exact List.mem_map_of_mem listed
    obtain ⟨declared, rooted⟩ := traced.rooted ⟨type, held⟩
    rcases (lineage.types type).passed nominal member held with ⟨-, untargeted⟩ | ⟨base, extends_, shown⟩
    · cases rooted with
      | declared untargeted first stands => exact .declared untargeted first stands
      | instantiated target =>
          rw [untargeted] at target
          cases target
    · -- A base would be from before the declaration, where no own member is.
      cases extends_ with
      | listed known first clause_ _ there _ stands =>
          exfalso
          refine not_hasMember_of_own lineage traced held own ?_ ⟨member, shown, rfl⟩
          rw [rank, known, firstDeclaration, Option.bind_some, first, Option.elim_some]
          exact older_of_clause fits lineage clause_ there stands
  have rootA := single a inA
  have rootB := single b inB
  rw [rootA.memberId_eq, rootB.memberId_eq] at same
  exact traced.ascending.eq_of_id rootA.inside rootB.inside same

end Program

namespace Engine

/-- Interfaces and classes get from their bases what is not declared at them: bases are older than the
declaration, and what is declared at a type is not found on any type from before. An instantiation goes by
the name of an older type that has its members. -/
structure Lineal (e : Engine) (rank : TypeId → Nat) : Prop where
  onlyExtends : ∀ type, (e.program.type type).isNominal = true →
    (e.program.type type).isClass = true ∨ e.program.OnlyExtends type
  within : ∀ type, rank type ≤ type.index
  older : ∀ type base, e.Derives type base → base.index < rank type
  passed : ∀ type member, (e.program.type type).isNominal = true →
    some member ∈ (e.program.type type).properties.slots → e.program.isOwn type member = false →
      ∃ base, e.Derives type base ∧ e.program.HasMember base (e.program.memberId member)
  apart : ∀ type member, some member ∈ (e.program.type type).properties.slots →
    e.program.isOwn type member = true → ∀ other : TypeId, other.index < rank type →
      ¬ e.program.HasMember other (e.program.memberId member) ∧
        ((e.program.type other).isNominal = true → ¬ e.program.Static other (e.program.memberId member))
  numbered : ∀ type id, e.program.HasMember type id → id ≠ 0
  entry : ∀ base, (e.program.type base).symbol ≠ none → (e.entryType base).index ≤ base.index ∧
    ∀ id, e.program.HasMember base id → e.program.HasMember (e.entryType base) id

theorem lineal_of_lineage {e : Engine} (fits : e.program.Fits manner ages now)
    (lineage : e.program.Lineage ages) (traced : e.program.Traced) :
    e.Lineal (e.program.rank ages) := by
  refine ⟨?_, e.program.rank_le fits, ?_, ?_, ?_, ?_, ?_⟩
  · intro type nominal
    obtain ⟨symbol, declaration, known, first, ⟨isClass, -⟩ | kind⟩ := (lineage.types type).stands nominal
    · exact Or.inl isClass
    · refine Or.inr fun site found clause held => ?_
      rw [known, Program.firstDeclaration, Option.bind_some, first, Option.some_inj] at found
      subst found
      exact lineage.bases declaration kind clause held
  · rintro type base ⟨site, ⟨-, declared, -, held, listed, -⟩, denoted⟩
    rw [Program.rank, declared, Option.elim_some]
    exact Program.older_of_clause fits lineage held listed (Build.answer_of_typeAt denoted)
  · intro type member nominal held other
    rcases (lineage.types type).passed nominal member held with ⟨own, -⟩ | ⟨base, extends_, shown⟩
    · rw [own] at other
      cases other
    · refine ⟨base, ?_, member, shown, rfl⟩
      cases extends_ with
      | @listed symbol declaration site clause known first clause_ token there kind stands =>
          obtain ⟨titled, place, titles, found, kinds⟩ := (lineage.types type).stands nominal
          rw [known, Option.some_inj] at titles
          subst titles
          rw [first, Option.some_inj] at found
          subst found
          refine ⟨site, .listed nominal ?_ ?_ clause_ there (Or.inl token), ?_⟩
          · rw [known, Program.firstDeclaration, Option.bind_some, first]
          · rcases kinds with ⟨-, kind⟩ | kind <;> simp [Program.hasKind, kind]
          · simp only [Program.typeAt, Program.recordedType, Program.siteAnswers, stands]
  · intro type member held own other older
    exact ⟨Program.not_hasMember_of_own lineage traced held own older,
      fun nominal => Program.not_static_of_own fits lineage traced held own nominal older⟩
  · rintro type id ⟨member, held, rfl⟩
    obtain ⟨declared, rooted⟩ := traced.rooted ⟨type, held⟩
    rw [rooted.memberId_eq]
    exact lineage.numbered declared rooted.declared_inside
  · intro base named
    cases reference : (e.program.type base).isReference with
    | false =>
        have same : e.entryType base = base := by simp [entryType, reference]
        rw [same]
        exact ⟨Nat.le_refl _, fun id has => has⟩
    | true =>
        obtain ⟨generic, target, older, copies⟩ := (lineage.types base).made reference named
        have same : e.entryType base = generic := by simp [entryType, reference, target]
        rw [same]
        refine ⟨Nat.le_of_lt older, ?_⟩
        rintro id ⟨member, held, rfl⟩
        obtain ⟨original, points, shown⟩ := copies member held
        exact ⟨original, shown, traced.memberId_eq_original held points⟩

/-- Names tell types apart: a name is that of the instantiations of one declared type, and bases of one
name have the same members. -/
structure Distinct (e : Engine) : Prop where
  sole : ∀ type other name, e.program.Registers type name → e.program.Registers other name →
    e.entryType type = e.entryType other
  entry : ∀ heir base type name, e.Derives heir base → e.TitledAs base name →
    e.program.Registers type name → e.entryType type = e.entryType base ∧
      (e.program.type (e.entryType base)).isNominal = true ∧ (e.program.type base).symbol ≠ none
  agree : ∀ heir base other rival name, e.Derives heir base → e.Derives other rival →
    e.TitledAs base name → e.TitledAs rival name →
      ∀ id, e.program.HasMember base id → e.program.HasMember rival id

/-- A node lists the members that are declared at a type, in their order, and else only static ones. -/
def ListsOwn (e : Engine) (type : TypeId) (node : Node) : Prop :=
  ∃ (members : List SymbolId) (own rest : List Node),
    (e.program.type type).properties.each = .ok (members.map some) ∧ node.members = own ++ rest ∧
      own.map Node.memberId? =
        ((members.filter (e.program.isOwn type)).map e.program.memberId).map some ∧
      ∀ node ∈ rest, ∀ id, node.memberId? = some id → e.program.Static type id

structure Upright (e : Engine) (r : Registry) : Prop where
  flat : ∀ name node, node.isShape = true → r.get? name = some node →
    e.program.Flattened r name node
  linked : ∀ name node, node.isShape = true → r.get? name = some node →
    ∃ type, e.program.Registers type name ∧
      ((e.program.type (e.entryType type)).isNominal = true →
        e.Links (e.Derives (e.entryType type)) node.outgoing)

section Upright

variable {e : Engine} {r : Registry} {rank : TypeId → Nat} (upright : e.Upright r)
  (distinct : e.Distinct)
include upright distinct

theorem links_of_upright {name : String} {node : Node} (shape : node.isShape = true)
    (held : r.get? name = some node) {type : TypeId} (registers : e.program.Registers type name)
    (nominal : (e.program.type (e.entryType type)).isNominal = true) :
    e.Links (e.Derives (e.entryType type)) node.outgoing := by
  obtain ⟨other, called, links⟩ := upright.linked name node shape held
  rw [distinct.sole other type name called registers] at links
  exact links nominal

theorem made_of_upright (fits : e.program.Fits manner ages now) (lineal : e.Lineal rank) {name : String}
    {node : Node} (shape : node.isShape = true) (held : r.get? name = some node) {type : TypeId}
    (registers : e.program.Registers type name)
    (nominal : (e.program.type (e.entryType type)).isNominal = true) :
    ∃ (earlier : Registry) (members : List SymbolId) (inherited : List Int) (own rest : List Node),
      earlier.KeepsShapes r ∧
      (e.program.type (e.entryType type)).properties.each = .ok (members.map some) ∧
      (∀ id, id ∈ inherited ↔ e.Collects earlier node.outgoing id) ∧ node.members = own ++ rest ∧
      own.map Node.memberId? =
        ((members.map e.program.memberId).filter fun id => !inherited.contains id).map some ∧
      ∀ node ∈ rest, ∀ id, node.memberId? = some id → e.program.Static (e.entryType type) id := by
  obtain ⟨f, other, program, called, shaped⟩ := upright.flat name node shape held
  have entry : f.entryType other = e.entryType type := by
    have same : f.entryType other = e.entryType other := by simp only [entryType, program]
    rw [same, distinct.sole other type name called registers]
  rw [entry] at shaped
  rcases shaped with mapped | ⟨g, earlier, program, keeps, members, inherited, implemented, lists, only⟩
  · obtain ⟨-, -, -, unmapped, -⟩ := (fits.types _).nominal nominal
    rw [TypeInfo.isMapped, unmapped, Bool.and_false] at mapped
    cases mapped
  · have none : implemented = [] := by
      have extending := lineal.onlyExtends _ nominal
      rw [program] at only
      exact only extending
    subst none
    rw [List.append_nil] at lists
    obtain ⟨each, ids, own, rest, split, listed, static⟩ := lists
    have collects := collects_of_inheritedIds ids
    simp only [Collects] at collects
    rw [program] at each collects listed static
    exact ⟨earlier, members, inherited, own, rest, keeps, each, collects, split, listed, static⟩

variable (lineal : e.Lineal rank)
include lineal

/-- Whatever is behind the edges of a shape is a base, and older than the declaration of the type. -/
theorem base_of_behind {earlier : Registry} (keeps : earlier.KeepsShapes r) {type : TypeId}
    {edges : List Node} (links : e.Links (e.Derives type) edges) {edge : Node.Ref Node}
    (behind : earlier.Behind edges edge) :
    ∃ heir base, e.Derives heir base ∧ e.LeadsTo edge base ∧ base.index < rank type := by
  induction behind with
  | edge member =>
      obtain ⟨base, derives, leads⟩ := links.sound _ member
      exact ⟨type, base, derives, leads, lineal.older type base derives⟩
  | @further edge next _ member ih =>
      obtain ⟨heir, base, derives, leads, older⟩ := ih
      unfold Registry.outgoing at member
      cases held : earlier.get? edge.name with
      | none =>
          rw [held] at member
          cases member
      | some node =>
          rw [held] at member
          have shape := Node.isShape_of_mem_outgoing member
          have held := keeps edge.name node shape held
          obtain ⟨other, registers, -⟩ := upright.linked edge.name node shape held
          obtain ⟨same, nominal, titled⟩ :=
            distinct.entry heir base other edge.name derives leads.titled registers
          have notLater := (lineal.entry base titled).1
          rw [← same] at nominal notLater
          obtain ⟨further, below, leadsNext⟩ :=
            (links_of_upright upright distinct shape held registers nominal).sound next member
          have olderNext := lineal.older _ _ below
          have within := lineal.within (e.entryType other)
          exact ⟨_, further, below, leadsNext, by omega⟩

/-- The search comes to every member of a base behind the edges, as long as the shapes of older types
list what is declared at these. -/
theorem collects_of_base (bound : Nat)
    (listing : ∀ name node type, node.isShape = true → r.get? name = some node →
      e.program.Registers type name → (e.program.type (e.entryType type)).isNominal = true →
        (e.entryType type).index < bound → e.ListsOwn (e.entryType type) node)
    {earlier : Registry} (keeps : earlier.KeepsShapes r) {type : TypeId}
    {edges : List Node} (links : e.Links (e.Derives type) edges) (level : Nat) {heir base : TypeId}
    {edge : Node.Ref Node} (derives : e.Derives heir base) (leads : e.LeadsTo edge base)
    (older : base.index < bound) (below : base.index < level)
    (behind : earlier.Behind edges edge) {id : Int} (member : e.program.HasMember base id) :
    e.Collects earlier edges id := by
  -- The level bounds the age of the base: each step goes on to a base of what the name stands for.
  induction level generalizing heir base edge with
  | zero => exact absurd below (Nat.not_lt_zero _)
  | succ level ih =>
      obtain ⟨taken, search, -⟩ := e.inheritedIds_search earlier edges
      obtain ⟨first, ⟨visited, same⟩, -⟩ := search.existsUnique behind
      obtain ⟨_, rival, rivals, leadsFirst, -⟩ :=
        base_of_behind upright distinct lineal keeps links visited.behind
      cases shaped : earlier.holdsShape first.name with
      | false =>
          -- Another base of the name may have been visited first, but it has the same members.
          have titled := leads.titled
          rw [← same] at titled
          obtain ⟨symbol, held, number⟩ :=
            distinct.agree _ _ _ _ _ derives rivals titled leadsFirst.titled id member
          exact Or.inr ⟨first, rival, symbol, visited, shaped, leadsFirst.live, held, number⟩
      | true =>
          rw [Registry.holdsShape] at shaped
          cases held : earlier.get? first.name with
          | none => simp [held] at shaped
          | some node =>
              have shape : node.isShape = true := by simpa [held] using shaped
              have kept := keeps first.name node shape held
              obtain ⟨other, registers, -⟩ := upright.linked first.name node shape kept
              rw [same] at registers
              obtain ⟨entry, nominal, titled⟩ :=
                distinct.entry heir base other edge.name derives leads.titled registers
              obtain ⟨notLater, has⟩ := lineal.entry base titled
              rw [← same] at registers
              rw [← entry] at nominal notLater has
              obtain ⟨members, own, rest, each, split, listed, -⟩ :=
                listing first.name node other shape kept registers nominal (by omega)
              obtain ⟨symbol, present, rfl⟩ := has id member
              have enlisted : symbol ∈ members := by
                rw [Build.slots_of_each each] at present
                simpa using present
              cases ownership : e.program.isOwn (e.entryType other) symbol with
              | true =>
                  have number : some (e.program.memberId symbol) ∈ own.map Node.memberId? := by
                    rw [listed]
                    refine List.mem_map_of_mem (List.mem_map_of_mem ?_)
                    exact List.mem_filter.mpr ⟨enlisted, ownership⟩
                  obtain ⟨prop, there, number⟩ := List.mem_map.mp number
                  cases prop with
                  | prop property =>
                      refine Or.inl ⟨first, property, visited.behind, ?_, number,
                        lineal.numbered _ _ ⟨symbol, present, rfl⟩⟩
                      simp [Registry.members, held, split, there]
                  | _ => cases number
              | false =>
                  obtain ⟨further, lower, has⟩ := lineal.passed _ symbol nominal present ownership
                  have youngerThan := lineal.older _ _ lower
                  have within := lineal.within (e.entryType other)
                  have links := links_of_upright upright distinct shape kept registers nominal
                  have some_ : (e.program.type further).properties.slots ≠ [] := by
                    obtain ⟨_, listed, -⟩ := has
                    exact List.ne_nil_of_mem listed
                  obtain ⟨next, there, leadsNext⟩ := links.full further lower some_
                  refine ih lower leadsNext (by omega) (by omega) ?_ has
                  refine .further visited.behind ?_
                  simpa [Registry.outgoing, held] using there

/-- The search comes to all that is not declared at a type. -/
theorem collects_of_inherited (bound : Nat)
    (listing : ∀ name node type, node.isShape = true → r.get? name = some node →
      e.program.Registers type name → (e.program.type (e.entryType type)).isNominal = true →
        (e.entryType type).index < bound → e.ListsOwn (e.entryType type) node)
    {earlier : Registry} (keeps : earlier.KeepsShapes r) {type : TypeId} (within : type.index ≤ bound)
    {edges : List Node} (links : e.Links (e.Derives type) edges)
    (nominal : (e.program.type type).isNominal = true) {member : SymbolId}
    (present : some member ∈ (e.program.type type).properties.slots)
    (inherited : e.program.isOwn type member = false) :
    e.Collects earlier edges (e.program.memberId member) := by
  obtain ⟨base, derives, has⟩ := lineal.passed _ member nominal present inherited
  have some_ : (e.program.type base).properties.slots ≠ [] := by
    obtain ⟨_, listed, -⟩ := has
    exact List.ne_nil_of_mem listed
  obtain ⟨edge, there, leads⟩ := links.full base derives some_
  have older := lineal.older _ _ derives
  have rank := lineal.within type
  exact collects_of_base upright distinct lineal bound listing keeps links (base.index + 1) derives leads
    (by omega) (Nat.lt_succ_self _) (.edge there) has

/-- A shape shows members and static members of older types only. -/
theorem found_of_listed {earlier : Registry} (keeps : earlier.KeepsShapes r) {heir base : TypeId}
    {edge : Node.Ref Node} (derives : e.Derives heir base) (leads : e.LeadsTo edge base)
    (listing : ∀ node type, node.isShape = true → r.get? edge.name = some node →
      e.program.Registers type edge.name → (e.program.type (e.entryType type)).isNominal = true →
        (e.entryType type).index ≤ base.index → e.ListsOwn (e.entryType type) node)
    {property : Node.Property Node} (listed : .prop property ∈ earlier.members edge.name) {id : Int}
    (number : property.id = some id) :
    ∃ shown : TypeId, shown.index ≤ base.index ∧ (e.program.type shown).isNominal = true ∧
      (e.program.HasMember shown id ∨ e.program.Static shown id) := by
  have shape := holdsShape_of_mem listed
  rw [Registry.holdsShape] at shape
  rw [Registry.members] at listed
  cases held : earlier.get? edge.name with
  | none => simp [held] at shape
  | some node =>
      have shape : node.isShape = true := by simpa [held] using shape
      have listed : .prop property ∈ node.members := by simpa [held] using listed
      have kept := keeps edge.name node shape held
      obtain ⟨other, registers, -⟩ := upright.linked edge.name node shape kept
      obtain ⟨entry, nominal, titled⟩ :=
        distinct.entry heir base other edge.name derives leads.titled registers
      have notLater := (lineal.entry base titled).1
      rw [← entry] at nominal notLater
      obtain ⟨members, own, rest, each, split, ids, static⟩ :=
        listing node other shape kept registers nominal notLater
      refine ⟨_, notLater, nominal, ?_⟩
      rw [split] at listed
      rcases List.mem_append.mp listed with mine | left
      · have there := List.mem_map_of_mem (f := Node.memberId?) mine
        rw [ids, show Node.memberId? (.prop property) = some id from number] at there
        simp only [List.mem_map, List.mem_filter, Option.some.injEq, exists_eq_right] at there
        obtain ⟨symbol, ⟨member, -⟩, rfl⟩ := there
        left
        refine ⟨symbol, ?_, rfl⟩
        rw [Build.slots_of_each each]
        exact List.mem_map_of_mem member
      · exact Or.inr (static _ left id number)

/-- The search leaves out just what is declared at a type, as long as the shapes of older types list what
is declared at these. -/
theorem not_contains_of_listing (bound : Nat)
    (listing : ∀ name node type, node.isShape = true → r.get? name = some node →
      e.program.Registers type name → (e.program.type (e.entryType type)).isNominal = true →
        (e.entryType type).index < bound → e.ListsOwn (e.entryType type) node)
    {earlier : Registry} (keeps : earlier.KeepsShapes r) {type : TypeId} (within : type.index ≤ bound)
    {edges : List Node} (links : e.Links (e.Derives type) edges)
    (nominal : (e.program.type type).isNominal = true) {inherited : List Int}
    (collects : ∀ id, id ∈ inherited ↔ e.Collects earlier edges id) {member : SymbolId}
    (present : some member ∈ (e.program.type type).properties.slots) :
    (!inherited.contains (e.program.memberId member)) = e.program.isOwn type member := by
  have rank := lineal.within type
  cases ownership : e.program.isOwn type member with
  | true =>
      rw [Bool.not_eq_true', Bool.eq_false_iff, ne_eq, List.contains_iff_mem, collects]
      have apart := lineal.apart _ member present ownership
      rintro (⟨edge, property, behind, listed, number, -⟩ |
        ⟨edge, base, symbol, visited, -, live, there, same⟩)
      · obtain ⟨heir, base, derives, leads, older⟩ :=
          base_of_behind upright distinct lineal keeps links behind
        obtain ⟨shown, notLater, isNominal, found⟩ :=
          found_of_listed upright distinct lineal keeps derives leads
            (fun node other shape kept registers nominal notLater =>
              listing _ node other shape kept registers nominal (by omega)) listed number
        obtain ⟨unshown, unstatic⟩ := apart shown (by omega)
        exact found.elim unshown (unstatic isNominal)
      · obtain ⟨heir, base', -, leads, older⟩ :=
          base_of_behind upright distinct lineal keeps links visited.behind
        rw [leads.live] at live
        cases live
        exact (apart base older).1 ⟨symbol, there, same⟩
  | false =>
      rw [Bool.not_eq_false', List.contains_iff_mem, collects]
      exact collects_of_inherited upright distinct lineal bound listing keeps within links nominal present
        ownership

theorem listsOwn_of_older (fits : e.program.Fits manner ages now) (bound : Nat) {name : String}
    {node : Node} {type : TypeId} (shape : node.isShape = true) (held : r.get? name = some node)
    (registers : e.program.Registers type name)
    (nominal : (e.program.type (e.entryType type)).isNominal = true)
    (below : (e.entryType type).index < bound) : e.ListsOwn (e.entryType type) node := by
  -- The shapes that a search comes to are those of bases, so that only older ones have to be known.
  induction bound generalizing name node type with
  | zero => exact absurd below (Nat.not_lt_zero _)
  | succ bound ih =>
      have links := links_of_upright upright distinct shape held registers nominal
      obtain ⟨earlier, members, inherited, own, rest, keeps, each, collects, split, listed, static⟩ :=
        made_of_upright upright distinct fits lineal shape held registers nominal
      refine ⟨members, own, rest, each, split, ?_, static⟩
      rw [listed, List.filter_map]
      refine congrArg (List.map some) (congrArg (List.map e.program.memberId) ?_)
      refine List.filter_congr fun member there => ?_
      refine not_contains_of_listing upright distinct lineal bound
        (fun name node type shape held registers nominal below => ih shape held registers nominal below)
        keeps (Nat.le_of_lt_succ below) links nominal collects ?_
      rw [Build.slots_of_each each]
      exact List.mem_map_of_mem there

/-- What is found along the edges of a type, at any time, leaves out just what is declared at it. -/
theorem not_contains_of_inheritedIds (fits : e.program.Fits manner ages now) {earlier : Registry}
    (keeps : earlier.KeepsShapes r) {type : TypeId} {edges : List Node}
    (links : e.Links (e.Derives type) edges) (nominal : (e.program.type type).isNominal = true)
    {inherited : List Int} (found : e.inheritedIds earlier edges = .ok inherited) {member : SymbolId}
    (present : some member ∈ (e.program.type type).properties.slots) :
    (!inherited.contains (e.program.memberId member)) = e.program.isOwn type member :=
  not_contains_of_listing upright distinct lineal type.index
    (fun _ _ _ shape held registers nominal _ =>
      listsOwn_of_older upright distinct lineal fits _ shape held registers nominal (Nat.lt_succ_self _))
    keeps (Nat.le_refl _) links nominal (collects_of_inheritedIds found) present

end Upright

/-- What a heritage clause may lead to is referred to by a name, unless it has no members. -/
theorem suited_of_isBase {e : Engine} (fits : e.program.Fits manner ages now)
    (lineage : e.program.Lineage ages) (traced : e.program.Traced)
    (named : e.program.NominalsNamed e.settings) (aliases : e.program.AliasesNamed) {base : TypeId}
    (isBase : e.program.isBase base = true) : e.Suited base := by
  have typeFits := fits.types base
  cases aliased : (e.program.type base).alias? with
  | none =>
      have nominal := isBase
      simp only [Program.isBase, aliased, Option.isSome_none, Bool.or_false, Option.any_eq_true] at nominal
      obtain ⟨symbol, held, nominal⟩ := nominal
      obtain ⟨flags, -⟩ := typeFits.declared symbol held nominal
      refine .referable (referable_of_isBase fits named isBase held ?_) ?_
      · exact nonempty_of_usable (named symbol nominal)
      · simp [TypeInfo.isTypeParameter, TypeInfo.hasFlag, flags]
  | some symbol =>
      obtain ⟨isAlias, -⟩ := typeFits.aliased symbol aliased
      cases keyof : (e.program.type base).keyofOperand? with
      | some operand =>
          refine .keyof (by rw [keyof]; rfl) (List.eq_nil_iff_forall_not_mem.mpr fun slot held => ?_)
          obtain ⟨member, _, rfl, -⟩ := traced.properties base slot held
          obtain ⟨flags, -⟩ := (lineage.types base).declared member held
          simp [TypeInfo.keyofOperand?, TypeInfo.hasFlag, flags] at keyof
      | none =>
          have given := aliases symbol isAlias
          have called : e.nameOf (e.program.type base) = some (e.program.symbol symbol).name := by
            simp [nameOf, aliased, given]
          refine .referable ⟨keyof, _, called, given, Or.inl ⟨by rw [aliased]; rfl, fun same => ?_⟩⟩ ?_
          · rw [aliased] at same
            rw [(typeFits.symbol symbol same.symm).2] at isAlias
            cases isAlias
          · cases param : (e.program.type base).isTypeParameter with
            | false => rfl
            | true =>
                rw [(typeFits.parameter param).1] at aliased
                cases aliased

end Engine

namespace Program

variable {p : Program}

def registeredNames (p : Program) (type : TypeId) : List String :=
  if (p.type type).mayRegister then
    (p.type type).symbol.toList.map (fun symbol => (p.symbol symbol).name) ++
      p.sites.toList.filterMap fun s =>
        if s.kind == .typeReference && s.answers.type == some (some type) then s.name else none
  else []

theorem Registers.listed {type : TypeId} {name : String} (registers : p.Registers type name) :
    name ∈ p.registeredNames type := by
  obtain ⟨may, called⟩ := registers
  rw [registeredNames, if_pos may, List.mem_append]
  cases called with
  | own held => exact Or.inl (by simp [held])
  | @written site name reference denoted called =>
      have kind : (p.site site).kind = .typeReference := by
        simpa [isReferenceSite, hasKind] using reference
      have inside := p.site_of_forall (fun s => s.kind = .typeReference → s ∈ p.sites.toList)
        (fun kind => by cases kind) (fun s member _ => member) site kind
      refine Or.inr (List.mem_filterMap.mpr ⟨_, inside, ?_⟩)
      simp [kind, Build.answer_of_typeAt denoted, called]

def baseTypes (p : Program) : List TypeId :=
  p.sites.toList.flatMap fun s => s.heritage.flatMap fun clause => clause.types.filterMap fun site =>
    site.bind fun site => (p.site site).answers.type.join

theorem mem_baseTypes {e : Engine} {heir base : TypeId} (derives : e.Derives heir base) :
    base ∈ e.program.baseTypes := by
  obtain ⟨site, ⟨-, -, -, held, listed, -⟩, denoted⟩ := derives
  rename_i declaration clause
  have inside := e.program.site_of_forall (fun s => clause ∈ s.heritage → s ∈ e.program.sites.toList)
    (fun held => by cases held) (fun s member _ => member) declaration held
  refine List.mem_flatMap.mpr ⟨_, inside, List.mem_flatMap.mpr ⟨clause, held, ?_⟩⟩
  refine List.mem_filterMap.mpr ⟨_, listed, ?_⟩
  simp [Build.answer_of_typeAt denoted]

def numbers (p : Program) (type : TypeId) : List Int :=
  (p.type type).properties.slots.filterMap fun slot => slot.map p.memberId

theorem hasMember_iff {type : TypeId} {id : Int} : p.HasMember type id ↔ id ∈ p.numbers type := by
  simp [HasMember, numbers]

end Program

namespace Engine

variable {e : Engine}

def isDistinct (e : Engine) : Bool :=
  let types := (List.range e.program.types.size).map TypeId.mk
  let bases := e.program.baseTypes
  types.all (fun type => (e.program.registeredNames type).all fun name => types.all fun other =>
      !(e.program.registeredNames other).contains name || e.entryType type == e.entryType other) &&
    bases.all fun base => (e.nameOf (e.program.type base)).all fun name =>
      types.all (fun type => !(e.program.registeredNames type).contains name ||
        e.entryType type == e.entryType base && (e.program.type (e.entryType base)).isNominal &&
          (e.program.type base).symbol.isSome) &&
      bases.all fun rival => e.nameOf (e.program.type rival) != some name ||
        (e.program.numbers base).all (e.program.numbers rival).contains

theorem distinct_of_isDistinct (inside : ∀ symbol, (e.originOf (some symbol)).scope? = none)
    (checked : e.isDistinct = true) : e.Distinct := by
  simp only [isDistinct, Bool.and_eq_true, List.all_eq_true] at checked
  obtain ⟨types, bases⟩ := checked
  have known {type : TypeId} {name : String} (registers : e.program.Registers type name) :
      type ∈ (List.range e.program.types.size).map TypeId.mk := by
    refine List.mem_map.mpr ⟨type.index, List.mem_range.mpr ?_, rfl⟩
    by_contra outside
    have may := registers.may
    rw [e.program.type_of_size_le (Nat.le_of_not_lt outside)] at may
    cases may
  have named {base : TypeId} {name : String} (titled : e.TitledAs base name) :
      e.nameOf (e.program.type base) = some name := by
    cases titled with
    | named named => exact named
    | @imported symbol scope _ outside =>
        rw [inside symbol] at outside
        cases outside
  constructor
  · intro type other name registers also
    simpa [also.listed] using types type (known registers) name registers.listed other (known also)
  · intro heir base type name derives titled registers
    have fit := bases base (Program.mem_baseTypes derives)
    rw [named titled, Option.all_some, Bool.and_eq_true, List.all_eq_true] at fit
    have found := fit.1 type (known registers)
    simp only [List.contains_iff_mem.mpr registers.listed, Bool.not_true, Bool.false_or, Bool.and_eq_true,
      beq_iff_eq, Option.isSome_iff_ne_none] at found
    exact ⟨found.1.1, found.1.2, found.2⟩
  · intro heir base other rival name derives rivals titled also id
    have fit := bases base (Program.mem_baseTypes derives)
    rw [named titled, Option.all_some, Bool.and_eq_true, List.all_eq_true, List.all_eq_true] at fit
    have agrees := fit.2 rival (Program.mem_baseTypes rivals)
    simp only [named also, bne_self_eq_false, Bool.false_or, List.all_eq_true, List.contains_iff_mem]
      at agrees
    rw [Program.hasMember_iff, Program.hasMember_iff]
    exact agrees id

end Engine

open Engine Extract in
theorem upright_of_extractModule {p : Program} {allowed : Call → Program → Prop}
    (built : p.Built allowed) (settings : Settings) (named : p.NominalsNamed settings.extraction)
    (bases : p.BasesFit) (apart : p.RootsApart settings.extraction)
    (fits : p.Fits manner ages now)
    (suits : (start p settings.extraction settings.libraries).Suits) {bindings : Bindings}
    {elapsed : Data} {x : Extraction} {after : Walk}
    (ran : extractModule p settings bindings elapsed = (.ok x, after)) :
    (start p settings.extraction settings.libraries).Upright after.registry := by
  have program : (start p settings.extraction settings.libraries).program = p := program_start _ _ _
  obtain ⟨-, bare, flat⟩ := flat_of_extractModule built settings named bases apart ran
  have bears := bears_of_extractModule built settings (grants_linked (program ▸ fits) suits) ran
  constructor
  · intro name node shape held
    rw [program]
    exact flat name node shape held
  · intro name node shape held
    obtain ⟨_, type, -, registers, -⟩ := flat name node shape held
    rw [← program] at registers
    refine (bears.filled name node (bare.filled shape held)).of_apart ?_ shape registers
    rwa [program, settings_start]

/-- A generic box with a label that extends a box of text, so that the label is described while the box
is. -/
def labelProgram : Program :=
  (Program.start "src/index.ts").takes
    [.typeParameter "T" none none,
     .interface
       { header := { name := "Box" }, members := [("value", .plain (some ⟨15⟩))],
         typeParameters := [some ⟨15⟩] },
     .instantiate (some ⟨16⟩) [some Program.stringType],
     .interface
       { header := { name := "Label" }, bases := [some ⟨17⟩],
         members := [("text", .plain (some Program.stringType))] },
     .addMembers (some ⟨16⟩) [("label", .plain (some ⟨18⟩))]]

theorem runs_label : (match extractModule labelProgram {} with
    | (.ok x, _) => ((Table.get? x.graph.entries "Label").map Node.isShape).getD false
    | _ => false) = true := by
  decide +kernel

theorem built_of_new {calls : List Call} (passed : Program.passes
    (fun call p => call.isDisciplined p && call.addsNew p) calls (.start "src/index.ts") = true) :
    ((Program.start "src/index.ts").takes calls).Built fun call p =>
      call.Disciplined p ∧ call.AddsNew p := by
  refine Program.built_takes (fun call p => call.isDisciplined p && call.addsNew p) ?_ (.start _ _) passed
  intro call p checked
  rw [Bool.and_eq_true] at checked
  exact ⟨Call.disciplined_of_isDisciplined checked.1, Call.addsNew_of_addsNew checked.2⟩

def Extraction.listedIds (x : Extraction) (name : String) : List Int :=
  (((Table.get? x.graph.entries name).map Node.members).getD []).filterMap Node.memberId?

/-- An interface that extends two instantiations of another one, of which only the second was made
when that had a member. -/
def twiceProgram : Program :=
  (Program.start "src/index.ts").takes
    [.interface { header := { name := "Held", exported := false } },
     .instantiate (some ⟨15⟩) [],
     .addMembers (some ⟨15⟩) [("id", .plain (some Program.stringType))],
     .instantiate (some ⟨15⟩) [],
     .interface { header := { name := "Heir", exported := false }, bases := [some ⟨16⟩, some ⟨17⟩] },
     .addMembers (some ⟨15⟩) [("heir", .plain (some ⟨18⟩))],
     .addExport (some ⟨1⟩), .addExport (some ⟨4⟩)]

end TypeAtlas
