import TypeAtlas.Proofs.Program.Before
import TypeAtlas.Proofs.Program.Stemming
import TypeAtlas.Proofs.Program.Whole

/-!
Where types have their members from. A member is declared below the declaration of a type that is no
younger than any type that shows it. What an interface or a class shows that is not declared below its own
declaration, one of its bases shows as well, and the bases were there before the declaration. What an
instantiation shows was made from what the generic type shows.
-/

namespace TypeAtlas

open Build

/-- What most steps leave alone of a place: a member stays below its declaration, and a base stands where
it stood. -/
structure Site.Rests (s t : Site) : Prop where
  kind : t.kind = s.kind
  parent : s.kind.isMember = true → t.parent = s.parent
  base : s.kind = .expressionWithTypeArguments → ∀ answer, s.answers.type = some answer →
    t.answers.type = some answer

structure Symbol.Rests (s t : Symbol) : Prop where
  name : t.name = s.name
  flags : t.flags = s.flags
  target : t.target = s.target
  declarations : s.declarations ≠ some [] → t.declarations = s.declarations
  value : s.valueDeclaration ≠ none ∨ s.hasFlag .prototype = true →
    t.valueDeclaration = s.valueDeclaration

theorem Site.Rests.refl (s : Site) : s.Rests s := ⟨rfl, fun _ => rfl, fun _ _ held => held⟩

theorem Site.Rests.trans {s t u : Site} (first : s.Rests t) (second : t.Rests u) : s.Rests u where
  kind := second.kind.trans first.kind
  parent member := (second.parent (first.kind ▸ member)).trans (first.parent member)
  base kind answer held := second.base (first.kind.trans kind) answer (first.base kind answer held)

theorem Symbol.Rests.refl (s : Symbol) : s.Rests s := ⟨rfl, rfl, rfl, fun _ => rfl, fun _ => rfl⟩

theorem Symbol.Rests.hasFlag {s t : Symbol} (rests : s.Rests t) (flag : SymbolFlag) :
    t.hasFlag flag = s.hasFlag flag := by
  rw [Symbol.hasFlag, rests.flags, Symbol.hasFlag]

theorem Symbol.Rests.isNominal {s t : Symbol} (rests : s.Rests t) : t.isNominal = s.isNominal := by
  simp only [Symbol.isNominal, rests.hasFlag]

theorem Symbol.Rests.trans {s t u : Symbol} (first : s.Rests t) (second : t.Rests u) : s.Rests u where
  name := second.name.trans first.name
  flags := second.flags.trans first.flags
  target := second.target.trans first.target
  declarations given := by
    have same := first.declarations given
    exact (second.declarations (same ▸ given)).trans same
  value given := by
    have same := first.value given
    refine (second.value ?_).trans same
    rwa [same, first.hasFlag]

/-- A type that is neither an interface nor a class, nor an instantiation of something with a name. -/
structure TypeInfo.Minor (t : TypeInfo) : Prop where
  structural : t.isNominal = false
  unnamed : t.isReference = true → t.symbol = none

theorem TypeInfo.Stays.isReference {s t : TypeInfo} (stays : s.Stays t) :
    t.isReference = s.isReference := by
  simp only [TypeInfo.isReference, TypeInfo.isObject, stays.hasFlag, TypeInfo.hasObjectFlag,
    stays.objectFlags]

theorem TypeInfo.Stays.isClass {s t : TypeInfo} (stays : s.Stays t) : t.isClass = s.isClass := by
  simp only [TypeInfo.isClass, TypeInfo.isObject, stays.hasFlag, TypeInfo.hasObjectFlag,
    stays.objectFlags]

theorem TypeInfo.Minor.stay {s t : TypeInfo} (minor : s.Minor) (stays : s.Stays t) : t.Minor := by
  refine ⟨?_, ?_⟩
  · rw [stays.isNominal]
    exact minor.structural
  · rw [stays.isReference, stays.symbol]
    exact minor.unnamed

namespace Program

structure Lasts (p q : Program) : Prop where
  sites : p.sites.size ≤ q.sites.size
  symbols : p.symbols.size ≤ q.symbols.size
  types : p.types.size ≤ q.types.size
  site : ∀ id : SiteId, id.index < p.sites.size → (p.site id).Rests (q.site id)
  symbol : ∀ id : SymbolId, id.index < p.symbols.size → (p.symbol id).Rests (q.symbol id)
  type : ∀ id : TypeId, id.index < p.types.size → (p.type id).Stays (q.type id)

/-- What most steps leave alone of a program: also what its declarations extend, the static members of
its classes, and the interfaces and classes that there are. -/
structure Rests (p q : Program) : Prop extends p.Lasts q where
  module : q.moduleSymbol = p.moduleSymbol
  heritage : ∀ id, (q.site id).heritage = (p.site id).heritage
  exports : ∀ id, id ≠ p.moduleSymbol → (q.symbol id).exports = (p.symbol id).exports
  numbered : (∀ id : SymbolId, id.index < p.symbols.size → (p.symbol id).id ≠ 0) →
    ∀ id : SymbolId, id.index < q.symbols.size → (q.symbol id).id ≠ 0
  target : ∀ id : TypeId, id.index < p.types.size → (q.type id).target = (p.type id).target
  minor : ∀ id : TypeId, p.types.size ≤ id.index → (q.type id).Minor

variable {p q r : Program}

theorem Lasts.trans (first : p.Lasts q) (second : q.Lasts r) : p.Lasts r where
  sites := Nat.le_trans first.sites second.sites
  symbols := Nat.le_trans first.symbols second.symbols
  types := Nat.le_trans first.types second.types
  site id inside :=
    (first.site id inside).trans (second.site id (Nat.lt_of_lt_of_le inside first.sites))
  symbol id inside :=
    (first.symbol id inside).trans (second.symbol id (Nat.lt_of_lt_of_le inside first.symbols))
  type id inside :=
    (first.type id inside).trans (second.type id (Nat.lt_of_lt_of_le inside first.types))

theorem lasts_addType (p : Program) (t : TypeInfo) : p.Lasts (p.addType t).2 where
  sites := Nat.le_refl _
  symbols := Nat.le_refl _
  types := by simp [addType, addNumberedType]
  site _ _ := Site.Rests.refl _
  symbol _ _ := Symbol.Rests.refl _
  type id inside := by
    rw [type_addType, if_neg (Nat.ne_of_lt inside)]
    exact TypeInfo.Stays.refl _

theorem lasts_modifyType (p : Program) (at_ : TypeId) {f : TypeInfo → TypeInfo}
    (stays : ∀ t : TypeInfo, t.Stays (f t)) : p.Lasts (p.modifyType at_ f) where
  sites := Nat.le_refl _
  symbols := Nat.le_refl _
  types := Nat.le_of_eq Array.size_modify.symm
  site _ _ := Site.Rests.refl _
  symbol _ _ := Symbol.Rests.refl _
  type id _ := by
    rw [type_modifyType]
    split
    · exact stays _
    · exact TypeInfo.Stays.refl _

theorem lasts_modifySymbol (p : Program) (at_ : SymbolId) {f : Symbol → Symbol}
    (rests : ∀ s : Symbol, s.Rests (f s)) : p.Lasts (p.modifySymbol at_ f) where
  sites := Nat.le_refl _
  symbols := Nat.le_of_eq Array.size_modify.symm
  types := Nat.le_refl _
  site _ _ := Site.Rests.refl _
  symbol id _ := by
    rw [symbol_modifySymbol]
    split
    · exact rests _
    · exact Symbol.Rests.refl _
  type _ _ := TypeInfo.Stays.refl _

theorem minor_default : (default : TypeInfo).Minor := ⟨rfl, fun reference => by cases reference⟩

namespace Rests

theorem refl (p : Program) : p.Rests p where
  sites := Nat.le_refl _
  symbols := Nat.le_refl _
  types := Nat.le_refl _
  module := rfl
  site _ _ := Site.Rests.refl _
  heritage _ := rfl
  symbol _ _ := Symbol.Rests.refl _
  exports _ _ := rfl
  numbered := id
  type _ _ := TypeInfo.Stays.refl _
  target _ _ := rfl
  minor id outside := by
    rw [p.type_of_size_le outside]
    exact minor_default

theorem trans (first : p.Rests q) (second : q.Rests r) : p.Rests r where
  toLasts := first.toLasts.trans second.toLasts
  module := second.module.trans first.module
  heritage id := (second.heritage id).trans (first.heritage id)
  exports id other := (second.exports id (first.module ▸ other)).trans (first.exports id other)
  numbered := second.numbered ∘ first.numbered
  target id inside :=
    (second.target id (Nat.lt_of_lt_of_le inside first.types)).trans (first.target id inside)
  minor id outside := by
    by_cases inside : id.index < q.types.size
    · have stays := second.type id inside
      have minor := first.minor id outside
      refine ⟨?_, ?_⟩
      · rw [stays.isNominal]
        exact minor.structural
      · rw [stays.isReference, stays.symbol]
        exact minor.unnamed
    · exact second.minor id (Nat.le_of_not_lt inside)

/-! The writes that leave as much alone. -/

theorem addSite (q : Program) {s : Site} (empty : s.heritage = []) : q.Rests (q.addSite s).2 := by
  have size : (q.addSite s).2.sites.size = q.sites.size + 1 := Array.size_push _
  refine { Rests.refl q with sites := by omega, site := ?_, heritage := ?_ }
  · intro id inside
    rw [site_addSite, if_neg (by omega)]
    exact Site.Rests.refl _
  · intro id
    rw [site_addSite]
    split
    · rename_i new
      rw [empty, q.site_of_size_le (Nat.le_of_eq new.symm)]
      rfl
    · rfl

theorem addSymbol (q : Program) {s : Symbol} (empty : s.exports = some []) :
    q.Rests (q.addSymbol s).2 := by
  have size : (q.addSymbol s).2.symbols.size = q.symbols.size + 1 := Array.size_push _
  refine { Rests.refl q with symbols := by omega, symbol := ?_, exports := ?_, numbered := ?_ }
  · intro id inside
    rw [symbol_addSymbol, if_neg (by omega)]
    exact Symbol.Rests.refl _
  · intro id _
    rw [symbol_addSymbol]
    split
    · rename_i new
      rw [empty, q.symbol_of_size_le (Nat.le_of_eq new.symm)]
      rfl
    · rfl
  · intro numbered id inside
    rw [symbol_addSymbol]
    split
    · change ((q.lastId + 1 : Nat) : Int) ≠ 0
      omega
    · exact numbered id (by omega)

theorem addType (q : Program) {t : TypeInfo} (minor : t.Minor) : q.Rests (q.addType t).2 := by
  have size : (q.addType t).2.types.size = q.types.size + 1 := Array.size_push _
  refine { Rests.refl q with types := by omega, type := ?_, target := ?_, minor := ?_ }
  · intro id inside
    rw [type_addType, if_neg (by omega)]
    exact TypeInfo.Stays.refl _
  · intro id inside
    rw [type_addType, if_neg (by omega)]
  · intro id outside
    rw [type_addType]
    split
    · exact ⟨minor.structural, minor.unnamed⟩
    · rw [q.type_of_size_le outside]
      exact minor_default

theorem modifySite {id : SiteId} {f : Site → Site} (rests : (q.site id).Rests (f (q.site id)))
    (same : (f (q.site id)).heritage = (q.site id).heritage) : q.Rests (q.modifySite id f) := by
  have size : (q.modifySite id f).sites.size = q.sites.size := Array.size_modify
  refine { Rests.refl q with sites := by omega, site := ?_, heritage := ?_ }
  · intro other _
    rw [site_modifySite]
    split
    · rename_i here
      rw [here.1]
      exact rests
    · exact Site.Rests.refl _
  · intro other
    rw [site_modifySite]
    split
    · rename_i here
      rw [here.1]
      exact same
    · rfl

theorem modifySymbol {id : SymbolId} {f : Symbol → Symbol}
    (rests : (q.symbol id).Rests (f (q.symbol id)))
    (number : (f (q.symbol id)).id = (q.symbol id).id)
    (exports : id ≠ q.moduleSymbol → (f (q.symbol id)).exports = (q.symbol id).exports) :
    q.Rests (q.modifySymbol id f) := by
  have size : (q.modifySymbol id f).symbols.size = q.symbols.size := Array.size_modify
  refine { Rests.refl q with symbols := by omega, symbol := ?_, exports := ?_, numbered := ?_ }
  · intro other _
    rw [symbol_modifySymbol]
    split
    · rename_i here
      rw [here.1]
      exact rests
    · exact Symbol.Rests.refl _
  · intro other apart
    rw [symbol_modifySymbol]
    split
    · rename_i here
      rw [here.1] at apart ⊢
      exact exports apart
    · rfl
  · intro numbered other inside
    have known := numbered other (size ▸ inside)
    rw [symbol_modifySymbol]
    split
    · rename_i here
      rw [here.1] at known ⊢
      rwa [number]
    · exact known

theorem modifyType {id : TypeId} {f : TypeInfo → TypeInfo} (stays : (q.type id).Stays (f (q.type id)))
    (target : (f (q.type id)).target = (q.type id).target) : q.Rests (q.modifyType id f) := by
  have size : (q.modifyType id f).types.size = q.types.size := Array.size_modify
  refine { Rests.refl q with types := by omega, type := ?_, target := ?_, minor := ?_ }
  · intro other _
    rw [type_modifyType]
    split
    · rename_i here
      rw [here.1]
      exact stays
    · exact TypeInfo.Stays.refl _
  · intro other _
    rw [type_modifyType]
    split
    · rename_i here
      rw [here.1]
      exact target
    · rfl
  · intro other outside
    rw [type_modifyType, if_neg fun here => Nat.not_lt_of_le outside here.2,
      q.type_of_size_le outside]
    exact minor_default

theorem aside {other : Program} (sites : other.sites = q.sites) (symbols : other.symbols = q.symbols)
    (types : other.types = q.types) (module : other.moduleSymbol = q.moduleSymbol) : q.Rests other where
  sites := Nat.le_of_eq (by rw [sites])
  symbols := Nat.le_of_eq (by rw [symbols])
  types := Nat.le_of_eq (by rw [types])
  module := module
  site id _ := by
    rw [site_of_same sites]
    exact Site.Rests.refl _
  heritage id := by rw [site_of_same sites]
  symbol id _ := by
    rw [symbol_of_same symbols]
    exact Symbol.Rests.refl _
  exports id _ := by rw [symbol_of_same symbols]
  numbered numbered id inside := by
    rw [symbol_of_same symbols]
    exact numbered id (symbols ▸ inside)
  type id _ := by
    rw [type_of_same types]
    exact TypeInfo.Stays.refl _
  target id _ := by rw [type_of_same types]
  minor id outside := by
    rw [type_of_same types, q.type_of_size_le outside]
    exact minor_default

/-- The checker may be told what stands at a place, unless that is known of a base already. -/
theorem siteAnswers (f : SiteAnswers → SiteAnswers) (id : Option SiteId)
    (free : ∀ site, id = some site → (q.site site).kind = .expressionWithTypeArguments →
      ∀ answer, (q.site site).answers.type = some answer → (f (q.site site).answers).type = some answer) :
    q.Rests (q.modifySiteAnswers f id) := by
  cases id with
  | none => exact aside rfl rfl rfl rfl
  | some site => exact modifySite ⟨rfl, fun _ => rfl, free site rfl⟩ rfl

theorem symbolAnswers (f : SymbolAnswers → SymbolAnswers) (id : Option SymbolId) :
    q.Rests (q.modifySymbolAnswers f id) := by
  cases id with
  | none => exact aside rfl rfl rfl rfl
  | some symbol => exact modifySymbol ⟨rfl, rfl, rfl, fun _ => rfl, fun _ => rfl⟩ rfl fun _ => rfl

end Rests

end Program

namespace Program

def DeclaredBelow (p : Program) (member : SymbolId) (parent : SiteId) : Prop :=
  ∃ place, p.firstDeclaration (some member) = some place ∧ (p.site place).kind.isMember = true ∧
    (p.site place).parent = some parent ∧ parent.index < p.sites.size

def isOwn (p : Program) (type : TypeId) (member : SymbolId) : Bool :=
  match p.firstDeclaration (p.type type).symbol, p.firstDeclaration (some member) with
  | some declaration, some site => (p.site site).parent == some declaration
  | _, _ => false

/-- A type extends what stands at a place of its declaration. -/
inductive Extends (p : Program) (type base : TypeId) : Prop
  | listed {symbol : SymbolId} {declaration site : SiteId} {clause : HeritageClause}
      (held : (p.type type).symbol = some symbol)
      (declared : (p.symbol symbol).declarations.first? = some declaration)
      (clause_ : clause ∈ (p.site declaration).heritage) (token : clause.token = .bases)
      (listed : some site ∈ clause.types)
      (kind : (p.site site).kind = .expressionWithTypeArguments)
      (stands : (p.site site).answers.type = some (some base))

def IsStatic (p : Program) (declaration : SiteId) (member : SymbolId) : Prop :=
  (p.symbol member).hasFlag .prototype = true ∧ (p.symbol member).valueDeclaration = none ∨
    (p.symbol member).valueDeclaration ≠ none ∧
      (p.symbol member).valueDeclaration = p.firstDeclaration (some member) ∧
      p.Rooted member member ∧ p.DeclaredBelow member declaration

structure Descends (ages : Ages) (p : Program) (type : TypeId) : Prop where
  declared : ∀ member, some member ∈ (p.type type).properties.slots →
    (p.type type).flags = [.object] ∧ ∃ parent, p.DeclaredBelow member parent ∧
      ages.site parent ≤ type.index
  passed : (p.type type).isNominal = true → ∀ member,
    some member ∈ (p.type type).properties.slots →
      p.isOwn type member = true ∧ (p.symbol member).target = none ∨
        ∃ base, p.Extends type base ∧ some member ∈ (p.type base).properties.slots
  distinct : (p.type type).isNominal = true → (p.type type).properties.slots.Nodup
  stands : (p.type type).isNominal = true → ∃ symbol declaration,
    (p.type type).symbol = some symbol ∧
      (p.symbol symbol).declarations.first? = some declaration ∧
        ((p.type type).isClass = true ∧ (p.site declaration).kind = .classDeclaration ∨
          (p.site declaration).kind = .interfaceDeclaration)
  made : (p.type type).isReference = true → (p.type type).symbol ≠ none → ∃ generic,
    (p.type type).target = some generic ∧ generic.index < type.index ∧
      ∀ member, some member ∈ (p.type type).properties.slots → ∃ original,
        (p.symbol member).target = some original ∧
          some original ∈ (p.type generic).properties.slots

structure Lineage (ages : Ages) (p : Program) : Prop where
  types : ∀ type, p.Descends ages type
  places : ∀ declaration, ∀ clause ∈ (p.site declaration).heritage, ∀ site,
    some site ∈ clause.types → ages.site site ≤ ages.site declaration
  bases : ∀ declaration, (p.site declaration).kind = .interfaceDeclaration →
    ∀ clause ∈ (p.site declaration).heritage, clause.token = .bases
  statics : ∀ symbol, (p.symbol symbol).isNominal = true → ∀ member,
    some member ∈ (p.symbol symbol).exports.slots → ∃ declaration,
      (p.symbol symbol).declarations.first? = some declaration ∧ p.IsStatic declaration member
  numbered : ∀ id : SymbolId, id.index < p.symbols.size → (p.symbol id).id ≠ 0
  module : (p.symbol p.moduleSymbol).isNominal = false ∧ p.moduleSymbol.index < p.symbols.size

/-- What was known of members and bases is still so. -/
structure Bears (p q : Program) : Prop where
  declared : ∀ member parent, p.DeclaredBelow member parent →
    q.DeclaredBelow member parent ∧ (q.symbol member).target = (p.symbol member).target
  first : ∀ symbol site, (p.symbol symbol).declarations.first? = some site →
    (q.symbol symbol).declarations.first? = some site
  kind : ∀ site, (p.site site).kind ≠ .sourceFile → (q.site site).kind = (p.site site).kind
  heritage : ∀ declaration, (p.site declaration).heritage ⊆ (q.site declaration).heritage
  base : ∀ site, (p.site site).kind = .expressionWithTypeArguments → ∀ base,
    (p.site site).answers.type = some (some base) → (q.site site).answers.type = some (some base)
  slots : ∀ type, (p.type type).properties.slots ⊆ (q.type type).properties.slots

variable {p q : Program} {ages : Ages} {type base : TypeId} {member : SymbolId} {parent : SiteId}

theorem DeclaredBelow.isOwn_iff (declared : p.DeclaredBelow member parent) :
    p.isOwn type member = true ↔ p.firstDeclaration (p.type type).symbol = some parent := by
  obtain ⟨place, first, -, below, -⟩ := declared
  unfold isOwn
  rw [first]
  cases known : p.firstDeclaration (p.type type).symbol with
  | none => simp
  | some declaration =>
      simp only [below, beq_iff_eq, Option.some_inj]
      exact eq_comm

theorem DeclaredBelow.inside (declared : p.DeclaredBelow member parent) : member.index < p.symbols.size := by
  obtain ⟨place, first, -⟩ := declared
  by_contra outside
  rw [firstDeclaration, Option.bind_some, p.symbol_of_size_le (Nat.le_of_not_lt outside)] at first
  cases first

theorem DeclaredBelow.last (declared : p.DeclaredBelow member parent) (grows : p.Lasts q) :
    q.DeclaredBelow member parent := by
  have there := declared.inside
  obtain ⟨place, first, kind, below, inner⟩ := declared
  have inside : place.index < p.sites.size := by
    by_contra outside
    rw [p.site_of_size_le (Nat.le_of_not_lt outside)] at kind
    cases kind
  have rest := grows.site place inside
  refine ⟨place, ?_, rest.kind ▸ kind, (rest.parent kind).trans below,
    Nat.lt_of_lt_of_le inner grows.sites⟩
  rw [firstDeclaration, Option.bind_some] at first ⊢
  rw [(grows.symbol member there).declarations, first]
  intro empty
  rw [empty] at first
  cases first

theorem DeclaredBelow.unique {other : SiteId} (declared : p.DeclaredBelow member parent)
    (also : p.DeclaredBelow member other) : parent = other := by
  obtain ⟨place, first, -, below, -⟩ := declared
  obtain ⟨same, second, -, beside, -⟩ := also
  rw [first] at second
  cases second
  rw [below] at beside
  exact Option.some.inj beside

theorem Bears.trans {r : Program} (first : p.Bears q) (second : q.Bears r) : p.Bears r where
  declared member parent held := by
    obtain ⟨still, same⟩ := first.declared member parent held
    obtain ⟨last, also⟩ := second.declared member parent still
    exact ⟨last, also.trans same⟩
  first symbol site held := second.first symbol site (first.first symbol site held)
  kind site known := by
    have same := first.kind site known
    exact (second.kind site (same ▸ known)).trans same
  heritage declaration := List.Subset.trans (first.heritage declaration) (second.heritage declaration)
  base site kind base stands := by
    have same := first.kind site (by rw [kind]; exact SiteKind.noConfusion)
    exact second.base site (same.trans kind) base (first.base site kind base stands)
  slots type := List.Subset.trans (first.slots type) (second.slots type)

theorem Extends.bear {copy : TypeId} (extends_ : p.Extends type base) (bears : p.Bears q)
    (symbol : (q.type copy).symbol = (p.type type).symbol) : q.Extends copy base := by
  cases extends_ with
  | listed held declared clause_ token listed kind stands =>
      refine .listed (symbol.trans held) (bears.first _ _ declared) (bears.heritage _ clause_) token
        listed ?_ (bears.base _ kind _ stands)
      exact (bears.kind _ (by rw [kind]; exact SiteKind.noConfusion)).trans kind

theorem IsStatic.bear {declaration : SiteId} (static : p.IsStatic declaration member)
    (bears : p.Bears q) (value : (p.symbol member).valueDeclaration ≠ none ∨
      (p.symbol member).hasFlag .prototype = true →
        (q.symbol member).valueDeclaration = (p.symbol member).valueDeclaration)
    (flags : (q.symbol member).flags = (p.symbol member).flags)
    (rooted : p.Rooted member member → q.Rooted member member) : q.IsStatic declaration member := by
  rcases static with ⟨flagged, none⟩ | ⟨given, same, stems, declared⟩
  · left
    rw [value (Or.inr flagged), Symbol.hasFlag, flags]
    exact ⟨flagged, none⟩
  · right
    have known := value (Or.inl given)
    refine ⟨known ▸ given, ?_, rooted stems, (bears.declared _ _ declared).1⟩
    obtain ⟨place, first, -⟩ := declared
    rw [known, same, first]
    exact (bears.first member place first).symm

theorem Descends.passes {copy : TypeId} (descends : p.Descends ages type) (bears : p.Bears q)
    (symbol : (q.type copy).symbol = (p.type type).symbol) (nominal : (p.type type).isNominal = true)
    (held : some member ∈ (p.type type).properties.slots) :
    q.isOwn copy member = true ∧ (q.symbol member).target = none ∨
      ∃ base, q.Extends copy base ∧ some member ∈ (q.type base).properties.slots := by
  obtain ⟨-, parent, below, -⟩ := descends.declared member held
  obtain ⟨still, kept⟩ := bears.declared member parent below
  rcases descends.passed nominal member held with ⟨own, untargeted⟩ | ⟨base, extends_, there⟩
  · left
    rw [below.isOwn_iff] at own
    rw [still.isOwn_iff, kept, symbol]
    refine ⟨?_, untargeted⟩
    obtain ⟨declared, held, first⟩ := Option.bind_eq_some_iff.mp own
    rw [held]
    exact bears.first declared parent first
  · exact Or.inr ⟨base, extends_.bear bears symbol, bears.slots base there⟩

theorem Descends.placed {copy : TypeId} (descends : p.Descends ages type) (bears : p.Bears q)
    (stays : (p.type type).Stays (q.type copy)) (nominal : (p.type type).isNominal = true) :
    ∃ symbol declaration, (q.type copy).symbol = some symbol ∧
      (q.symbol symbol).declarations.first? = some declaration ∧
        ((q.type copy).isClass = true ∧ (q.site declaration).kind = .classDeclaration ∨
          (q.site declaration).kind = .interfaceDeclaration) := by
  obtain ⟨symbol, declaration, held, first, kind⟩ := descends.stands nominal
  refine ⟨symbol, declaration, stays.symbol.trans held, bears.first symbol declaration first, ?_⟩
  have known : (p.site declaration).kind ≠ .sourceFile := by
    rcases kind with ⟨-, kind⟩ | kind <;> rw [kind] <;> exact SiteKind.noConfusion
  rw [bears.kind declaration known, stays.isClass]
  exact kind

theorem Descends.copy {copy : TypeId} (descends : p.Descends ages type) (bears : p.Bears q)
    (younger : type.index ≤ copy.index) (stays : (p.type type).Stays (q.type copy))
    (target : (q.type copy).target = (p.type type).target)
    (same : (q.type copy).properties.slots = (p.type type).properties.slots) :
    q.Descends ages copy := by
  refine ⟨?_, ?_, ?_, ?_, ?_⟩
  · intro member held
    rw [same] at held
    obtain ⟨flags, parent, below, age⟩ := descends.declared member held
    exact ⟨stays.flags.trans flags, parent, (bears.declared member parent below).1,
      Nat.le_trans age younger⟩
  · intro nominal member held
    rw [stays.isNominal] at nominal
    rw [same] at held
    exact descends.passes bears stays.symbol nominal held
  · intro nominal
    rw [stays.isNominal] at nominal
    rw [same]
    exact descends.distinct nominal
  · intro nominal
    rw [stays.isNominal] at nominal
    exact descends.placed bears stays nominal
  · intro reference named
    rw [stays.isReference] at reference
    rw [stays.symbol] at named
    obtain ⟨generic, targets, older, copies⟩ := descends.made reference named
    refine ⟨generic, target.trans targets, Nat.lt_of_lt_of_le older younger, fun member held => ?_⟩
    rw [same] at held
    obtain ⟨original, points, there⟩ := copies member held
    obtain ⟨-, parent, below, -⟩ := descends.declared member held
    exact ⟨original, (bears.declared member parent below).2.trans points, bears.slots generic there⟩

theorem Descends.bear (descends : p.Descends ages type) (bears : p.Bears q)
    (stays : (p.type type).Stays (q.type type))
    (target : (q.type type).target = (p.type type).target)
    (same : (q.type type).properties.slots = (p.type type).properties.slots) :
    q.Descends ages type :=
  descends.copy bears (Nat.le_refl _) stays target same

theorem descends_of_minor (minor : (p.type type).Minor) (empty : (p.type type).properties.slots = []) :
    p.Descends ages type := by
  have structural := minor.structural
  refine ⟨?_, ?_, ?_, ?_, ?_⟩
  · intro member held
    rw [empty] at held
    cases held
  · intro nominal
    rw [structural] at nominal
    cases nominal
  · intro nominal
    rw [structural] at nominal
    cases nominal
  · intro nominal
    rw [structural] at nominal
    cases nominal
  · exact fun reference named => absurd (minor.unnamed reference) named

/-- Steps that take nothing back and leave alone what rests. -/
theorem bears_of_rests (carries : p.Carries q) (rests : p.Rests q) : p.Bears q := by
  have inside {site : SiteId} (known : (p.site site).kind ≠ .sourceFile) :
      site.index < p.sites.size := by
    by_contra outside
    rw [p.site_of_size_le (Nat.le_of_not_lt outside)] at known
    exact known rfl
  refine ⟨?_, ?_, ?_, ?_, ?_, ?_⟩
  · exact fun member parent declared =>
      ⟨declared.last rests.toLasts, carries.target member declared.inside⟩
  · intro symbol site first
    have there : symbol.index < p.symbols.size := by
      by_contra outside
      rw [p.symbol_of_size_le (Nat.le_of_not_lt outside)] at first
      cases first
    rw [carries.declarations symbol there, first]
  · exact fun site known => (rests.site site (inside known)).kind
  · intro declaration
    rw [rests.heritage]
    exact List.Subset.refl _
  · intro site kind base stands
    exact (rests.site site (inside (by rw [kind]; exact SiteKind.noConfusion))).base kind _ stands
  · intro type
    rw [carries.properties]
    exact List.Subset.refl _

theorem site_addClause (p : Program) (declaration : SiteId) (clause : HeritageClause) (id : SiteId) :
    let q := p.modifySite declaration fun s => { s with heritage := s.heritage ++ [clause] }
    (q.site id).kind = (p.site id).kind ∧ (q.site id).parent = (p.site id).parent ∧
      (q.site id).answers = (p.site id).answers ∧ (p.site id).heritage ⊆ (q.site id).heritage ∧
        ∀ held ∈ (q.site id).heritage, held ∈ (p.site id).heritage ∨ id = declaration ∧ held = clause := by
  intro q
  have same : q.site id = if id = declaration ∧ id.index < p.sites.size then
      { p.site id with heritage := (p.site id).heritage ++ [clause] } else p.site id :=
    site_modifySite ..
  split at same
  · rename_i here
    rw [same]
    refine ⟨rfl, rfl, rfl, List.subset_append_left _ _, fun held member => ?_⟩
    rcases List.mem_append.mp member with old | new
    · exact Or.inl old
    · exact Or.inr ⟨here.1, List.mem_singleton.mp new⟩
  · rw [same]
    exact ⟨rfl, rfl, rfl, List.Subset.refl _, fun held member => Or.inl member⟩

theorem lasts_addClause (p : Program) (declaration : SiteId) (clause : HeritageClause) :
    p.Lasts (p.modifySite declaration fun s => { s with heritage := s.heritage ++ [clause] }) where
  sites := Nat.le_of_eq Array.size_modify.symm
  symbols := Nat.le_refl _
  types := Nat.le_refl _
  site id _ := by
    obtain ⟨kind, parent, answers, -⟩ := site_addClause p declaration clause id
    exact ⟨kind, fun _ => parent, fun _ _ held => by rwa [answers]⟩
  symbol _ _ := Symbol.Rests.refl _
  type _ _ := TypeInfo.Stays.refl _

theorem bears_addClause (p : Program) (declaration : SiteId) (clause : HeritageClause) :
    p.Bears (p.modifySite declaration fun s => { s with heritage := s.heritage ++ [clause] }) := by
  refine ⟨fun member parent held => ⟨held.last (lasts_addClause p declaration clause), rfl⟩,
    fun _ _ held => held, fun id _ => (site_addClause p declaration clause id).1,
    fun id => (site_addClause p declaration clause id).2.2.2.1, ?_, fun _ => List.Subset.refl _⟩
  intro id _ base held
  rw [(site_addClause p declaration clause id).2.2.1]
  exact held

namespace Lineage

theorem later (lineage : p.Lineage ages) (carries : p.Carries q) (rests : p.Rests q) :
    q.Lineage ages := by
  have bears := bears_of_rests carries rests
  have plain := rests.symbol p.moduleSymbol lineage.module.2
  refine ⟨?_, ?_, ?_, ?_, rests.numbered lineage.numbered, ?_⟩
  · intro type
    by_cases inside : type.index < p.types.size
    · exact (lineage.types type).bear bears (rests.type type inside) (rests.target type inside)
        (carries.properties type)
    · have outside := Nat.le_of_not_lt inside
      refine descends_of_minor (rests.minor type outside) ?_
      rw [carries.properties, p.type_of_size_le outside]
      rfl
  · intro declaration clause held
    rw [rests.heritage] at held
    exact lineage.places declaration clause held
  · intro declaration kind clause held
    rw [rests.heritage] at held
    have there : declaration.index < p.sites.size := by
      by_contra outside
      rw [p.site_of_size_le (Nat.le_of_not_lt outside)] at held
      cases held
    rw [(rests.site declaration there).kind] at kind
    exact lineage.bases declaration kind clause held
  · intro symbol nominal member held
    by_cases same : symbol = p.moduleSymbol
    · rw [same, plain.isNominal, lineage.module.1] at nominal
      cases nominal
    · rw [rests.exports symbol same] at held
      have there : symbol.index < p.symbols.size := by
        by_contra outside
        rw [p.symbol_of_size_le (Nat.le_of_not_lt outside)] at held
        cases held
      rw [(rests.symbol symbol there).isNominal] at nominal
      obtain ⟨declaration, first, static⟩ := lineage.statics symbol nominal member held
      have known : member.index < p.symbols.size := by
        rcases static with ⟨flagged, -⟩ | ⟨-, -, -, declared⟩
        · by_contra outside
          rw [p.symbol_of_size_le (Nat.le_of_not_lt outside)] at flagged
          cases flagged
        · exact declared.inside
      have rest := rests.symbol member known
      exact ⟨declaration, bears.first symbol declaration first,
        static.bear bears rest.value rest.flags carries.rooted⟩
  · rw [rests.module, plain.isNominal]
    exact ⟨lineage.module.1, Nat.lt_of_lt_of_le lineage.module.2 rests.symbols⟩

/-- New or other properties of types, while no type loses any. -/
theorem retyped (lineage : p.Lineage ages) (sites : q.sites = p.sites) (symbols : q.symbols = p.symbols)
    (module : q.moduleSymbol = p.moduleSymbol)
    (slots : ∀ type, (p.type type).properties.slots ⊆ (q.type type).properties.slots)
    (types : ∀ type, q.type type = p.type type ∨ (p.Bears q → q.Descends ages type)) :
    q.Lineage ages := by
  have first (symbol : Option SymbolId) : q.firstDeclaration symbol = p.firstDeclaration symbol := by
    simp only [firstDeclaration, symbol_of_same symbols]
  have declared (member : SymbolId) (parent : SiteId) (held : p.DeclaredBelow member parent) :
      q.DeclaredBelow member parent := by
    simpa only [DeclaredBelow, first, site_of_same sites, sites] using held
  have bears : p.Bears q := by
    refine ⟨fun member parent held => ⟨declared member parent held, by rw [symbol_of_same symbols]⟩,
      fun symbol site held => by rwa [symbol_of_same symbols],
      fun site _ => by rw [site_of_same sites], fun declaration => ?_,
      fun site _ base held => by rwa [site_of_same sites], slots⟩
    rw [site_of_same sites]
    exact List.Subset.refl _
  refine ⟨?_, ?_, ?_, ?_, ?_, ?_⟩
  · intro type
    rcases types type with same | descends
    · refine (lineage.types type).bear bears ?_ (by rw [same]) (by rw [same])
      rw [same]
      exact TypeInfo.Stays.refl _
    · exact descends bears
  · intro declaration clause held
    rw [site_of_same sites] at held
    exact lineage.places declaration clause held
  · intro declaration kind clause held
    rw [site_of_same sites] at kind held
    exact lineage.bases declaration kind clause held
  · intro symbol nominal member held
    rw [symbol_of_same symbols] at nominal held
    obtain ⟨declaration, found, static⟩ := lineage.statics symbol nominal member held
    refine ⟨declaration, bears.first symbol declaration found, static.bear bears ?_ ?_ ?_⟩
    · exact fun _ => by rw [symbol_of_same symbols]
    · rw [symbol_of_same symbols]
    · exact fun rooted => rooted.aside sites symbols
  · intro id inside
    rw [symbol_of_same symbols]
    exact lineage.numbered id (symbols ▸ inside)
  · rw [module, symbol_of_same symbols, symbols]
    exact lineage.module

theorem addType (lineage : p.Lineage ages) {t : TypeInfo}
    (descends : p.Bears (p.addType t).2 → (p.addType t).2.Descends ages ⟨p.types.size⟩) :
    (p.addType t).2.Lineage ages := by
  refine lineage.retyped rfl rfl rfl (fun type => ?_) fun type => ?_
  · rw [type_addType]
    split
    · rename_i new
      rw [p.type_of_size_le (Nat.le_of_eq new.symm)]
      exact List.nil_subset _
    · exact List.Subset.refl _
  · by_cases new : type.index = p.types.size
    · right
      obtain ⟨index⟩ := type
      cases new
      exact descends
    · left
      rw [type_addType, if_neg new]

theorem modifyType (lineage : p.Lineage ages) (at_ : TypeId) {f : TypeInfo → TypeInfo}
    (slots : (p.type at_).properties.slots ⊆ (f (p.type at_)).properties.slots)
    (descends : at_.index < p.types.size → p.Bears (p.modifyType at_ f) →
      (p.modifyType at_ f).Descends ages at_) : (p.modifyType at_ f).Lineage ages := by
  refine lineage.retyped rfl rfl rfl (fun type => ?_) fun type => ?_
  · rw [type_modifyType]
    split
    · rename_i here
      rw [here.1]
      exact slots
    · exact List.Subset.refl _
  · by_cases here : type = at_ ∧ type.index < p.types.size
    · right
      obtain ⟨rfl, inside⟩ := here
      exact descends inside
    · left
      rw [type_modifyType, if_neg here]

theorem addClause (lineage : p.Lineage ages) {declaration : SiteId} {clause : HeritageClause}
    (places : ∀ site, some site ∈ clause.types → ages.site site ≤ ages.site declaration)
    (token : (p.site declaration).kind = .interfaceDeclaration → clause.token = .bases) :
    (p.modifySite declaration fun s => { s with heritage := s.heritage ++ [clause] }).Lineage ages := by
  have bears := bears_addClause p declaration clause
  have carries : p.Carries
      (p.modifySite declaration fun s => { s with heritage := s.heritage ++ [clause] }) :=
    (Carries.refl p).modifySite declaration fun _ _ => rfl
  refine ⟨?_, ?_, ?_, ?_, lineage.numbered, lineage.module⟩
  · exact fun type => (lineage.types type).bear bears (TypeInfo.Stays.refl _) rfl rfl
  · intro id held member
    rcases (site_addClause p declaration clause id).2.2.2.2 held member with old | ⟨rfl, rfl⟩
    · exact lineage.places id held old
    · exact places
  · intro id kind held member
    obtain ⟨same, -, -, -, listed⟩ := site_addClause p declaration clause id
    rw [same] at kind
    rcases listed held member with old | ⟨rfl, rfl⟩
    · exact lineage.bases id kind held old
    · exact token kind
  · intro symbol nominal member held
    obtain ⟨place, first, static⟩ := lineage.statics symbol nominal member held
    exact ⟨place, first, static.bear bears (fun _ => rfl) rfl carries.rooted⟩

theorem setExports (lineage : p.Lineage ages) {symbol : SymbolId} {declaration : SiteId}
    {exports : Slots SymbolId} (first : (p.symbol symbol).declarations.first? = some declaration)
    (statics : ∀ member, some member ∈ exports.slots → p.IsStatic declaration member) :
    (p.modifySymbol symbol fun s => { s with exports }).Lineage ages := by
  let q := p.modifySymbol symbol fun s => { s with exports }
  have carries : p.Carries q :=
    (Carries.refl p).modifySymbol symbol (fun _ => rfl) fun _ _ => ⟨rfl, rfl⟩
  have record (id : SymbolId) : ∃ held, q.symbol id = { p.symbol id with exports := held } ∧
      (held = (p.symbol id).exports ∨ id = symbol ∧ held = exports) := by
    have same : q.symbol id = if id = symbol ∧ id.index < p.symbols.size then
        { p.symbol id with exports } else p.symbol id := symbol_modifySymbol ..
    split at same
    · rename_i here
      exact ⟨exports, same, Or.inr ⟨here.1, rfl⟩⟩
    · exact ⟨_, same, Or.inl rfl⟩
  have declarations (id : SymbolId) : (q.symbol id).declarations = (p.symbol id).declarations := by
    obtain ⟨held, same, -⟩ := record id
    rw [same]
  have nominal (id : SymbolId) : (q.symbol id).isNominal = (p.symbol id).isNominal := by
    obtain ⟨held, same, -⟩ := record id
    rw [same]
    rfl
  have bears : p.Bears q := by
    refine ⟨?_, fun id site held => by rwa [declarations], fun _ _ => rfl, fun _ => List.Subset.refl _,
      fun _ _ _ held => held, fun _ => List.Subset.refl _⟩
    rintro member parent ⟨place, found, kind, below, inner⟩
    refine ⟨⟨place, ?_, kind, below, inner⟩, ?_⟩
    · rw [firstDeclaration, Option.bind_some, declarations]
      exact found
    · obtain ⟨held, same, -⟩ := record member
      rw [same]
  refine ⟨?_, lineage.places, lineage.bases, ?_, ?_, ?_⟩
  · exact fun type => (lineage.types type).bear bears (TypeInfo.Stays.refl _) rfl rfl
  · intro id isNominal member listed
    rw [nominal] at isNominal
    have found : ∃ place, (p.symbol id).declarations.first? = some place ∧ p.IsStatic place member := by
      obtain ⟨held, same, rfl | ⟨rfl, rfl⟩⟩ := record id
      · rw [same] at listed
        exact lineage.statics id isNominal member listed
      · rw [same] at listed
        exact ⟨declaration, first, statics member listed⟩
    obtain ⟨place, found, static⟩ := found
    obtain ⟨held, same, -⟩ := record member
    refine ⟨place, bears.first id place found, static.bear bears ?_ ?_ carries.rooted⟩
    · exact fun _ => by rw [same]
    · rw [same]
  · intro id inside
    have there : id.index < p.symbols.size := by
      have size : q.symbols.size = p.symbols.size := Array.size_modify
      exact size ▸ inside
    obtain ⟨held, same, -⟩ := record id
    change (q.symbol id).id ≠ 0
    rw [same]
    exact lineage.numbered id there
  · refine ⟨(nominal _).trans lineage.module.1, ?_⟩
    have size : q.symbols.size = p.symbols.size := Array.size_modify
    exact size ▸ lineage.module.2

end Lineage

end Program

namespace Build

open Program

variable {α : Type} {base q : Program}

def resting (base : Program) : Course where
  holds := base.Rests
  grows := Program.Rests
  stopped := base.Rests
  refl := Rests.refl
  trans := Rests.trans
  stop := id

theorem resting_write (step : Build α) {value : α} {r : Program} (rests : base.Rests q)
    (ran : step q = (.ok value, r)) (grows : q.Rests r) :
    (resting base).Keeps q step fun after made => after = r ∧ made = value :=
  Course.write ran (rests.trans grows) grows ⟨rfl, rfl⟩

section Steps

variable (rests : base.Rests q)
include rests

theorem rests_newSite {s : Site} (empty : s.heritage = []) :
    (resting base).Keeps q (newSite s) fun r id => r = (q.addSite s).2 ∧ id = ⟨q.sites.size⟩ :=
  resting_write (newSite s) rests rfl (Rests.addSite q empty)

theorem rests_newSymbol {s : Symbol} (empty : s.exports = some []) :
    (resting base).Keeps q (newSymbol s) fun r id => r = (q.addSymbol s).2 ∧ id = ⟨q.symbols.size⟩ :=
  resting_write (newSymbol s) rests rfl (Rests.addSymbol q empty)

theorem rests_newType {t : TypeInfo} (minor : t.Minor) :
    (resting base).Keeps q (newType t) fun r id => r = (q.addType t).2 ∧ id = ⟨q.types.size⟩ :=
  resting_write (newType t) rests rfl (Rests.addType q minor)

theorem rests_newSignature (s : Signature) : (resting base).Keeps q (newSignature s) fun _ _ => True :=
  (resting_write (newSignature s) rests rfl (Rests.aside rfl rfl rfl rfl)).weaken
    fun _ _ _ _ _ => trivial

theorem rests_newIndexInfo (info : IndexInfo) :
    (resting base).Keeps q (newIndexInfo info) fun _ _ => True :=
  (resting_write (newIndexInfo info) rests rfl (Rests.aside rfl rfl rfl rfl)).weaken
    fun _ _ _ _ _ => trivial

theorem rests_modify {f : Program → Program} (grows : q.Rests (f q)) :
    (resting base).Keeps q (modify f : Build PUnit) fun r _ => r = f q :=
  Course.write rfl (rests.trans grows) grows rfl

theorem rests_setSite (id : SiteId) {f : Site → Site}
    (same : ∀ s : Site, s.Rests (f s) ∧ (f s).heritage = s.heritage) :
    (resting base).Keeps q (setSite id f) fun _ _ => True :=
  (rests_modify rests (Rests.modifySite (same _).1 (same _).2)).weaken fun _ _ _ _ _ => trivial

theorem rests_setSymbol (id : SymbolId) {f : Symbol → Symbol}
    (same : (q.symbol id).Rests (f (q.symbol id))) (number : (f (q.symbol id)).id = (q.symbol id).id)
    (exports : id ≠ q.moduleSymbol → (f (q.symbol id)).exports = (q.symbol id).exports) :
    (resting base).Keeps q (setSymbol id f) fun _ _ => True :=
  (rests_modify rests (Rests.modifySymbol same number exports)).weaken fun _ _ _ _ _ => trivial

theorem rests_setType (id : TypeId) {f : TypeInfo → TypeInfo}
    (same : ∀ t : TypeInfo, t.Stays (f t) ∧ (f t).target = t.target) :
    (resting base).Keeps q (setType id f) fun _ _ => True :=
  (rests_modify rests (Rests.modifyType (same _).1 (same _).2)).weaken fun _ _ _ _ _ => trivial

theorem rests_bindSite {id : Option SiteId} {type : Option TypeId}
    (free : ∀ site, id = some site → (q.site site).kind = .expressionWithTypeArguments →
      (q.site site).answers.type = none) :
    (resting base).Keeps q (bindSite id type) fun _ _ => True := by
  refine (rests_modify rests (Rests.siteAnswers _ id ?_)).weaken fun _ _ _ _ _ => trivial
  intro site here kind answer known
  rw [free site here kind] at known
  cases known

theorem rests_bindSignature (id : Option SiteId) (signature : Option SignatureId) :
    (resting base).Keeps q (bindSignature id signature) fun _ _ => True :=
  (rests_modify rests (Rests.siteAnswers _ id fun _ _ _ _ known => known)).weaken
    fun _ _ _ _ _ => trivial

theorem rests_bindSymbol (id : Option SymbolId) (type : Option TypeId) :
    (resting base).Keeps q (bindSymbol id type) fun _ _ => True :=
  (rests_modify rests (Rests.symbolAnswers _ id)).weaken fun _ _ _ _ _ => trivial

theorem rests_bindDeclared (id : Option SymbolId) (type : Option TypeId) :
    (resting base).Keeps q (bindDeclared id type) fun _ _ => True :=
  (rests_modify rests (Rests.symbolAnswers _ id)).weaken fun _ _ _ _ _ => trivial

end Steps

end Build

end TypeAtlas
