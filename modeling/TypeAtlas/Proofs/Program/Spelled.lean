import TypeAtlas.Proofs.Program.Course
import TypeAtlas.Proofs.Program.Fits

/-!
What is written at a place goes with the type that stands there: a reference has the name of the type,
a `keyof` its operand and a union its members. No later step of building changes any of it.
-/

namespace TypeAtlas

open Build

/-- A type without what a later step of building may change: its number, its alias, and what is added
to it as to a declared type. -/
def TypeInfo.fixed (t : TypeInfo) : TypeInfo :=
  { t with id := 0, alias? := none, aliasArguments := none, properties := none, callSignatures := none,
           stringIndex := none, numberIndex := none }

structure TypeInfo.Settles (s t : TypeInfo) : Prop where
  fixed : t.fixed = s.fixed
  aliased : ∀ named, s.alias? = some named → t.alias? = some named

namespace TypeInfo.Settles

variable {s t u : TypeInfo}

theorem refl (t : TypeInfo) : t.Settles t := ⟨rfl, fun _ held => held⟩

theorem trans (first : s.Settles t) (second : t.Settles u) : s.Settles u :=
  ⟨second.fixed.trans first.fixed, fun named held => second.aliased named (first.aliased named held)⟩

variable (settles : s.Settles t)
include settles

theorem read {α : Type} (field : TypeInfo → α) (blind : ∀ t : TypeInfo, field t.fixed = field t) :
    field t = field s := by
  rw [← blind t, settles.fixed, blind s]

theorem flags : t.flags = s.flags := settles.read TypeInfo.flags fun _ => rfl

theorem objectFlags : t.objectFlags = s.objectFlags := settles.read TypeInfo.objectFlags fun _ => rfl

theorem symbol : t.symbol = s.symbol := settles.read TypeInfo.symbol fun _ => rfl

theorem target : t.target = s.target := settles.read TypeInfo.target fun _ => rfl

theorem types : t.types = s.types := settles.read TypeInfo.types fun _ => rfl

theorem operand : t.operand = s.operand := settles.read TypeInfo.operand fun _ => rfl

end TypeInfo.Settles

theorem TypeInfo.Settles.hasFlag {s t : TypeInfo} (settles : s.Settles t) (flag : TypeFlag) :
    t.hasFlag flag = s.hasFlag flag := by
  rw [TypeInfo.hasFlag, settles.flags, TypeInfo.hasFlag]

theorem TypeInfo.Settles.keyofOperand? {s t : TypeInfo} (settles : s.Settles t) :
    t.keyofOperand? = s.keyofOperand? := by
  rw [TypeInfo.keyofOperand?, settles.hasFlag, settles.operand, TypeInfo.keyofOperand?]

theorem TypeInfo.settles_of_eq {s t : TypeInfo} (same : t = s) : s.Settles t := by
  rw [same]
  exact TypeInfo.Settles.refl s

def LiteralKey.record : LiteralKey → TypeInfo
  | .unset => { flags := [.numberLiteral] }
  | .text value => { flags := [.stringLiteral], value := some (.text value) }
  | .int value => { flags := [.numberLiteral], value := some (.int value) }
  | .float value => { flags := [.numberLiteral], value := some (.float value) }
  | .bigint digits => { flags := [.bigintLiteral], value := digits.map .text }

/-- What never changes about a symbol. Only a default export gets its declaration late. -/
structure Symbol.Settles (s t : Symbol) : Prop where
  name : t.name = s.name
  flags : t.flags = s.flags
  declarations : s.hasFlag .typeAlias = true → t.declarations = s.declarations

theorem Symbol.Settles.refl (s : Symbol) : s.Settles s := ⟨rfl, rfl, fun _ => rfl⟩

theorem Symbol.Settles.hasFlag {s t : Symbol} (settles : s.Settles t) (flag : SymbolFlag) :
    t.hasFlag flag = s.hasFlag flag := by
  rw [Symbol.hasFlag, settles.flags, Symbol.hasFlag]

theorem Symbol.Settles.trans {s t u : Symbol} (first : s.Settles t) (second : t.Settles u) :
    s.Settles u :=
  ⟨second.name.trans first.name, second.flags.trans first.flags, fun flagged =>
    (second.declarations ((first.hasFlag _).trans flagged)).trans (first.declarations flagged)⟩

/-- The places that stay as they are once it is known what stands there: those of written types and
those of aliases. -/
def SiteKind.isKept : SiteKind → Bool
  | .typeAlias => true
  | kind => kind.isWritten

theorem SiteKind.isKept_of_isWritten {kind : SiteKind} (written : kind.isWritten = true) :
    kind.isKept = true := by
  cases kind <;> first | rfl | cases written

theorem SiteKind.isWritten_of_isKept {kind : SiteKind} (other : kind.isKept = false) :
    kind.isWritten = false := by
  cases kind <;> first | rfl | cases other

structure Site.Like (s t : Site) : Prop where
  kind : t.kind = s.kind
  name : t.name = s.name
  type : t.type = s.type
  types : t.types = s.types
  answer : t.answers.type = s.answers.type

theorem Site.Like.refl (s : Site) : s.Like s := ⟨rfl, rfl, rfl, rfl, rfl⟩

theorem Site.Like.trans {s t u : Site} (first : s.Like t) (second : t.Like u) : s.Like u :=
  ⟨second.kind.trans first.kind, second.name.trans first.name, second.type.trans first.type,
    second.types.trans first.types, second.answer.trans first.answer⟩

namespace Program

def ownName? (p : Program) (type : TypeInfo) : Option String :=
  writtenName? p { type with alias? := none }

structure Kinds (p q : Program) : Prop where
  sites : p.sites.size ≤ q.sites.size
  symbols : p.symbols.size ≤ q.symbols.size
  types : p.types.size ≤ q.types.size
  kind : ∀ id : SiteId, id.index < p.sites.size → (q.site id).kind = (p.site id).kind
  kept : ∀ id : SiteId, (p.site id).kind.isKept = true → ∀ answer,
    (p.site id).answers.type = some answer → (p.site id).Like (q.site id)
  symbol : ∀ id : SymbolId, id.index < p.symbols.size → (p.symbol id).Settles (q.symbol id)
  type : ∀ id : TypeId, id.index < p.types.size → (p.type id).Settles (q.type id)

theorem Kinds.refl (p : Program) : p.Kinds p :=
  ⟨Nat.le_refl _, Nat.le_refl _, Nat.le_refl _, fun _ _ => rfl, fun _ _ _ _ => Site.Like.refl _,
    fun _ _ => Symbol.Settles.refl _, fun _ _ => TypeInfo.Settles.refl _⟩

theorem inside_of_answered {p : Program} {id : SiteId} {answer : Option TypeId}
    (answered : (p.site id).answers.type = some answer) : id.index < p.sites.size := by
  apply Nat.lt_of_not_le
  intro outside
  rw [p.site_of_size_le outside] at answered
  cases answered

theorem Kinds.trans {p q r : Program} (first : p.Kinds q) (second : q.Kinds r) : p.Kinds r where
  sites := Nat.le_trans first.sites second.sites
  symbols := Nat.le_trans first.symbols second.symbols
  types := Nat.le_trans first.types second.types
  kind id inside :=
    (second.kind id (Nat.lt_of_lt_of_le inside first.sites)).trans (first.kind id inside)
  kept id kept answer answered := by
    have like := first.kept id kept answer answered
    exact like.trans (second.kept id (like.kind ▸ kept) answer (like.answer.trans answered))
  symbol id inside :=
    (first.symbol id inside).trans (second.symbol id (Nat.lt_of_lt_of_le inside first.symbols))
  type id inside :=
    (first.type id inside).trans (second.type id (Nat.lt_of_lt_of_le inside first.types))

/-- An alias that its type remembers: the right-hand side was written before the type knew the name,
and so by the parts of the type. -/
def Remembered (p : Program) (named : SymbolId) : Prop :=
  ∃ site written type, (p.symbol named).hasFlag .typeAlias = true ∧
    (p.symbol named).declarations = Slots.of [site] ∧ (p.site site).kind = .typeAlias ∧
    (p.site site).type = some written ∧ (p.site site).answers.type = some (some type) ∧
    (p.site written).kind.isWritten = true ∧ (p.site written).kind ≠ .typeReference ∧
    (p.site written).answers.type = some (some type) ∧ (p.type type).alias? = some named

theorem Remembered.inside {p : Program} {named : SymbolId} (remembered : p.Remembered named) :
    named.index < p.symbols.size := by
  obtain ⟨site, written, type, flagged, -⟩ := remembered
  apply Nat.lt_of_not_le
  intro outside
  rw [p.symbol_of_size_le outside] at flagged
  cases flagged

theorem Remembered.carry {p q : Program} {named : SymbolId} (remembered : p.Remembered named)
    (grown : p.Kinds q) : q.Remembered named := by
  have settles := grown.symbol named remembered.inside
  obtain ⟨site, written, type, flagged, declared, kind, right, answer, isWritten, plain, stands,
    aliased⟩ := remembered
  have like := grown.kept site (by rw [kind]; rfl) _ answer
  have same := grown.kept written (SiteKind.isKept_of_isWritten isWritten) _ stands
  have there : type.index < p.types.size := by
    apply Nat.lt_of_not_le
    intro outside
    rw [p.type_of_size_le outside] at aliased
    cases aliased
  exact ⟨site, written, type, (settles.hasFlag _).trans flagged,
    (settles.declarations flagged).trans declared, like.kind.trans kind, like.type.trans right,
    like.answer.trans answer, by rw [same.kind, isWritten], by rw [same.kind]; exact plain,
    same.answer.trans stands, (grown.type type there).aliased named aliased⟩

structure FormedType (p : Program) (t : TypeInfo) : Prop where
  symbol : ∀ symbol, t.symbol = some symbol → symbol.index < p.symbols.size
  aliased : ∀ named, t.alias? = some named → p.Remembered named
  tuple : t.hasObjectFlag .tuple = true → t.symbol = none
  target : t.symbol ≠ none → ∀ target, t.target = some target → target.index < p.types.size ∧
    (p.type target).symbol = t.symbol
  named : t.symbol ≠ none → t.flags = [.object] ∨ t.isTypeParameter = true ∨
    t.hasFlag .union = true ∨ t.hasFlag .enumLiteral = true
  unnamed : t.symbol = none → t.hasFlag .union = true →
    t.flags = [.union] ∨ t.hasFlag .boolean = true

structure Spells (p : Program) (s : Site) (type : TypeId) : Prop where
  inferred : s.kind = .inferType → type ∈ p.inferred
  titled : s.kind = .typeReference →
    (∃ named, (p.type type).alias? = some named ∧ s.name = some (p.symbol named).name) ∨
      ∃ name, p.ownName? (p.type type) = some name ∧ s.name = some name
  untitled : s.kind ≠ .inferType → s.kind ≠ .typeReference → p.ownName? (p.type type) = none
  keyof : s.kind = .keyofOperator → ∃ operand child, (p.type type).keyofOperand? = some operand ∧
    s.type = some child ∧ (p.site child).kind.isWritten = true ∧
    (p.site child).answers.type = some (some operand)
  union : s.kind = .unionType → (p.type type).keyofOperand? = none ∧
    (p.type type).hasFlag .union = true ∧ (p.type type).hasFlag .boolean = false ∧
    ∃ children types, s.types = Slots.of children ∧ (p.type type).types = some types ∧
      (∀ child ∈ children, (p.site child).kind.isWritten = true) ∧
      children.map (fun child => (p.site child).answers.type) = types.map some
  plain : s.kind = .typeNode → (p.type type).keyofOperand? = none ∧
    ((p.type type).hasFlag .union = true → (p.type type).hasFlag .boolean = true)

variable {p q r : Program}

theorem ownName?_of_settles {s t : TypeInfo} (settles : s.Settles t)
    (names : ∀ symbol, s.symbol = some symbol → (q.symbol symbol).name = (p.symbol symbol).name) :
    q.ownName? t = p.ownName? s := by
  unfold ownName? writtenName?
  dsimp only
  rw [settles.symbol]
  cases held : s.symbol with
  | none => rfl
  | some symbol =>
      dsimp only
      rw [names symbol held]
      simp only [TypeInfo.hasFlag, settles.flags]
      rfl

theorem Spells.carry {s t : Site} {type : TypeId} (spells : p.Spells s type) (like : s.Like t)
    (formed : p.FormedType (p.type type)) (settles : (p.type type).Settles (q.type type))
    (names : ∀ symbol : SymbolId, symbol.index < p.symbols.size →
      (q.symbol symbol).name = (p.symbol symbol).name)
    (answered : ∀ child, (p.site child).kind.isWritten = true → ∀ answer,
      (p.site child).answers.type = some answer →
        (q.site child).kind.isWritten = true ∧ (q.site child).answers.type = some answer)
    (inferred : ∀ param ∈ p.inferred, param ∈ q.inferred) : q.Spells t type := by
  have own : q.ownName? (q.type type) = p.ownName? (p.type type) :=
    ownName?_of_settles settles fun symbol held => names symbol (formed.symbol symbol held)
  refine ⟨?_, ?_, ?_, ?_, ?_, ?_⟩
  · intro kind
    exact inferred type (spells.inferred (like.kind ▸ kind))
  · intro kind
    rw [own, like.name]
    refine (spells.titled (like.kind ▸ kind)).imp_left ?_
    rintro ⟨named, held, name⟩
    refine ⟨named, settles.aliased named held, ?_⟩
    rw [name, names named (formed.aliased named held).inside]
  · intro notInferred notReference
    rw [own]
    exact spells.untitled (like.kind ▸ notInferred) (like.kind ▸ notReference)
  · intro kind
    obtain ⟨operand, child, keyof, below, written, answer⟩ := spells.keyof (like.kind ▸ kind)
    obtain ⟨stillWritten, same⟩ := answered child written _ answer
    exact ⟨operand, child, settles.keyofOperand?.trans keyof, like.type.trans below, stillWritten, same⟩
  · intro kind
    obtain ⟨plain, flagged, other, children, types, below, parts, written, answers⟩ :=
      spells.union (like.kind ▸ kind)
    have known (child : SiteId) (member : child ∈ children) : ∃ answer,
        (p.site child).answers.type = some answer := by
      have listed : (p.site child).answers.type ∈ types.map some := by
        rw [← answers]
        exact List.mem_map_of_mem member
      obtain ⟨answer, -, same⟩ := List.mem_map.mp listed
      exact ⟨answer, same.symm⟩
    refine ⟨settles.keyofOperand?.trans plain, (settles.hasFlag _).trans flagged,
      (settles.hasFlag _).trans other, children, types, like.types.trans below,
      settles.types.trans parts, ?_, ?_⟩
    · intro child member
      obtain ⟨answer, same⟩ := known child member
      exact (answered child (written child member) answer same).1
    · rw [← answers]
      refine List.map_congr_left fun child member => ?_
      obtain ⟨answer, same⟩ := known child member
      rw [same, (answered child (written child member) answer same).2]
  · intro kind
    rw [settles.keyofOperand?, settles.hasFlag, settles.hasFlag]
    exact spells.plain (like.kind ▸ kind)

structure Caches (p : Program) : Prop where
  literals : ∀ entry ∈ p.literals, (p.type entry.2).fixed = entry.1.record.fixed
  tuples : ∀ entry ∈ p.tuples, (p.type entry.2).hasObjectFlag .tuple = true

theorem inside_of_fixed {p : Program} {id : TypeId} {t : TypeInfo} (same : (p.type id).fixed = t.fixed)
    (flagged : t.flags ≠ []) : id.index < p.types.size := by
  apply Nat.lt_of_not_le
  intro outside
  rw [p.type_of_size_le outside] at same
  exact flagged (congrArg TypeInfo.flags same).symm

theorem Caches.carry (caches : q.Caches) (grown : q.Kinds r) (literals : r.literals = q.literals)
    (tuples : r.tuples = q.tuples) : r.Caches := by
  refine ⟨fun entry kept => ?_, fun entry kept => ?_⟩
  · rw [literals] at kept
    have same := caches.literals entry kept
    have inside := inside_of_fixed same (by cases entry.1 <;> nofun)
    exact (grown.type entry.2 inside).fixed.trans same
  · rw [tuples] at kept
    have flagged := caches.tuples entry kept
    have inside : entry.2.index < q.types.size := by
      apply Nat.lt_of_not_le
      intro outside
      rw [q.type_of_size_le outside] at flagged
      cases flagged
    rw [TypeInfo.hasObjectFlag, (grown.type entry.2 inside).objectFlags]
    exact flagged

def Parameter (p : Program) (name : String) (type : TypeId) : Prop :=
  ∃ symbol constraint, (p.type type).fixed =
      TypeInfo.fixed { flags := [.typeParameter], symbol := some symbol, constraint } ∧
    symbol.index < p.symbols.size ∧ (p.symbol symbol).name = name

theorem Parameter.carry {name : String} {type : TypeId} (parameter : q.Parameter name type)
    (types : ∀ id : TypeId, id.index < q.types.size → (q.type id).Settles (r.type id))
    (symbols : q.symbols.size ≤ r.symbols.size)
    (names : ∀ id : SymbolId, id.index < q.symbols.size → (r.symbol id).name = (q.symbol id).name) :
    r.Parameter name type := by
  obtain ⟨symbol, constraint, made, there, called⟩ := parameter
  have inside := inside_of_fixed made nofun
  exact ⟨symbol, constraint, (types type inside).fixed.trans made,
    Nat.lt_of_lt_of_le there symbols, (names symbol there).trans called⟩

theorem Parameter.later {name : String} {type : TypeId} (parameter : q.Parameter name type)
    (grown : q.Kinds r) : r.Parameter name type :=
  parameter.carry grown.type grown.symbols fun id inside => (grown.symbol id inside).name

/-- What a call that began at `p` has come to: what was written before stays, and what was written
since for a type that was there before goes with the type. -/
structure Amid (p q : Program) : Prop where
  sites : p.sites.size ≤ q.sites.size
  symbols : p.symbols.size ≤ q.symbols.size
  types : p.types.size ≤ q.types.size
  kind : ∀ id : SiteId, id.index < p.sites.size → (q.site id).kind = (p.site id).kind
  site : ∀ id : SiteId, id.index < p.sites.size → (p.site id).kind.isWritten = true →
    (p.site id).Like (q.site id)
  name : ∀ id : SymbolId, id.index < p.symbols.size → (q.symbol id).name = (p.symbol id).name
  type : ∀ id : TypeId, id.index < p.types.size → (p.type id).Settles (q.type id)
  inferred : ∀ param ∈ p.inferred, param ∈ q.inferred
  spelled : ∀ id : SiteId, p.sites.size ≤ id.index → (q.site id).kind.isWritten = true →
    ∀ type, (q.site id).answers.type = some (some type) → type.index < p.types.size →
      q.Spells (q.site id) type
  formed : ∀ id, q.FormedType (q.type id)
  caches : q.Caches

theorem Amid.refl (formed : ∀ id, p.FormedType (p.type id)) (caches : p.Caches) : p.Amid p where
  sites := Nat.le_refl _
  symbols := Nat.le_refl _
  types := Nat.le_refl _
  kind _ _ := rfl
  site id _ _ := Site.Like.refl _
  name _ _ := rfl
  type id _ := TypeInfo.Settles.refl _
  inferred _ held := held
  spelled id outside written := by
    rw [p.site_of_size_le outside] at written
    cases written
  formed := formed
  caches := caches

theorem FormedType.carry {t : TypeInfo} (formed : q.FormedType t) (grown : q.Kinds r) :
    r.FormedType t where
  symbol symbol held := Nat.lt_of_lt_of_le (formed.symbol symbol held) grown.symbols
  aliased named held := (formed.aliased named held).carry grown
  tuple := formed.tuple
  target symbol target held := by
    obtain ⟨inside, same⟩ := formed.target symbol target held
    exact ⟨Nat.lt_of_lt_of_le inside grown.types, (grown.type target inside).symbol.trans same⟩
  named := formed.named
  unnamed := formed.unnamed

/-- A write keeps to the course of a call when it leaves what is written alone, or writes what goes
with the type. -/
theorem Amid.extend (amid : p.Amid q) (kinds : q.Kinds r)
    (site : ∀ id, (q.site id).Like (r.site id) ∨ (r.site id).kind.isWritten = false ∨
      p.sites.size ≤ id.index ∧ ∀ type, (r.site id).answers.type = some (some type) →
        type.index < p.types.size → r.Spells (r.site id) type)
    (inferred : ∀ param ∈ q.inferred, param ∈ r.inferred)
    (formed : ∀ id, r.FormedType (r.type id)) (caches : r.Caches) : p.Amid r where
  sites := Nat.le_trans amid.sites kinds.sites
  symbols := Nat.le_trans amid.symbols kinds.symbols
  types := Nat.le_trans amid.types kinds.types
  kind id inside :=
    (kinds.kind id (Nat.lt_of_lt_of_le inside amid.sites)).trans (amid.kind id inside)
  site id inside written := by
    rcases site id with like | other | ⟨outside, -⟩
    · exact (amid.site id inside written).trans like
    · rw [kinds.kind id (Nat.lt_of_lt_of_le inside amid.sites), amid.kind id inside, written] at other
      cases other
    · exact absurd inside (Nat.not_lt_of_le outside)
  name id inside :=
    (kinds.symbol id (Nat.lt_of_lt_of_le inside amid.symbols)).name.trans (amid.name id inside)
  type id inside :=
    (amid.type id inside).trans (kinds.type id (Nat.lt_of_lt_of_le inside amid.types))
  inferred param held := inferred param (amid.inferred param held)
  spelled id outside written denoted answer older := by
    rcases site id with like | other | ⟨-, spelled⟩
    · have before := amid.spelled id outside (like.kind ▸ written) denoted
        (like.answer.symm.trans answer) older
      refine before.carry like (amid.formed denoted)
        (kinds.type denoted (Nat.lt_of_lt_of_le older amid.types))
        (fun named inside => (kinds.symbol named inside).name) ?_ inferred
      intro child childWritten given known
      have same := kinds.kept child (SiteKind.isKept_of_isWritten childWritten) given known
      exact ⟨by rw [same.kind, childWritten], same.answer.trans known⟩
    · rw [written] at other
      cases other
    · exact spelled denoted answer older
  formed := formed
  caches := caches

end Program

def spelling (p : Program) : Course where
  holds := p.Amid
  grows := Program.Kinds
  stopped := p.Amid
  refl := Program.Kinds.refl
  trans := Program.Kinds.trans
  stop := id

namespace Program

variable {p q : Program}

theorem kinds_addSite (q : Program) (s : Site) : q.Kinds (q.addSite s).2 := by
  have old (id : SiteId) (inside : id.index < q.sites.size) : (q.addSite s).2.site id = q.site id := by
    rw [site_addSite, if_neg (Nat.ne_of_lt inside)]
  refine ⟨by simp [addSite], Nat.le_refl _, Nat.le_refl _, fun id inside => by rw [old id inside], ?_,
    fun _ _ => Symbol.Settles.refl _, fun _ _ => TypeInfo.Settles.refl _⟩
  intro id _ answer known
  rw [old id (inside_of_answered known)]
  exact Site.Like.refl _

theorem kinds_modifySite {id : SiteId} {f : Site → Site}
    (same : (f (q.site id)).kind = (q.site id).kind)
    (free : (q.site id).kind.isKept = false ∨ (q.site id).Like (f (q.site id)) ∨
      (q.site id).answers.type = none) : q.Kinds (q.modifySite id f) := by
  refine ⟨by simp [modifySite], Nat.le_refl _, Nat.le_refl _, fun other inside => ?_, ?_,
    fun _ _ => Symbol.Settles.refl _, fun _ _ => TypeInfo.Settles.refl _⟩
  · rw [site_modifySite]
    split
    · rename_i here
      rw [here.1, same]
    · rfl
  · intro other kept answer known
    rw [site_modifySite]
    split
    · rename_i here
      rw [here.1] at kept known ⊢
      rcases free with free | like | unanswered
      · rw [free] at kept
        cases kept
      · exact like
      · rw [unanswered] at known
        cases known
    · exact Site.Like.refl _

theorem kinds_elsewhere {r : Program} (sites : r.sites = q.sites)
    (symbols : q.symbols.size ≤ r.symbols.size) (types : q.types.size ≤ r.types.size)
    (symbol : ∀ id : SymbolId, id.index < q.symbols.size → (q.symbol id).Settles (r.symbol id))
    (type : ∀ id : TypeId, id.index < q.types.size → (q.type id).Settles (r.type id)) : q.Kinds r := by
  have same (id : SiteId) : r.site id = q.site id := by rw [Program.site, sites, Program.site]
  refine ⟨Nat.le_of_eq (by rw [sites]), symbols, types, fun id _ => by rw [same], ?_, symbol, type⟩
  intro id _ _ _
  rw [same]
  exact Site.Like.refl _

theorem kinds_addSymbol (q : Program) (symbol : Symbol) : q.Kinds (q.addSymbol symbol).2 := by
  refine kinds_elsewhere rfl (by simp [Program.addSymbol, addNumberedSymbol]) (Nat.le_refl _) ?_
    fun _ _ => TypeInfo.Settles.refl _
  intro id inside
  rw [symbol_addSymbol, if_neg (Nat.ne_of_lt inside)]
  exact Symbol.Settles.refl _

theorem kinds_modifySymbol {id : SymbolId} {f : Symbol → Symbol}
    (settles : (q.symbol id).Settles (f (q.symbol id))) : q.Kinds (q.modifySymbol id f) := by
  refine kinds_elsewhere rfl (by simp [Program.modifySymbol]) (Nat.le_refl _) ?_
    fun _ _ => TypeInfo.Settles.refl _
  intro other _
  rw [symbol_modifySymbol]
  split
  · rename_i here
    rw [here.1]
    exact settles
  · exact Symbol.Settles.refl _

theorem kinds_addType (q : Program) (type : TypeInfo) : q.Kinds (q.addType type).2 := by
  refine kinds_elsewhere rfl (Nat.le_refl _) (by simp [Program.addType, addNumberedType])
    (fun _ _ => Symbol.Settles.refl _) ?_
  intro id inside
  rw [type_addType, if_neg (Nat.ne_of_lt inside)]
  exact TypeInfo.Settles.refl _

theorem kinds_modifyType {id : TypeId} {f : TypeInfo → TypeInfo}
    (settles : (q.type id).Settles (f (q.type id))) : q.Kinds (q.modifyType id f) := by
  refine kinds_elsewhere rfl (Nat.le_refl _) (by simp [Program.modifyType])
    (fun _ _ => Symbol.Settles.refl _) ?_
  intro other _
  rw [type_modifyType]
  split
  · rename_i here
    rw [here.1]
    exact settles
  · exact TypeInfo.Settles.refl _

theorem kinds_aside {r : Program} (sites : r.sites = q.sites) (symbols : r.symbols = q.symbols)
    (types : r.types = q.types) : q.Kinds r := by
  refine kinds_elsewhere sites (Nat.le_of_eq (by rw [symbols])) (Nat.le_of_eq (by rw [types])) ?_ ?_
  · intro id _
    rw [Program.symbol, Program.symbol, symbols]
    exact Symbol.Settles.refl _
  · intro id _
    exact TypeInfo.settles_of_eq (by rw [Program.type, types, Program.type])

namespace Amid

variable (amid : p.Amid q)
include amid

theorem addSite {s : Site} (unanswered : s.answers.type = none) : p.Amid (q.addSite s).2 := by
  refine amid.extend (q.kinds_addSite s) ?_ (fun _ held => held)
    (fun id => (amid.formed id).carry (q.kinds_addSite s))
    (amid.caches.carry (q.kinds_addSite s) rfl rfl)
  intro id
  rw [site_addSite]
  split
  · rename_i last
    refine .inr (.inr ⟨last ▸ amid.sites, ?_⟩)
    intro type answer
    rw [unanswered] at answer
    cases answer
  · exact .inl (Site.Like.refl _)

/-- A place may be changed where nothing is written, where what is written stays, and where nothing was
known to stand yet. -/
theorem modifySite {id : SiteId} {f : Site → Site} (same : (f (q.site id)).kind = (q.site id).kind)
    (free : (q.site id).kind.isKept = false ∨ (q.site id).Like (f (q.site id)) ∨
      p.sites.size ≤ id.index ∧ (q.site id).answers.type = none ∧
        ((q.site id).kind.isWritten = true → ∀ type,
          (f (q.site id)).answers.type = some (some type) → type.index < p.types.size →
            (q.modifySite id f).Spells (f (q.site id)) type)) :
    p.Amid (q.modifySite id f) := by
  have kinds : q.Kinds (q.modifySite id f) :=
    kinds_modifySite same (free.imp_right (Or.imp_right fun fresh => fresh.2.1))
  refine amid.extend kinds ?_ (fun _ held => held) (fun id => (amid.formed id).carry kinds)
    (amid.caches.carry kinds rfl rfl)
  intro other
  rw [site_modifySite]
  split
  · rename_i here
    rw [here.1]
    rcases free with free | like | ⟨outside, -, spelled⟩
    · exact .inr (.inl (same ▸ SiteKind.isWritten_of_isKept free))
    · exact .inl like
    · cases written : (q.site id).kind.isWritten with
      | true => exact .inr (.inr ⟨outside, spelled written⟩)
      | false => exact .inr (.inl (same ▸ written))
  · exact .inl (Site.Like.refl _)

theorem elsewhere {r : Program} (kinds : q.Kinds r) (sites : r.sites = q.sites)
    (inferred : ∀ param ∈ q.inferred, param ∈ r.inferred)
    (formed : ∀ id, (r.type id) = q.type id ∨ r.FormedType (r.type id)) (caches : r.Caches) :
    p.Amid r := by
  refine amid.extend kinds ?_ inferred ?_ caches
  · intro id
    left
    rw [Program.site, Program.site, sites]
    exact Site.Like.refl _
  · intro id
    rcases formed id with old | formed
    · rw [old]
      exact (amid.formed id).carry kinds
    · exact formed

theorem addSymbol (symbol : Symbol) : p.Amid (q.addSymbol symbol).2 :=
  amid.elsewhere (q.kinds_addSymbol symbol) rfl (fun _ held => held) (fun _ => .inl rfl)
    (amid.caches.carry (q.kinds_addSymbol symbol) rfl rfl)

theorem modifySymbol {id : SymbolId} {f : Symbol → Symbol}
    (settles : (q.symbol id).Settles (f (q.symbol id))) : p.Amid (q.modifySymbol id f) :=
  amid.elsewhere (kinds_modifySymbol settles) rfl (fun _ held => held) (fun _ => .inl rfl)
    (amid.caches.carry (kinds_modifySymbol settles) rfl rfl)

theorem addType {type : TypeInfo} (formed : q.FormedType type) : p.Amid (q.addType type).2 := by
  refine amid.elsewhere (q.kinds_addType type) rfl (fun _ held => held) (fun id => ?_)
    (amid.caches.carry (q.kinds_addType type) rfl rfl)
  rw [type_addType]
  split
  · have carried := formed.carry (q.kinds_addType type)
    exact .inr ⟨carried.symbol, carried.aliased, carried.tuple, carried.target, carried.named,
      carried.unnamed⟩
  · exact .inl rfl

theorem modifyType {id : TypeId} {f : TypeInfo → TypeInfo} (settles : (q.type id).Settles (f (q.type id)))
    (formed : q.FormedType (f (q.type id))) : p.Amid (q.modifyType id f) := by
  refine amid.elsewhere (kinds_modifyType settles) rfl (fun _ held => held) (fun other => ?_)
    (amid.caches.carry (kinds_modifyType settles) rfl rfl)
  rw [type_modifyType]
  split
  · rename_i here
    rw [here.1]
    exact .inr (formed.carry (kinds_modifyType settles))
  · exact .inl rfl

theorem aside {r : Program} (sites : r.sites = q.sites) (symbols : r.symbols = q.symbols)
    (types : r.types = q.types) (inferred : ∀ param ∈ q.inferred, param ∈ r.inferred)
    (caches : q.Kinds r → r.Caches) : p.Amid r :=
  amid.elsewhere (kinds_aside sites symbols types) sites inferred
    (fun id => .inl (by rw [Program.type, types, Program.type]))
    (caches (kinds_aside sites symbols types))

end Amid

end Program

namespace Build

open Program

variable {p q : Program} (amid : p.Amid q)
include amid

theorem spells_newSite {s : Site} (unanswered : s.answers.type = none) :
    (spelling p).Keeps q (newSite s) fun r id => id = ⟨q.sites.size⟩ ∧ r = (q.addSite s).2 :=
  Course.write (modifyGet_apply _ q) (amid.addSite unanswered) (q.kinds_addSite s) ⟨rfl, rfl⟩

theorem spells_setSite (id : SiteId) (f : Site → Site) (same : (f (q.site id)).kind = (q.site id).kind)
    (free : (q.site id).kind.isKept = false ∨ (q.site id).Like (f (q.site id)) ∨
      p.sites.size ≤ id.index ∧ (q.site id).answers.type = none ∧
        ((q.site id).kind.isWritten = true → ∀ type,
          (f (q.site id)).answers.type = some (some type) → type.index < p.types.size →
            (q.modifySite id f).Spells (f (q.site id)) type)) :
    (spelling p).Keeps q (setSite id f) fun r _ => r = q.modifySite id f :=
  Course.write (modify_apply _ q) (amid.modifySite same free)
    (kinds_modifySite same (free.imp_right (Or.imp_right fun fresh => fresh.2.1))) rfl

theorem spells_likeSite (id : SiteId) {f : Site → Site} (like : ∀ s : Site, s.Like (f s)) :
    (spelling p).Keeps q (setSite id f) fun r _ => ∀ other, (q.site other).Like (r.site other) := by
  refine (spells_setSite amid id f (like _).kind (.inr (.inl (like _)))).weaken ?_
  rintro _ _ _ _ rfl other
  rw [site_modifySite]
  split
  · rename_i here
    rw [here.1]
    exact like _
  · exact Site.Like.refl _

theorem spells_touchSite (id : SiteId) {f : Site → Site} (like : ∀ s : Site, s.Like (f s)) :
    (spelling p).Keeps q (setSite id f) fun _ _ => True :=
  (spells_likeSite amid id like).weaken fun _ _ _ _ _ => trivial

/-- A change at a place where nothing is written. -/
theorem spells_changeSite {id : SiteId} {f : Site → Site} (same : ∀ s : Site, (f s).kind = s.kind)
    (other : (q.site id).kind.isKept = false) :
    (spelling p).Keeps q (setSite id f) fun _ _ => True :=
  (spells_setSite amid id f (same _) (.inl other)).weaken fun _ _ _ _ _ => trivial

theorem spells_bindSite {id : SiteId} (other : (q.site id).kind.isKept = false)
    (type : Option TypeId) : (spelling p).Keeps q (bindSite id type) fun _ _ => True :=
  spells_changeSite amid (fun _ => rfl) other

theorem spells_bindSignature (id : Option SiteId) (signature : Option SignatureId) :
    (spelling p).Keeps q (bindSignature id signature) fun _ _ => True := by
  cases id with
  | some id => exact spells_touchSite amid id fun _ => ⟨rfl, rfl, rfl, rfl, rfl⟩
  | none =>
      exact Course.write (modify_apply _ q) (amid.aside rfl rfl rfl (fun _ held => held)
        fun kinds => amid.caches.carry kinds rfl rfl) (kinds_aside rfl rfl rfl) trivial

theorem spells_newSymbol (symbol : Symbol) :
    (spelling p).Keeps q (newSymbol symbol) fun r id => id.index < r.symbols.size ∧
      r.sites = q.sites ∧ (r.symbol id).name = symbol.name ∧ (r.symbol id).flags = symbol.flags ∧
        (r.symbol id).declarations = symbol.declarations := by
  refine Course.write (modifyGet_apply _ q) (amid.addSymbol symbol) (q.kinds_addSymbol symbol) ?_
  have here := (symbol_addSymbol q symbol ⟨q.symbols.size⟩).trans (if_pos rfl)
  exact ⟨by simp [addSymbol, addNumberedSymbol], rfl, (congrArg Symbol.name here).trans rfl,
    (congrArg Symbol.flags here).trans rfl, (congrArg Symbol.declarations here).trans rfl⟩

theorem spells_setSymbol (id : SymbolId) {f : Symbol → Symbol}
    (settles : (q.symbol id).Settles (f (q.symbol id))) :
    (spelling p).Keeps q (setSymbol id f) fun _ _ => True :=
  Course.write (modify_apply _ q) (amid.modifySymbol settles) (kinds_modifySymbol settles) trivial

theorem spells_bindSymbol (id : Option SymbolId) (type : Option TypeId) :
    (spelling p).Keeps q (bindSymbol id type) fun _ _ => True := by
  cases id with
  | some id => exact spells_setSymbol amid id ⟨rfl, rfl, fun _ => rfl⟩
  | none =>
      exact Course.write (modify_apply _ q) (amid.aside rfl rfl rfl (fun _ held => held)
        fun kinds => amid.caches.carry kinds rfl rfl) (kinds_aside rfl rfl rfl) trivial

theorem spells_bindDeclared (id : Option SymbolId) (type : Option TypeId) :
    (spelling p).Keeps q (bindDeclared id type) fun r _ => r.sites = q.sites := by
  cases id with
  | some id =>
      have settles : (q.symbol id).Settles
          { q.symbol id with answers := { (q.symbol id).answers with declared := some type } } :=
        ⟨rfl, rfl, fun _ => rfl⟩
      exact Course.write (modify_apply _ q) (amid.modifySymbol settles) (kinds_modifySymbol settles) rfl
  | none =>
      exact Course.write (modify_apply _ q) (amid.aside rfl rfl rfl (fun _ held => held)
        fun kinds => amid.caches.carry kinds rfl rfl) (kinds_aside rfl rfl rfl) rfl

theorem spells_newType {type : TypeInfo} (formed : q.FormedType type) :
    (spelling p).Keeps q (newType type) fun r id => (r.type id).fixed = type.fixed := by
  refine Course.write (modifyGet_apply _ q) (amid.addType formed) (q.kinds_addType type) ?_
  have made := q.type_addType type ⟨q.types.size⟩
  rw [if_pos rfl] at made
  have same := congrArg TypeInfo.fixed made
  exact same

theorem spells_setType (id : TypeId) {f : TypeInfo → TypeInfo} (settles : ∀ t : TypeInfo, t.Settles (f t))
    (aliased : ∀ t, (f t).alias? = t.alias?) : (spelling p).Keeps q (setType id f) fun _ _ => True := by
  have formed := amid.formed id
  refine Course.write (modify_apply _ q) (amid.modifyType (settles _) ?_)
    (kinds_modifyType (settles _)) trivial
  have same := settles (q.type id)
  refine ⟨?_, ?_, ?_, ?_, ?_, ?_⟩
  · rw [same.symbol]
    exact formed.symbol
  · rw [aliased]
    exact formed.aliased
  · rw [same.symbol, TypeInfo.hasObjectFlag, same.objectFlags]
    exact formed.tuple
  · rw [same.symbol, same.target]
    exact formed.target
  · rw [same.symbol, same.flags, TypeInfo.isTypeParameter, same.hasFlag, same.hasFlag, same.hasFlag]
    exact formed.named
  · rw [same.symbol, same.flags, same.hasFlag, same.hasFlag]
    exact formed.unnamed

theorem spells_newSignature (signature : Signature) :
    (spelling p).Keeps q (newSignature signature) fun _ _ => True :=
  Course.write (modifyGet_apply _ q) (amid.aside rfl rfl rfl (fun _ held => held)
    fun kinds => amid.caches.carry kinds rfl rfl) (kinds_aside rfl rfl rfl) trivial

theorem spells_newIndexInfo (info : IndexInfo) :
    (spelling p).Keeps q (newIndexInfo info) fun _ _ => True :=
  Course.write (modifyGet_apply _ q) (amid.aside rfl rfl rfl (fun _ held => held)
    fun kinds => amid.caches.carry kinds rfl rfl) (kinds_aside rfl rfl rfl) trivial

theorem spells_modify {f : Program → Program} (sites : (f q).sites = q.sites)
    (symbols : (f q).symbols = q.symbols) (types : (f q).types = q.types)
    (inferred : ∀ param ∈ q.inferred, param ∈ (f q).inferred)
    (caches : q.Kinds (f q) → (f q).Caches) : (spelling p).Keeps q (modify f) fun r _ => r = f q :=
  Course.write (modify_apply f q) (amid.aside sites symbols types inferred caches)
    (kinds_aside sites symbols types) rfl

end Build

end TypeAtlas
