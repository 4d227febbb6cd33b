import Mathlib.Data.List.Forall2
import TypeAtlas.Proofs.Program.Course
import TypeAtlas.Proofs.Program.Fits
import TypeAtlas.Proofs.Program.Retained

/-!
Type parameters and where they are declared. The declaration of an interface or a class lists the
declarations of its type parameters in their order, the declaration of a type parameter leads back to
it, and no two types have the same number.
-/

namespace TypeAtlas

open Build

/-- The places of which it counts what type stands there: those of type parameters and of what may be
generic and is no alias. -/
def SiteKind.isHead : SiteKind → Bool
  | .typeParameter | .interfaceDeclaration | .classDeclaration => true
  | _ => false

def SiteKind.isNominal : SiteKind → Bool
  | .interfaceDeclaration | .classDeclaration => true
  | _ => false

theorem SiteKind.isHead_of_isNominal {kind : SiteKind} (nominal : kind.isNominal = true) :
    kind.isHead = true := by
  cases kind <;> first | rfl | cases nominal

/-- An instantiation is known under no alias, and a type has arguments for an alias only if it is known
under one. The members of a type are always listed. -/
structure TypeInfo.Known (t : TypeInfo) : Prop where
  reference : t.hasObjectFlag .reference = true → t.alias? = none
  arguments : t.alias? = none → t.aliasArguments = none
  listed : t.properties.Full

structure Site.Heads (s t : Site) : Prop where
  kind : t.kind = s.kind
  symbol : t.symbol = s.symbol
  typeParameters : t.typeParameters = s.typeParameters
  answer : t.answers.type = s.answers.type

theorem Site.Heads.refl (s : Site) : s.Heads s := ⟨rfl, rfl, rfl, rfl⟩

theorem Site.Heads.trans {s t u : Site} (first : s.Heads t) (second : t.Heads u) : s.Heads u :=
  ⟨second.kind.trans first.kind, second.symbol.trans first.symbol,
    second.typeParameters.trans first.typeParameters, second.answer.trans first.answer⟩

namespace Program

def FirstAt (p : Program) (type : TypeId) (site : SiteId) : Prop :=
  ∃ symbol rest, (p.type type).symbol = some symbol ∧
    (p.symbol symbol).declarations = some (some site :: rest)

def Declares? (p : Program) (param : Option TypeId) (slot : Option SiteId) : Prop :=
  ∃ type site, param = some type ∧ slot = some site ∧ p.FirstAt type site

structure Accords (p : Program) (site : SiteId) : Prop where
  owner : (p.site site).kind = .typeParameter → ∀ symbol, (p.site site).symbol = some symbol →
    (p.symbol symbol).declarations = Slots.of [site]
  parameter : (p.site site).kind = .typeParameter → ∀ type,
    (p.site site).answers.type = some (some type) → p.FirstAt type site
  listed : (p.site site).kind.isNominal = true → ∀ type,
    (p.site site).answers.type = some (some type) → p.FirstAt type site ∧
      List.Forall₂ p.Declares? (p.type type).typeParameters.slots (p.site site).typeParameters.slots

structure Parametric (p : Program) : Prop where
  numbers : ∀ id, (p.type id).id ≤ p.lastId
  distinct : ∀ a b : TypeId, a.index < p.types.size → (p.type a).id = (p.type b).id → a = b
  sites : ∀ id, p.Accords id
  types : ∀ id, (p.type id).Known

structure Framed (bound : Nat) (p q : Program) : Prop where
  sites : p.sites.size ≤ q.sites.size
  symbols : p.symbols.size ≤ q.symbols.size
  types : p.types.size ≤ q.types.size
  kind : ∀ id : SiteId, id.index < p.sites.size → (q.site id).kind = (p.site id).kind
  site : ∀ id : SiteId, id.index < bound → (q.site id).typeParameters = (p.site id).typeParameters
  symbol : ∀ id : SymbolId, (p.symbol id).declarations ≠ some [] →
    (q.symbol id).declarations = (p.symbol id).declarations
  type : ∀ id : TypeId, id.index < p.types.size → (q.type id).symbol = (p.type id).symbol ∧
    (q.type id).typeParameters = (p.type id).typeParameters

variable {bound : Nat} {p q r : Program}

theorem Framed.refl (bound : Nat) (p : Program) : p.Framed bound p :=
  ⟨Nat.le_refl _, Nat.le_refl _, Nat.le_refl _, fun _ _ => rfl, fun _ _ => rfl, fun _ _ => rfl,
    fun _ _ => ⟨rfl, rfl⟩⟩

theorem Framed.trans (first : p.Framed bound q) (second : q.Framed bound r) : p.Framed bound r where
  sites := Nat.le_trans first.sites second.sites
  symbols := Nat.le_trans first.symbols second.symbols
  types := Nat.le_trans first.types second.types
  kind id inside :=
    (second.kind id (Nat.lt_of_lt_of_le inside first.sites)).trans (first.kind id inside)
  site id below := (second.site id below).trans (first.site id below)
  symbol id given := by
    have same := first.symbol id given
    exact (second.symbol id (same.symm ▸ given)).trans same
  type id inside := by
    obtain ⟨symbol, params⟩ := first.type id inside
    obtain ⟨still, further⟩ := second.type id (Nat.lt_of_lt_of_le inside first.types)
    exact ⟨still.trans symbol, further.trans params⟩

theorem Framed.below {lower : Nat} (framed : p.Framed bound q) (le : lower ≤ bound) :
    p.Framed lower q :=
  { framed with site := fun id below => framed.site id (Nat.lt_of_lt_of_le below le) }

theorem FirstAt.inside {type : TypeId} {site : SiteId} (declared : p.FirstAt type site) :
    type.index < p.types.size := by
  obtain ⟨symbol, _, held, -⟩ := declared
  exact type_inside (fun t => t.symbol = some symbol) held nofun

theorem FirstAt.carry {type : TypeId} {site : SiteId} (declared : p.FirstAt type site)
    (framed : p.Framed bound q) : q.FirstAt type site := by
  have inside := declared.inside
  obtain ⟨symbol, rest, held, first⟩ := declared
  refine ⟨symbol, rest, (framed.type type inside).1.trans held, ?_⟩
  rw [framed.symbol symbol (by rw [first]; nofun), first]

theorem Declares?.carry {param : Option TypeId} {slot : Option SiteId} (declares : p.Declares? param slot)
    (framed : p.Framed bound q) : q.Declares? param slot := by
  obtain ⟨type, site, rfl, rfl, declared⟩ := declares
  exact ⟨type, site, rfl, rfl, declared.carry framed⟩

theorem Accords.carry {site : SiteId} (accords : p.Accords site) (framed : p.Framed bound q)
    (heads : (p.site site).Heads (q.site site)) : q.Accords site := by
  refine ⟨?_, ?_, ?_⟩
  · intro kind symbol held
    have declared := accords.owner (heads.kind ▸ kind) symbol (heads.symbol ▸ held)
    rw [framed.symbol symbol (by rw [declared]; nofun), declared]
  · intro kind type answer
    exact (accords.parameter (heads.kind ▸ kind) type (heads.answer ▸ answer)).carry framed
  · intro kind type answer
    obtain ⟨declared, listed⟩ := accords.listed (heads.kind ▸ kind) type (heads.answer ▸ answer)
    refine ⟨declared.carry framed, ?_⟩
    rw [(framed.type type declared.inside).2, heads.typeParameters]
    exact listed.imp fun _ _ declares => declares.carry framed

/-- At other places nothing has to be known. -/
theorem accords_of_other {site : SiteId} (other : (p.site site).kind.isHead = false) : p.Accords site := by
  refine ⟨?_, ?_, ?_⟩
  · intro kind
    rw [kind] at other
    cases other
  · intro kind
    rw [kind] at other
    cases other
  · intro kind
    rw [SiteKind.isHead_of_isNominal kind] at other
    cases other

/-- Nothing is known of a place yet that nothing stands at and that has no symbol. -/
theorem accords_of_unanswered {site : SiteId} (unanswered : (p.site site).answers.type = none)
    (owner : (p.site site).kind = .typeParameter → ∀ symbol, (p.site site).symbol = some symbol →
      (p.symbol symbol).declarations = Slots.of [site]) : p.Accords site := by
  refine ⟨owner, ?_, ?_⟩
  all_goals
    intro _ type answer
    rw [unanswered] at answer
    cases answer

theorem Parametric.extend (parametric : q.Parametric) (framed : q.Framed bound r)
    (numbers : ∀ id, (r.type id).id ≤ r.lastId)
    (distinct : ∀ a b : TypeId, a.index < r.types.size → (r.type a).id = (r.type b).id → a = b)
    (sites : ∀ id, (q.site id).Heads (r.site id) ∨ r.Accords id)
    (types : ∀ id, r.type id = q.type id ∨ (r.type id).Known) : r.Parametric where
  numbers := numbers
  distinct := distinct
  sites id := (sites id).elim (fun heads => (parametric.sites id).carry framed heads) fun accords => accords
  types id := by
    rcases types id with same | known
    · rw [same]
      exact parametric.types id
    · exact known

theorem Parametric.elsewhere (parametric : q.Parametric) (framed : q.Framed bound r)
    (types : r.types = q.types) (last : q.lastId ≤ r.lastId)
    (sites : ∀ id, (q.site id).Heads (r.site id) ∨ r.Accords id) : r.Parametric := by
  have same (id : TypeId) : r.type id = q.type id := by rw [Program.type, types, Program.type]
  refine parametric.extend framed ?_ ?_ sites fun id => .inl (same id)
  · intro id
    rw [same]
    have before := parametric.numbers id
    omega
  · intro a b inside equal
    rw [same, same] at equal
    exact parametric.distinct a b (types ▸ inside) equal

theorem framed_addType (q : Program) (type : TypeInfo) : q.Framed bound (q.addType type).2 := by
  refine ⟨Nat.le_refl _, Nat.le_refl _, by simp [addType, addNumberedType], fun _ _ => rfl,
    fun _ _ => rfl, fun _ _ => rfl, ?_⟩
  intro id inside
  rw [type_addType, if_neg (Nat.ne_of_lt inside)]
  exact ⟨rfl, rfl⟩

/-- A new type has a number that no type had before. -/
theorem Parametric.addType (parametric : q.Parametric) {type : TypeInfo} (known : type.Known) :
    (q.addType type).2.Parametric := by
  have last : (q.addType type).2.lastId = q.lastId + 1 := rfl
  have framed : q.Framed 0 (q.addType type).2 := q.framed_addType type
  refine parametric.extend framed ?_ ?_ (fun id => .inl (Site.Heads.refl _)) ?_
  · intro id
    rw [type_addType, last]
    split
    · exact Int.le_refl _
    · have before := parametric.numbers id
      omega
  · intro a b inside equal
    have firstBefore := parametric.numbers a
    have secondBefore := parametric.numbers b
    rw [type_addType, type_addType] at equal
    split at equal <;> split at equal
    · cases a
      cases b
      simp_all
    · simp only at equal
      omega
    · simp only at equal
      omega
    · refine parametric.distinct a b ?_ equal
      simp only [Program.addType, addNumberedType, Array.size_push] at inside
      omega
  · intro id
    rw [type_addType]
    split
    · exact .inr ⟨known.reference, known.arguments, known.listed⟩
    · exact .inl rfl

/-- What the course keeps up: no place below the bound is given other type parameters. -/
structure Guarded (bound : Nat) (p : Program) : Prop where
  parametric : p.Parametric
  room : bound ≤ p.sites.size

end Program

open Program

def guarding (bound : Nat) : Course where
  holds := Guarded bound
  grows := Framed bound
  stopped := Parametric
  refl := Framed.refl bound
  trans := Framed.trans
  stop := Guarded.parametric

theorem Course.Keeps.below {α : Type} {lower bound : Nat} {q : Program} {step : Build α}
    {told : Program → α → Prop} (keeps : (guarding bound).Keeps q step told) (le : lower ≤ bound) :
    (guarding lower).Keeps q step fun r value => q.Framed bound r ∧ told r value := by
  refine ⟨keeps.failed, ?_⟩
  intro value after ran
  obtain ⟨guarded, framed, known⟩ := keeps.result value after ran
  exact ⟨⟨guarded.parametric, Nat.le_trans le guarded.room⟩, framed.below le, framed, known⟩

namespace Build

variable {bound : Nat} {q : Program} (guarded : q.Guarded bound)
include guarded

theorem guards_newSite {s : Site} (unanswered : s.answers.type = none) (unowned : s.symbol = none ∨
    s.kind.isHead = false) :
    (guarding bound).Keeps q (newSite s) fun r id => id = ⟨q.sites.size⟩ ∧ r = (q.addSite s).2 := by
  have framed : q.Framed bound (q.addSite s).2 := by
    refine ⟨by simp [addSite], Nat.le_refl _, Nat.le_refl _, ?_, ?_, fun _ _ => rfl,
      fun _ _ => ⟨rfl, rfl⟩⟩
    · intro id inside
      rw [site_addSite, if_neg (Nat.ne_of_lt inside)]
    · intro id below
      rw [site_addSite, if_neg (Nat.ne_of_lt (Nat.lt_of_lt_of_le below guarded.room))]
  refine Course.write (modifyGet_apply _ q) ⟨?_, ?_⟩ framed ⟨rfl, rfl⟩
  · refine guarded.parametric.elsewhere framed rfl (Nat.le_refl _) fun id => ?_
    by_cases last : id.index = q.sites.size
    · have here := (q.site_addSite s id).trans (if_pos last)
      right
      rcases unowned with unowned | other
      · refine accords_of_unanswered (by rw [here, unanswered]) fun _ symbol held => ?_
        rw [here, unowned] at held
        cases held
      · exact accords_of_other (by rw [here, other])
    · left
      rw [site_addSite, if_neg last]
      exact Site.Heads.refl _
  · exact Nat.le_trans guarded.room framed.sites

theorem guards_setSite {id : SiteId} {f : Site → Site} (kind : ∀ s : Site, (f s).kind = s.kind)
    (params : bound ≤ id.index ∨ ∀ s : Site, (f s).typeParameters = s.typeParameters)
    (accords : (q.site id).Heads (f (q.site id)) ∨ (q.modifySite id f).Accords id) :
    (guarding bound).Keeps q (setSite id f) fun r _ => r = q.modifySite id f := by
  have framed : q.Framed bound (q.modifySite id f) := by
    refine ⟨by simp [modifySite], Nat.le_refl _, Nat.le_refl _, ?_, ?_, fun _ _ => rfl,
      fun _ _ => ⟨rfl, rfl⟩⟩
    · intro other _
      rw [site_modifySite]
      split
      · exact kind _
      · rfl
    · intro other below
      rw [site_modifySite]
      split
      · rename_i here
        obtain outside | same := params
        · rw [here.1] at below
          omega
        · exact same _
      · rfl
  refine Course.write (modify_apply _ q) ⟨?_, ?_⟩ framed rfl
  · refine guarded.parametric.elsewhere framed rfl (Nat.le_refl _) fun other => ?_
    by_cases here : other = id
    · subst here
      refine accords.imp_left fun heads => ?_
      rw [site_modifySite]
      split
      · exact heads
      · exact Site.Heads.refl _
    · left
      rw [site_modifySite, if_neg fun same => here same.1]
      exact Site.Heads.refl _
  · exact Nat.le_trans guarded.room framed.sites

theorem guards_touchSite (id : SiteId) {f : Site → Site} (heads : ∀ s : Site, s.Heads (f s)) :
    (guarding bound).Keeps q (setSite id f) fun r _ => r = q.modifySite id f :=
  guards_setSite guarded (fun s => (heads s).kind) (.inr fun s => (heads s).typeParameters)
    (.inl (heads _))

/-- A change at a place that declares nothing generic and no type parameter. -/
theorem guards_changeSite {id : SiteId} {f : Site → Site} (kind : ∀ s : Site, (f s).kind = s.kind)
    (params : ∀ s : Site, (f s).typeParameters = s.typeParameters)
    (other : (q.site id).kind.isHead = false) :
    (guarding bound).Keeps q (setSite id f) fun r _ => r = q.modifySite id f := by
  refine guards_setSite guarded kind (.inr params) (.inr (accords_of_other ?_))
  rw [site_modifySite]
  split
  · rw [kind, other]
  · exact other

theorem guards_bindSite {id : SiteId} (other : (q.site id).kind.isHead = false)
    (type : Option TypeId) : (guarding bound).Keeps q (bindSite id type) fun _ _ => True :=
  (guards_changeSite guarded
    (f := fun s => { s with answers := { s.answers with type := some type } })
    (fun _ => rfl) (fun _ => rfl) other).weaken fun _ _ _ _ _ => trivial

omit guarded in
theorem framed_aside {r : Program} (sites : r.sites = q.sites) (symbols : r.symbols = q.symbols)
    (types : r.types = q.types) : q.Framed bound r := by
  refine ⟨Nat.le_of_eq (by rw [sites]), Nat.le_of_eq (by rw [symbols]), Nat.le_of_eq (by rw [types]),
    ?_, ?_, ?_, ?_⟩
  · intro id _
    rw [Program.site, sites, Program.site]
  · intro id _
    rw [Program.site, sites, Program.site]
  · intro id _
    rw [Program.symbol, symbols, Program.symbol]
  · intro id _
    rw [Program.type, types]
    exact ⟨rfl, rfl⟩

theorem guarded_aside {r : Program} (sites : r.sites = q.sites) (symbols : r.symbols = q.symbols)
    (types : r.types = q.types) (last : r.lastId = q.lastId) : r.Guarded bound := by
  have framed : q.Framed bound r := framed_aside sites symbols types
  refine ⟨guarded.parametric.elsewhere framed types (Nat.le_of_eq last.symm) fun id => .inl ?_,
    by rw [sites]; exact guarded.room⟩
  rw [Program.site, Program.site, sites]
  exact Site.Heads.refl _

theorem guards_aside {α : Type} {step : Build α} {value : α} {r : Program}
    (ran : step q = (.ok value, r)) (sites : r.sites = q.sites) (symbols : r.symbols = q.symbols)
    (types : r.types = q.types) (last : r.lastId = q.lastId) :
    (guarding bound).Keeps q step fun _ _ => True :=
  Course.write ran (guarded_aside guarded sites symbols types last) (framed_aside sites symbols types)
    trivial

theorem guards_bindSignature (id : Option SiteId) (signature : Option SignatureId) :
    (guarding bound).Keeps q (bindSignature id signature) fun _ _ => True := by
  cases id with
  | some id =>
      exact (guards_touchSite guarded id
        (f := fun s => { s with answers := { s.answers with signature := some signature } })
        fun _ => ⟨rfl, rfl, rfl, rfl⟩).weaken fun _ _ _ _ _ => trivial
  | none => exact guards_aside guarded (modify_apply _ q) rfl rfl rfl rfl

theorem guards_newSymbol (symbol : Symbol) :
    (guarding bound).Keeps q (newSymbol symbol) fun r id => id.index < r.symbols.size ∧
      r.sites = q.sites ∧ (r.symbol id).declarations = symbol.declarations := by
  have framed : q.Framed bound (q.addSymbol symbol).2 := by
    refine ⟨Nat.le_refl _, by simp [addSymbol, addNumberedSymbol], Nat.le_refl _, fun _ _ => rfl,
      fun _ _ => rfl, ?_, fun _ _ => ⟨rfl, rfl⟩⟩
    intro id given
    have inside := symbol_inside (fun s => s.declarations ≠ some []) given fun held => held rfl
    rw [symbol_addSymbol, if_neg (Nat.ne_of_lt inside)]
  have here := (symbol_addSymbol q symbol ⟨q.symbols.size⟩).trans (if_pos rfl)
  refine Course.write (modifyGet_apply _ q) ⟨?_, guarded.room⟩ framed
    ⟨by simp [addSymbol, addNumberedSymbol], rfl, (congrArg Symbol.declarations here).trans rfl⟩
  exact guarded.parametric.elsewhere framed rfl (Nat.le_succ _) fun id => .inl (Site.Heads.refl _)

theorem guards_setSymbol (id : SymbolId) {f : Symbol → Symbol}
    (declarations : (q.symbol id).declarations ≠ some [] →
      (f (q.symbol id)).declarations = (q.symbol id).declarations) :
    (guarding bound).Keeps q (setSymbol id f) fun r _ => r = q.modifySymbol id f := by
  have framed : q.Framed bound (q.modifySymbol id f) := by
    refine ⟨Nat.le_refl _, by simp [modifySymbol], Nat.le_refl _, fun _ _ => rfl, fun _ _ => rfl, ?_,
      fun _ _ => ⟨rfl, rfl⟩⟩
    intro other given
    rw [symbol_modifySymbol]
    split
    · rename_i here
      rw [here.1] at given ⊢
      exact declarations given
    · rfl
  refine Course.write (modify_apply _ q) ⟨?_, guarded.room⟩ framed rfl
  exact guarded.parametric.elsewhere framed rfl (Nat.le_refl _) fun id => .inl (Site.Heads.refl _)

theorem guards_touchSymbol (id : SymbolId) {f : Symbol → Symbol}
    (declarations : ∀ s : Symbol, (f s).declarations = s.declarations) :
    (guarding bound).Keeps q (setSymbol id f) fun r _ => r.sites = q.sites :=
  (guards_setSymbol guarded id fun _ => declarations _).weaken <| by
    rintro _ _ - - rfl
    rfl

theorem guards_bindSymbol (id : SymbolId) (type : Option TypeId) :
    (guarding bound).Keeps q (bindSymbol id type) fun r _ => r.sites = q.sites :=
  guards_touchSymbol guarded id fun _ => rfl

theorem guards_bindDeclared (id : SymbolId) (type : Option TypeId) :
    (guarding bound).Keeps q (bindDeclared id type) fun r _ => r.sites = q.sites :=
  guards_touchSymbol guarded id fun _ => rfl

theorem guards_newType {type : TypeInfo} (known : type.Known) :
    (guarding bound).Keeps q (newType type) fun r id => id.index < r.types.size ∧ r.sites = q.sites ∧
      r.type id = { type with id := q.lastId + 1 } :=
  Course.write (modifyGet_apply _ q) ⟨guarded.parametric.addType known, guarded.room⟩
    (q.framed_addType type)
    ⟨by simp [addType, addNumberedType], rfl, (type_addType ..).trans (if_pos rfl)⟩

theorem guards_setType (id : TypeId) {f : TypeInfo → TypeInfo} (number : ∀ t, (f t).id = t.id)
    (symbol : ∀ t, (f t).symbol = t.symbol) (params : ∀ t, (f t).typeParameters = t.typeParameters)
    (known : (q.type id).Known → (f (q.type id)).Known) :
    (guarding bound).Keeps q (setType id f) fun _ _ => True := by
  have same (other : TypeId) : ((q.modifyType id f).type other).id = (q.type other).id := by
    rw [type_modifyType]
    split
    · exact number _
    · rfl
  have framed : q.Framed bound (q.modifyType id f) := by
    refine ⟨Nat.le_refl _, Nat.le_refl _, by simp [modifyType], fun _ _ => rfl, fun _ _ => rfl,
      fun _ _ => rfl, ?_⟩
    intro other _
    rw [type_modifyType]
    split
    · exact ⟨symbol _, params _⟩
    · exact ⟨rfl, rfl⟩
  refine Course.write (modify_apply _ q) ⟨?_, guarded.room⟩ framed trivial
  refine guarded.parametric.extend framed ?_ ?_ (fun id => .inl (Site.Heads.refl _)) ?_
  · intro other
    rw [same]
    exact guarded.parametric.numbers other
  · intro a b inside equal
    rw [same, same] at equal
    exact guarded.parametric.distinct a b (by simpa [modifyType] using inside) equal
  · intro other
    rw [type_modifyType]
    split
    · rename_i here
      rw [here.1]
      exact .inr (known (guarded.parametric.types id))
    · exact .inl rfl

theorem guards_touchType (id : TypeId) {f : TypeInfo → TypeInfo} (number : ∀ t, (f t).id = t.id)
    (symbol : ∀ t, (f t).symbol = t.symbol) (params : ∀ t, (f t).typeParameters = t.typeParameters)
    (objectFlags : ∀ t, (f t).objectFlags = t.objectFlags) (aliased : ∀ t, (f t).alias? = t.alias?)
    (arguments : ∀ t, (f t).aliasArguments = t.aliasArguments)
    (listed : ∀ t, t.properties.Full → (f t).properties.Full) :
    (guarding bound).Keeps q (setType id f) fun _ _ => True := by
  refine guards_setType guarded id number symbol params fun known => ⟨?_, ?_, listed _ known.listed⟩
  · rw [TypeInfo.hasObjectFlag, objectFlags, aliased]
    exact known.reference
  · rw [aliased, arguments]
    exact known.arguments

theorem guards_newSignature (signature : Signature) :
    (guarding bound).Keeps q (newSignature signature) fun _ _ => True :=
  guards_aside guarded (modifyGet_apply _ q) rfl rfl rfl rfl

theorem guards_newIndexInfo (info : IndexInfo) :
    (guarding bound).Keeps q (newIndexInfo info) fun _ _ => True :=
  guards_aside guarded (modifyGet_apply _ q) rfl rfl rfl rfl

theorem guards_modify {f : Program → Program} (sites : (f q).sites = q.sites)
    (symbols : (f q).symbols = q.symbols) (types : (f q).types = q.types)
    (last : (f q).lastId = q.lastId) : (guarding bound).Keeps q (modify f) fun _ _ => True :=
  guards_aside guarded (modify_apply f q) sites symbols types last

end Build

end TypeAtlas
