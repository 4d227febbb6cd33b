import TypeAtlas.Proofs.Program.Course
import TypeAtlas.Proofs.Program.Records

/-!
Where members stem from. A member of an instantiation points at the member it was made from, and so on
down to a declared one. No step of a program moves such a chain, so a member is known by the number at
its end for as long as the program grows.
-/

namespace TypeAtlas

open Build

namespace Program

variable {p q r base : Program}

theorem site_of_same (same : q.sites = p.sites) (id : SiteId) : q.site id = p.site id := by
  rw [site, same, site]

theorem symbol_of_same (same : q.symbols = p.symbols) (id : SymbolId) :
    q.symbol id = p.symbol id := by
  rw [symbol, same, symbol]

theorem type_of_same (same : q.types = p.types) (id : TypeId) : q.type id = p.type id := by
  rw [type, same, type]

/-- The targets of a member lead, one after the other, to a declared one. -/
inductive Stems (p : Program) : SymbolId → SymbolId → Prop
  | declared {member : SymbolId} (untargeted : (p.symbol member).target = none) :
      Stems p member member
  | instantiated {member original declared : SymbolId}
      (target : (p.symbol member).target = some original) (stems : Stems p original declared) :
      Stems p member declared

/-- A chain of targets to older and older members with one first declaration, which declares the member
at the end. -/
inductive Rooted (p : Program) : SymbolId → SymbolId → Prop
  | declared {member : SymbolId} {site : SiteId} (untargeted : (p.symbol member).target = none)
      (first : p.firstDeclaration (some member) = some site)
      (stands : (p.site site).symbol = some member) : Rooted p member member
  | instantiated {member original declared : SymbolId}
      (target : (p.symbol member).target = some original) (older : original.index < member.index)
      (shared : p.firstDeclaration (some member) = p.firstDeclaration (some original))
      (rooted : Rooted p original declared) : Rooted p member declared

namespace Rooted

variable {member declared : SymbolId}

theorem stems (rooted : p.Rooted member declared) : p.Stems member declared := by
  induction rooted with
  | declared untargeted _ _ => exact .declared untargeted
  | instantiated target _ _ _ ih => exact .instantiated target ih

theorem first (rooted : p.Rooted member declared) :
    ∃ site, p.firstDeclaration (some member) = some site ∧
      (p.site site).symbol = some declared := by
  induction rooted with
  | declared _ first stands => exact ⟨_, first, stands⟩
  | instantiated _ _ shared _ ih => rwa [shared]

theorem inside (rooted : p.Rooted member declared) : member.index < p.symbols.size := by
  obtain ⟨site, first, -⟩ := rooted.first
  by_contra outside
  rw [firstDeclaration, Option.bind_some, p.symbol_of_size_le (Nat.le_of_not_lt outside)] at first
  cases first

theorem declared_inside (rooted : p.Rooted member declared) : declared.index < p.symbols.size := by
  induction rooted with
  | declared untargeted first stands => exact (Rooted.declared untargeted first stands).inside
  | instantiated _ _ _ _ ih => exact ih

theorem aside (rooted : p.Rooted member declared) (sites : q.sites = p.sites)
    (symbols : q.symbols = p.symbols) : q.Rooted member declared := by
  have first (id : SymbolId) : q.firstDeclaration (some id) = p.firstDeclaration (some id) := by
    simp only [firstDeclaration, Option.bind_some, symbol_of_same symbols]
  induction rooted with
  | @declared member site untargeted found stands =>
      have found : q.firstDeclaration (some member) = some site := by rw [first, found]
      refine .declared ?_ found ?_
      · rw [symbol_of_same symbols, untargeted]
      · rw [site_of_same sites, stands]
  | instantiated target older shared _ ih =>
      refine .instantiated ?_ older ?_ ih
      · rw [symbol_of_same symbols, target]
      · rw [first, first, shared]

theorem memberIdFrom_eq (rooted : p.Rooted member declared) {fuel : Nat}
    (enough : member.index < fuel) : p.memberIdFrom fuel member = (p.symbol declared).id := by
  induction rooted generalizing fuel with
  | declared untargeted _ _ =>
      cases fuel with
      | zero => omega
      | succ fuel => simp [memberIdFrom, untargeted]
  | instantiated target older _ _ ih =>
      cases fuel with
      | zero => omega
      | succ fuel =>
          simp only [memberIdFrom, target]
          exact ih (by omega)

theorem memberId_eq (rooted : p.Rooted member declared) :
    p.memberId member = (p.symbol declared).id :=
  rooted.memberIdFrom_eq rooted.inside

end Rooted

theorem Stems.unique {member one other : SymbolId} (stems : p.Stems member one)
    (also : p.Stems member other) : one = other := by
  induction stems with
  | declared untargeted =>
      cases also with
      | declared _ => rfl
      | instantiated target _ =>
          rw [untargeted] at target
          cases target
  | instantiated target _ ih =>
      cases also with
      | declared untargeted =>
          rw [untargeted] at target
          cases target
      | instantiated targets stems =>
          rw [target, Option.some_inj] at targets
          subst targets
          exact ih stems

/-- Younger symbols have greater numbers, and none is beyond the last that was given out. -/
structure Ascending (p : Program) : Prop where
  bounded : ∀ id : SymbolId, id.index < p.symbols.size → (p.symbol id).id ≤ p.lastId
  increasing : ∀ a b : SymbolId, a.index < b.index → b.index < p.symbols.size →
    (p.symbol a).id < (p.symbol b).id

theorem Ascending.eq_of_id (ascending : p.Ascending) {a b : SymbolId}
    (insideA : a.index < p.symbols.size) (insideB : b.index < p.symbols.size)
    (same : (p.symbol a).id = (p.symbol b).id) : a = b := by
  rcases Nat.lt_trichotomy a.index b.index with less | equal | greater
  · have apart := ascending.increasing a b less insideB
    omega
  · cases a
    cases b
    rw [SymbolId.mk.injEq]
    exact equal
  · have apart := ascending.increasing b a greater insideA
    omega

theorem Ascending.later (ascending : p.Ascending) (last : p.lastId ≤ q.lastId)
    (size : q.symbols.size = p.symbols.size) (same : ∀ id, (q.symbol id).id = (p.symbol id).id) :
    q.Ascending := by
  constructor
  · intro id inside
    have bounded := ascending.bounded id (size ▸ inside)
    rw [same]
    omega
  · intro a b less inside
    rw [same, same]
    exact ascending.increasing a b less (size ▸ inside)

theorem Ascending.addSymbol (ascending : p.Ascending) (symbol : Symbol) :
    (p.addSymbol symbol).2.Ascending := by
  have size : (p.addSymbol symbol).2.symbols.size = p.symbols.size + 1 := Array.size_push _
  have last : (p.addSymbol symbol).2.lastId = p.lastId + 1 := rfl
  constructor
  · intro id inside
    rw [symbol_addSymbol, last]
    by_cases new : id.index = p.symbols.size
    · simp [new]
    · have bounded := ascending.bounded id (by omega)
      rw [if_neg new]
      omega
  · intro a b less inside
    rw [symbol_addSymbol, symbol_addSymbol, if_neg (by omega)]
    by_cases new : b.index = p.symbols.size
    · have bounded := ascending.bounded a (by omega)
      rw [if_pos new]
      change (p.symbol a).id < ((p.lastId + 1 : Nat) : Int)
      omega
    · rw [if_neg new]
      exact ascending.increasing a b less (by omega)

/-- What was known of members and of where they are declared is still so. Records that were not there
yet may be anything, but for types, which are new without properties. -/
structure Carries (p q : Program) : Prop where
  sites : p.sites.size ≤ q.sites.size
  symbols : p.symbols.size ≤ q.symbols.size
  stands : ∀ id : SiteId, id.index < p.sites.size → (q.site id).symbol = (p.site id).symbol
  target : ∀ id : SymbolId, id.index < p.symbols.size →
    (q.symbol id).target = (p.symbol id).target
  declarations : ∀ id : SymbolId, id.index < p.symbols.size →
    (q.symbol id).declarations = (p.symbol id).declarations
  properties : ∀ id, (q.type id).properties.slots = (p.type id).properties.slots
  ascending : p.Ascending → q.Ascending

namespace Carries

theorem refl (p : Program) : p.Carries p := by
  constructor <;> simp

theorem trans (first : p.Carries q) (second : q.Carries r) : p.Carries r := by
  refine ⟨Nat.le_trans first.sites second.sites, Nat.le_trans first.symbols second.symbols,
    ?_, ?_, ?_, ?_, ?_⟩
  · intro id inside
    rw [second.stands id (Nat.lt_of_lt_of_le inside first.sites), first.stands id inside]
  · intro id inside
    rw [second.target id (Nat.lt_of_lt_of_le inside first.symbols), first.target id inside]
  · intro id inside
    rw [second.declarations id (Nat.lt_of_lt_of_le inside first.symbols),
      first.declarations id inside]
  · intro id
    rw [second.properties, first.properties]
  · exact fun ascending => second.ascending (first.ascending ascending)

theorem first (carries : p.Carries q) {id : SymbolId} (inside : id.index < p.symbols.size) :
    q.firstDeclaration (some id) = p.firstDeclaration (some id) := by
  simp only [firstDeclaration, Option.bind_some, carries.declarations id inside]

theorem rooted (carries : p.Carries q) {member declared : SymbolId}
    (rooted : p.Rooted member declared) : q.Rooted member declared := by
  -- the older members of the chain are inside as well, so nothing on it was new
  induction rooted with
  | @declared member site untargeted first stands =>
      have inside := (Rooted.declared untargeted first stands).inside
      have placed : site.index < p.sites.size := by
        by_contra outside
        rw [p.site_of_size_le (Nat.le_of_not_lt outside)] at stands
        cases stands
      have first : q.firstDeclaration (some member) = some site := by
        rw [carries.first inside, first]
      refine .declared ?_ first ?_
      · rw [carries.target member inside, untargeted]
      · rw [carries.stands site placed, stands]
  | @instantiated member original declared target older shared rooted ih =>
      have inside := (Rooted.instantiated target older shared rooted).inside
      refine .instantiated ?_ older ?_ ih
      · rw [carries.target member inside, target]
      · rw [carries.first inside, carries.first rooted.inside, shared]

/-! The writes that may follow. -/

theorem addSite (carries : base.Carries q) (s : Site) : base.Carries (q.addSite s).2 := by
  have size : (q.addSite s).2.sites.size = q.sites.size + 1 := Array.size_push _
  have sites := carries.sites
  refine { carries with sites := by omega, stands := ?_, ascending := ?_ }
  · intro id inside
    rw [site_addSite, if_neg (by omega)]
    exact carries.stands id inside
  · exact fun ascending => (carries.ascending ascending).later (Nat.le_refl _) rfl fun _ => rfl

theorem addSymbol (carries : base.Carries q) (s : Symbol) : base.Carries (q.addSymbol s).2 := by
  have size : (q.addSymbol s).2.symbols.size = q.symbols.size + 1 := Array.size_push _
  have symbols := carries.symbols
  refine { carries with symbols := by omega, target := ?_, declarations := ?_, ascending := ?_ }
  · intro id inside
    rw [symbol_addSymbol, if_neg (by omega)]
    exact carries.target id inside
  · intro id inside
    rw [symbol_addSymbol, if_neg (by omega)]
    exact carries.declarations id inside
  · exact fun ascending => (carries.ascending ascending).addSymbol s

theorem addType (carries : base.Carries q) {t : TypeInfo} (empty : t.properties.slots = []) :
    base.Carries (q.addType t).2 := by
  refine { carries with properties := ?_, ascending := ?_ }
  · intro id
    rw [← carries.properties, type_addType]
    by_cases new : id.index = q.types.size
    · rw [if_pos new, q.type_of_size_le (Nat.le_of_eq new.symm)]
      exact empty
    · rw [if_neg new]
  · exact fun ascending => (carries.ascending ascending).later (Nat.le_succ _) rfl fun _ => rfl

theorem modifySite (carries : base.Carries q) (at_ : SiteId) {f : Site → Site}
    (same : at_.index < base.sites.size → ∀ s, (f s).symbol = s.symbol) :
    base.Carries (q.modifySite at_ f) := by
  have size : (q.modifySite at_ f).sites.size = q.sites.size := Array.size_modify
  have sites := carries.sites
  refine { carries with sites := by omega, stands := ?_, ascending := ?_ }
  · intro id inside
    rw [site_modifySite]
    split
    · rename_i here
      rw [same (here.1 ▸ inside), carries.stands id inside]
    · exact carries.stands id inside
  · exact fun ascending => (carries.ascending ascending).later (Nat.le_refl _) rfl fun _ => rfl

theorem modifySymbol (carries : base.Carries q) (at_ : SymbolId) {f : Symbol → Symbol}
    (number : ∀ s, (f s).id = s.id)
    (same : at_.index < base.symbols.size →
      ∀ s, (f s).target = s.target ∧ (f s).declarations = s.declarations) :
    base.Carries (q.modifySymbol at_ f) := by
  have size : (q.modifySymbol at_ f).symbols.size = q.symbols.size := Array.size_modify
  have symbols := carries.symbols
  refine { carries with symbols := by omega, target := ?_, declarations := ?_, ascending := ?_ }
  · intro id inside
    rw [symbol_modifySymbol]
    split
    · rename_i here
      rw [(same (here.1 ▸ inside) _).1, carries.target id inside]
    · exact carries.target id inside
  · intro id inside
    rw [symbol_modifySymbol]
    split
    · rename_i here
      rw [(same (here.1 ▸ inside) _).2, carries.declarations id inside]
    · exact carries.declarations id inside
  · intro ascending
    refine (carries.ascending ascending).later (Nat.le_refl _) size ?_
    intro id
    rw [symbol_modifySymbol]
    split
    · exact number _
    · rfl

theorem modifyType (carries : base.Carries q) (at_ : TypeId) {f : TypeInfo → TypeInfo}
    (same : ∀ t, (f t).properties = t.properties) : base.Carries (q.modifyType at_ f) := by
  refine { carries with properties := ?_, ascending := ?_ }
  · intro id
    rw [← carries.properties, type_modifyType]
    split
    · rw [same]
    · rfl
  · exact fun ascending => (carries.ascending ascending).later (Nat.le_refl _) rfl fun _ => rfl

/-- A change to anything but places, symbols, types and the last number. -/
theorem aside (carries : base.Carries q) {other : Program} (sites : other.sites = q.sites)
    (symbols : other.symbols = q.symbols) (types : other.types = q.types)
    (last : other.lastId = q.lastId) : base.Carries other := by
  refine ⟨sites ▸ carries.sites, symbols ▸ carries.symbols, ?_, ?_, ?_, ?_, ?_⟩
  · intro id inside
    rw [site_of_same sites, carries.stands id inside]
  · intro id inside
    rw [symbol_of_same symbols, carries.target id inside]
  · intro id inside
    rw [symbol_of_same symbols, carries.declarations id inside]
  · intro id
    rw [type_of_same types, carries.properties]
  · intro ascending
    exact (carries.ascending ascending).later (Nat.le_of_eq last.symm) (by rw [symbols])
      fun id => congrArg Symbol.id (symbol_of_same symbols id)

theorem siteAnswers (carries : base.Carries q) (f : SiteAnswers → SiteAnswers) (id : Option SiteId) :
    base.Carries (q.modifySiteAnswers f id) := by
  cases id with
  | none => exact carries.aside rfl rfl rfl rfl
  | some id => exact carries.modifySite id fun _ _ => rfl

theorem symbolAnswers (carries : base.Carries q) (f : SymbolAnswers → SymbolAnswers)
    (id : Option SymbolId) : base.Carries (q.modifySymbolAnswers f id) := by
  cases id with
  | none => exact carries.aside rfl rfl rfl rfl
  | some id => exact carries.modifySymbol id (fun _ => rfl) fun _ _ => ⟨rfl, rfl⟩

end Carries

theorem addSymbol_made (p : Program) (record : Symbol) :
    (p.addSymbol record).2.symbol ⟨p.symbols.size⟩ = { record with id := p.lastId + 1 } :=
  (p.symbol_addSymbol record ⟨p.symbols.size⟩).trans (if_pos rfl)

theorem Rooted.copied {member declared : SymbolId} (rooted : p.Rooted member declared)
    {record : Symbol} (target : record.target = some member)
    (shared : record.declarations = (p.symbol member).declarations) :
    (p.addSymbol record).2.Rooted ⟨p.symbols.size⟩ declared := by
  have carries := (Carries.refl p).addSymbol record
  have made := p.addSymbol_made record
  have points : ((p.addSymbol record).2.symbol ⟨p.symbols.size⟩).target = some member := by
    rw [made]
    exact target
  refine .instantiated points rooted.inside ?_ (carries.rooted rooted)
  rw [carries.first rooted.inside]
  simp only [firstDeclaration, Option.bind_some, made]
  rw [shared]

def Stemmed (p : Program) (slot : Option SymbolId) : Prop :=
  ∃ member declared, slot = some member ∧ p.Rooted member declared

theorem Carries.stemmed (carries : p.Carries q) {slot : Option SymbolId} (stemmed : p.Stemmed slot) :
    q.Stemmed slot := by
  obtain ⟨member, declared, same, rooted⟩ := stemmed
  exact ⟨member, declared, same, carries.rooted rooted⟩

structure Traced (p : Program) : Prop where
  properties : ∀ type, ∀ slot ∈ (p.type type).properties.slots, p.Stemmed slot
  ascending : p.Ascending

namespace Traced

theorem later (traced : p.Traced) (carries : p.Carries q) : q.Traced := by
  refine ⟨?_, carries.ascending traced.ascending⟩
  intro type slot held
  rw [carries.properties] at held
  exact carries.stemmed (traced.properties type slot held)

theorem retyped (traced : p.Traced) (sites : q.sites = p.sites) (symbols : q.symbols = p.symbols)
    (last : p.lastId ≤ q.lastId)
    (properties : ∀ type, ∀ slot ∈ (q.type type).properties.slots, p.Stemmed slot) : q.Traced := by
  constructor
  · intro type slot held
    obtain ⟨member, declared, same, rooted⟩ := properties type slot held
    exact ⟨member, declared, same, rooted.aside sites symbols⟩
  · exact traced.ascending.later last (by rw [symbols])
      fun id => congrArg Symbol.id (symbol_of_same symbols id)

theorem addType (traced : p.Traced) {t : TypeInfo}
    (stemmed : ∀ slot ∈ t.properties.slots, p.Stemmed slot) : (p.addType t).2.Traced := by
  refine traced.retyped rfl rfl (Nat.le_succ _) ?_
  intro type slot held
  rw [type_addType] at held
  split at held
  · exact stemmed slot held
  · exact traced.properties type slot held

theorem modifyType (traced : p.Traced) (at_ : TypeId) {f : TypeInfo → TypeInfo}
    (stemmed : ∀ slot ∈ (f (p.type at_)).properties.slots, p.Stemmed slot) :
    (p.modifyType at_ f).Traced := by
  refine traced.retyped rfl rfl (Nat.le_refl _) ?_
  intro type slot held
  rw [type_modifyType] at held
  split at held
  · rename_i here
    rw [here.1] at held
    exact stemmed slot held
  · exact traced.properties type slot held

end Traced

end Program

namespace Build

open Program

variable {α β : Type} {base q : Program}

def keeping (invariant : Program → Prop) : Course where
  holds := invariant
  grows _ _ := True
  stopped := invariant
  refl _ := trivial
  trans _ _ := trivial
  stop := id

def carrying (base : Program) : Course := keeping base.Carries

abbrev Quietly (q : Program) (step : Build α) (told : Program → α → Prop) : Prop :=
  (carrying q).Keeps q step told

/-- A quiet step keeps what follows from nothing being taken back. -/
theorem Quietly.keeps {step : Build α} {told : Program → α → Prop} {invariant : Program → Prop}
    (quiet : Quietly q step told) (kept : ∀ r, q.Carries r → invariant r) :
    (keeping invariant).Keeps q step fun r value => q.Carries r ∧ told r value := by
  constructor
  · intro fault after ran
    exact kept after (quiet.failed fault after ran)
  · intro value after ran
    obtain ⟨carries, -, known⟩ := quiet.result value after ran
    exact ⟨kept after carries, trivial, carries, known⟩

theorem Quietly.onto {step : Build α} {told : Program → α → Prop} (quiet : Quietly q step told)
    (carries : base.Carries q) :
    (carrying base).Keeps q step fun r value => q.Carries r ∧ told r value :=
  quiet.keeps fun _ => carries.trans

theorem quietly_pure {value : α} {told : Program → α → Prop} (known : told q value) :
    Quietly q (pure value) told :=
  Course.pure (Carries.refl q) known

theorem quietly_bind {step : Build α} {next : α → Build β} {told : Program → α → Prop}
    {more : Program → β → Prop} (first : Quietly q step told)
    (rest : ∀ value r, q.Carries r → told r value → Quietly r (next value) more) :
    Quietly q (step >>= next) more := by
  refine Course.bind (first.onto (Carries.refl q)) ?_
  intro value r carries _ known
  refine ((rest value r carries known.2).onto carries).weaken ?_
  exact fun _ _ _ _ known => known.2

theorem quietly_map {step : Build α} {told : Program → α → Prop} {more : Program → β → Prop}
    (f : α → β) (quiet : Quietly q step told) (known : ∀ r value, told r value → more r (f value)) :
    Quietly q (f <$> step) more :=
  Course.map f quiet known

theorem quietly_lift_bind {result : Except Fault α} {next : α → Build β}
    {told : Program → β → Prop} (rest : ∀ value, result = .ok value → Quietly q (next value) told) :
    Quietly q (liftM result >>= next) told :=
  Course.lift_bind (Carries.refl q) rest

theorem quietly_ask {query : Program → Except Fault α} {told : Program → α → Prop}
    (known : ∀ value, query q = .ok value → told q value) : Quietly q (Build.ask query) told :=
  Course.ask (Carries.refl q) known

theorem quietly_ask_bind {query : Program → Except Fault α} {next : α → Build β}
    {told : Program → β → Prop} (rest : ∀ value, query q = .ok value → Quietly q (next value) told) :
    Quietly q (Build.ask query >>= next) told :=
  Course.ask_bind (Carries.refl q) rest

/-- What is told of each result stays true as nothing is taken back. -/
theorem quietly_mapM {f : α → Build β} {told : Program → β → Prop} {items : List α}
    (stable : ∀ r t value, r.Carries t → told r value → told t value)
    (each : ∀ item ∈ items, ∀ r, q.Carries r → Quietly r (f item) told) :
    Quietly q (items.mapM f) fun r values => ∀ value ∈ values, told r value := by
  induction items generalizing q with
  | nil => exact quietly_pure (by simp)
  | cons item rest ih =>
      rw [List.mapM_cons]
      refine quietly_bind (each item (List.mem_cons_self ..) q (Carries.refl q)) ?_
      intro first r carries known
      refine quietly_bind (ih fun later member t further =>
        each later (List.mem_cons_of_mem _ member) t (carries.trans further)) ?_
      intro others t further all
      apply quietly_pure
      intro value member
      rcases List.mem_cons.mp member with rfl | member
      · exact stable r t value further known
      · exact all value member

theorem quietly_forM {f : α → Build PUnit} {items : List α}
    (each : ∀ item ∈ items, ∀ r, Quietly r (f item) fun _ _ => True) :
    Quietly q (items.forM f) fun _ _ => True := by
  induction items generalizing q with
  | nil => exact quietly_pure trivial
  | cons item rest ih =>
      change Quietly q (f item >>= fun _ => rest.forM f) _
      refine quietly_bind (each item (List.mem_cons_self ..) q) ?_
      intro _ r _ _
      exact ih fun later member => each later (List.mem_cons_of_mem _ member)

theorem carrying_write (step : Build α) {value : α} {r : Program} (ran : step q = (.ok value, r))
    (carries : base.Carries r) : (carrying base).Keeps q step fun t made => t = r ∧ made = value :=
  Course.write ran carries trivial ⟨rfl, rfl⟩

theorem quietly_write (step : Build α) {value : α} {r : Program} (ran : step q = (.ok value, r))
    (carries : q.Carries r) : Quietly q step fun _ _ => True :=
  Course.write ran carries trivial trivial

theorem quietly_newSite (s : Site) :
    Quietly q (newSite s) fun r id => r = (q.addSite s).2 ∧ id = ⟨q.sites.size⟩ :=
  carrying_write (newSite s) rfl ((Carries.refl q).addSite s)

theorem quietly_newSymbol (s : Symbol) :
    Quietly q (newSymbol s) fun r id => r = (q.addSymbol s).2 ∧ id = ⟨q.symbols.size⟩ :=
  carrying_write (newSymbol s) rfl ((Carries.refl q).addSymbol s)

theorem quietly_newType {t : TypeInfo} (empty : t.properties.slots = []) :
    Quietly q (newType t) fun _ _ => True :=
  quietly_write (newType t) rfl ((Carries.refl q).addType empty)

theorem quietly_newSignature (s : Signature) : Quietly q (newSignature s) fun _ _ => True :=
  quietly_write (newSignature s) rfl ((Carries.refl q).aside rfl rfl rfl rfl)

theorem quietly_newIndexInfo (info : IndexInfo) : Quietly q (newIndexInfo info) fun _ _ => True :=
  quietly_write (newIndexInfo info) rfl ((Carries.refl q).aside rfl rfl rfl rfl)

theorem quietly_modify {f : Program → Program} (carries : q.Carries (f q)) :
    Quietly q (modify f : Build PUnit) fun _ _ => True :=
  quietly_write (modify f) rfl carries

theorem quietly_setSite (id : SiteId) {f : Site → Site} (same : ∀ s, (f s).symbol = s.symbol) :
    Quietly q (setSite id f) fun _ _ => True :=
  quietly_modify ((Carries.refl q).modifySite id fun _ => same)

theorem quietly_setSymbol (id : SymbolId) {f : Symbol → Symbol} (number : ∀ s, (f s).id = s.id)
    (same : ∀ s, (f s).target = s.target ∧ (f s).declarations = s.declarations) :
    Quietly q (setSymbol id f) fun _ _ => True :=
  quietly_modify ((Carries.refl q).modifySymbol id number fun _ => same)

theorem quietly_setType (id : TypeId) {f : TypeInfo → TypeInfo}
    (same : ∀ t, (f t).properties = t.properties) : Quietly q (setType id f) fun _ _ => True :=
  quietly_modify ((Carries.refl q).modifyType id same)

theorem quietly_bindSite (id : Option SiteId) (type : Option TypeId) :
    Quietly q (bindSite id type) fun _ _ => True :=
  quietly_modify ((Carries.refl q).siteAnswers _ id)

theorem quietly_bindSignature (id : Option SiteId) (signature : Option SignatureId) :
    Quietly q (bindSignature id signature) fun _ _ => True :=
  quietly_modify ((Carries.refl q).siteAnswers _ id)

theorem quietly_bindSymbol (id : Option SymbolId) (type : Option TypeId) :
    Quietly q (bindSymbol id type) fun _ _ => True :=
  quietly_modify ((Carries.refl q).symbolAnswers _ id)

theorem quietly_bindDeclared (id : Option SymbolId) (type : Option TypeId) :
    Quietly q (bindDeclared id type) fun _ _ => True :=
  quietly_modify ((Carries.refl q).symbolAnswers _ id)

theorem carrying_newPlace (carries : base.Carries q) (s : Site) :
    (carrying base).Keeps q (newSite s) fun r id =>
      base.sites.size ≤ id.index ∧ id.index < r.sites.size := by
  refine ((quietly_newSite s).onto carries).weaken ?_
  rintro _ _ - - ⟨-, rfl, rfl⟩
  refine ⟨carries.sites, ?_⟩
  simp [addSite]

theorem carrying_declaredAt {site : SiteId} {record : Symbol} {next : SymbolId → Build α}
    {told : Program → α → Prop} (carries : base.Carries q) (fresh : base.sites.size ≤ site.index)
    (there : site.index < q.sites.size) (untargeted : record.target = none)
    (declared : record.declarations = Slots.of [site])
    (rest : ∀ symbol r, base.Carries r → r.Rooted symbol symbol →
      (carrying base).Keeps r (next symbol) told) :
    (carrying base).Keeps q (do
      let symbol ← newSymbol record
      setSite site ({ · with symbol := some symbol })
      next symbol) told := by
  refine Course.bind ((quietly_newSymbol record).onto carries) ?_
  rintro _ _ carries - ⟨-, rfl, rfl⟩
  have moved : base.Carries ((q.addSymbol record).2.modifySite site
      ({ · with symbol := some ⟨q.symbols.size⟩ })) :=
    carries.modifySite site fun inside => absurd inside (Nat.not_lt_of_le fresh)
  refine Course.bind (carrying_write (setSite site _) rfl moved) ?_
  rintro _ _ carries - ⟨rfl, rfl⟩
  refine rest ⟨q.symbols.size⟩ _ carries ?_
  have made : ((q.addSymbol record).2.modifySite site
      ({ · with symbol := some ⟨q.symbols.size⟩ })).symbol ⟨q.symbols.size⟩ =
        { record with id := q.lastId + 1 } :=
    q.addSymbol_made record
  have first : ((q.addSymbol record).2.modifySite site
      ({ · with symbol := some ⟨q.symbols.size⟩ })).firstDeclaration (some ⟨q.symbols.size⟩) =
        some site := by
    rw [firstDeclaration, Option.bind_some, made]
    change record.declarations.first? = some site
    rw [declared]
    rfl
  refine .declared ?_ first ?_
  · rw [made]
    exact untargeted
  · rw [site_modifySite, if_pos ⟨rfl, there⟩]

def tracing : Course := keeping Traced

theorem Quietly.traces {step : Build α} {told : Program → α → Prop} (quiet : Quietly q step told)
    (traced : q.Traced) : tracing.Keeps q step fun r value => q.Carries r ∧ told r value :=
  quiet.keeps fun _ => traced.later

theorem traced_bind (traced : q.Traced) {step : Build α} {next : α → Build β}
    {told : Program → α → Prop} {more : Program → β → Prop} (quiet : Quietly q step told)
    (rest : ∀ value r, r.Traced → q.Carries r → told r value → tracing.Keeps r (next value) more) :
    tracing.Keeps q (step >>= next) more := by
  refine Course.bind (quiet.traces traced) ?_
  intro value r traced _ known
  exact rest value r traced known.1 known.2

theorem traced_newType (traced : q.Traced) {t : TypeInfo}
    (stemmed : ∀ slot ∈ t.properties.slots, q.Stemmed slot) :
    tracing.Keeps q (newType t) fun _ _ => True :=
  Course.write rfl (traced.addType stemmed) trivial trivial

theorem traced_setType (traced : q.Traced) (id : TypeId) {f : TypeInfo → TypeInfo}
    (stemmed : ∀ slot ∈ (f (q.type id)).properties.slots, q.Stemmed slot) :
    tracing.Keeps q (setType id f) fun _ _ => True :=
  Course.write rfl (traced.modifyType id stemmed) trivial trivial

end Build

end TypeAtlas
