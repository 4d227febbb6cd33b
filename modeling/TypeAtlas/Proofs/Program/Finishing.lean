import TypeAtlas.Proofs.Program.Retained

/-!
The course of building that leaves no question open: a call may begin a symbol or a place, and finishes
what it has begun. Each write keeps to it that tells something and takes nothing back.
-/

namespace TypeAtlas

open Build

/-- What is built has no gaps. Only what comes of steps that succeed is of interest. -/
def filling : Course where
  holds := Program.Whole
  grows := Program.Retains
  stopped _ := True
  refl := Program.Retains.refl
  trans := Program.Retains.trans
  stop _ := trivial

def finishing : Course where
  holds := Program.Whole
  grows p q := p.Retains q ∧ p.Finishes q
  stopped _ := True
  refl p := ⟨Program.Retains.refl p, fun _ => id⟩
  trans first second := ⟨first.1.trans second.1, fun item done => second.2 item (first.2 item done)⟩
  stop _ := trivial

namespace Course

variable {α β : Type} {p : Program}

/-- A step that finishes whatever it begins keeps to the stricter course. -/
theorem close {step : Build α} {told : Program → α → Prop}
    (keeps : filling.Keeps p step fun q value => told q value ∧ p.Finishes q) :
    finishing.Keeps p step told := by
  refine ⟨fun _ _ _ => trivial, ?_⟩
  intro value after ran
  obtain ⟨whole, retains, known, finishes⟩ := keeps.result value after ran
  exact ⟨whole, ⟨retains, finishes⟩, known⟩

theorem Keeps.relax {step : Build α} {told : Program → α → Prop} (keeps : finishing.Keeps p step told) :
    filling.Keeps p step fun q value => told q value ∧ p.Finishes q := by
  refine ⟨fun _ _ _ => trivial, ?_⟩
  intro value after ran
  obtain ⟨whole, ⟨retains, finishes⟩, known⟩ := keeps.result value after ran
  exact ⟨whole, retains, known, finishes⟩

theorem begin (item : α → Program.Begun) {step : Build α} {next : α → Build β}
    {told : Program → α → Prop} {more : Program → β → Prop}
    (first : filling.Keeps p step fun q value => told q value ∧ p.Begins q (item value))
    (rest : ∀ value q, q.Whole → p.Retains q → told q value →
      finishing.Keeps q (next value) fun r result => more r result ∧ r.Done (item value)) :
    finishing.Keeps p (step >>= next) more := by
  refine ⟨fun _ _ _ => trivial, ?_⟩
  intro result final ran
  obtain ⟨value, after, begun, ran⟩ := of_bind_ok ran
  obtain ⟨whole, retains, known, begins⟩ := first.result value after begun
  obtain ⟨last, ⟨further, finishes⟩, ended, done⟩ :=
    (rest value after whole retains known).result result final ran
  refine ⟨last, ⟨retains.trans further, ?_⟩, ended⟩
  intro other was
  by_cases same : other = item value
  · rw [same]
    exact done
  · exact finishes other (begins other same was)

end Course

namespace Program

section Writes

variable (q : Program)

theorem retains_addSite (s : Site) : q.Retains (q.addSite s).2 := by
  refine ⟨by simp [addSite], Nat.le_refl _, Nat.le_refl _, fun id inside => ?_,
    fun _ _ => Symbol.Retains.refl _, fun _ _ => rfl, fun _ held => held⟩
  rw [site_addSite, if_neg (Nat.ne_of_lt inside)]
  exact Site.Retains.refl _

theorem retains_addSymbol (s : Symbol) : q.Retains (q.addSymbol s).2 := by
  have old (id : SymbolId) (inside : id.index < q.symbols.size) :
      (q.addSymbol s).2.symbol id = q.symbol id := by
    rw [symbol_addSymbol, if_neg (Nat.ne_of_lt inside)]
  refine ⟨Nat.le_refl _, by simp [addSymbol, addNumberedSymbol], Nat.le_refl _,
    fun _ _ => Site.Retains.refl _, fun id inside => ?_, fun _ _ => rfl, ?_⟩
  · rw [old id inside]
    exact Symbol.Retains.refl _
  · rintro type ⟨called, symbol, held, flagged⟩
    refine ⟨called, symbol, held, ?_⟩
    rw [old symbol (inside_of_flag flagged), flagged]

theorem retains_addType (t : TypeInfo) : q.Retains (q.addType t).2 := by
  have old (id : TypeId) (inside : id.index < q.types.size) : (q.addType t).2.type id = q.type id := by
    rw [type_addType, if_neg (Nat.ne_of_lt inside)]
  refine ⟨Nat.le_refl _, Nat.le_refl _, by simp [addType, addNumberedType],
    fun _ _ => Site.Retains.refl _, fun _ _ => Symbol.Retains.refl _,
    fun id inside => by rw [old id inside], ?_⟩
  rintro type ⟨called, symbol, held, flagged⟩
  have inside := type_inside (fun t => t.symbol = some symbol) held nofun
  rw [← old type inside] at called held
  exact ⟨called, symbol, held, flagged⟩

variable {q}

theorem retains_modifySite {id : SiteId} {f : Site → Site}
    (retains : (q.site id).Retains (f (q.site id))) : q.Retains (q.modifySite id f) := by
  refine ⟨by simp [modifySite], Nat.le_refl _, Nat.le_refl _, fun other _ => ?_,
    fun _ _ => Symbol.Retains.refl _, fun _ _ => rfl, fun _ held => held⟩
  rw [site_modifySite]
  split
  · rename_i here
    rw [here.1]
    exact retains
  · exact Site.Retains.refl _

theorem retains_modifySymbol {id : SymbolId} {f : Symbol → Symbol}
    (retains : (q.symbol id).Retains (f (q.symbol id))) : q.Retains (q.modifySymbol id f) := by
  have each (other : SymbolId) : (q.symbol other).Retains ((q.modifySymbol id f).symbol other) := by
    rw [symbol_modifySymbol]
    split
    · rename_i here
      rw [here.1]
      exact retains
    · exact Symbol.Retains.refl _
  refine ⟨Nat.le_refl _, by simp [modifySymbol], Nat.le_refl _, fun _ _ => Site.Retains.refl _,
    fun other _ => each other, fun _ _ => rfl, ?_⟩
  rintro type ⟨called, symbol, held, flagged⟩
  exact ⟨called, symbol, held, ((each symbol).hasFlag _).trans flagged⟩

theorem retains_modifyType {id : TypeId} {f : TypeInfo → TypeInfo}
    (symbol : (f (q.type id)).symbol = (q.type id).symbol)
    (calls : (f (q.type id)).callSignatures = (q.type id).callSignatures ∨ ¬ q.Callable id) :
    q.Retains (q.modifyType id f) := by
  refine ⟨Nat.le_refl _, Nat.le_refl _, by simp [modifyType], fun _ _ => Site.Retains.refl _,
    fun _ _ => Symbol.Retains.refl _, fun other _ => ?_, ?_⟩
  · rw [type_modifyType]
    split
    · rename_i here
      rw [here.1, symbol]
    · rfl
  · rintro type ⟨called, named, held, flagged⟩
    rw [Callable, type_modifyType]
    split
    · rename_i here
      obtain ⟨rfl, -⟩ := here
      rcases calls with same | other
      · rw [same, symbol]
        exact ⟨called, named, held, flagged⟩
      · exact absurd ⟨called, named, held, flagged⟩ other
    · exact ⟨called, named, held, flagged⟩

theorem retains_aside {r : Program} (sites : r.sites = q.sites) (symbols : r.symbols = q.symbols)
    (types : r.types = q.types) : q.Retains r := by
  have site (id : SiteId) : r.site id = q.site id := by rw [Program.site, sites, Program.site]
  have symbol (id : SymbolId) : r.symbol id = q.symbol id := by
    rw [Program.symbol, symbols, Program.symbol]
  have type (id : TypeId) : r.type id = q.type id := by rw [Program.type, types, Program.type]
  refine ⟨Nat.le_of_eq (by rw [sites]), Nat.le_of_eq (by rw [symbols]), Nat.le_of_eq (by rw [types]),
    fun id _ => by rw [site]; exact Site.Retains.refl _,
    fun id _ => by rw [symbol]; exact Symbol.Retains.refl _, fun id _ => by rw [type], ?_⟩
  rintro id ⟨called, named, held, flagged⟩
  exact ⟨by rw [type]; exact called, named, by rw [type]; exact held, by rw [symbol]; exact flagged⟩

/-- Nothing new is begun where no record is added. -/
theorem finishes_of_sizes {r : Program} (retains : q.Retains r) (symbols : r.symbols.size = q.symbols.size)
    (sites : r.sites.size = q.sites.size) : q.Finishes r :=
  finishes_of_new retains (fun _ outside => done_of_symbol_outside (symbols ▸ outside))
    fun _ outside => done_of_site_outside (sites ▸ outside)

end Writes

namespace Whole

variable {q : Program} (whole : q.Whole)
include whole

theorem addSite {s : Site} (new : SiteWhole q s) : (q.addSite s).2.Whole := by
  refine whole.extend (q.retains_addSite s) ?_ (fun _ => .inl rfl) (fun _ => .inl rfl)
    (fun _ inside => .inl ⟨inside, rfl⟩) (fun _ => .inl) rfl
  intro id
  rw [site_addSite]
  split
  · exact .inr (new.carry (q.retains_addSite s))
  · exact .inl rfl

theorem modifySite {id : SiteId} {f : Site → Site} (retains : (q.site id).Retains (f (q.site id)))
    (new : SiteWhole q (f (q.site id))) : (q.modifySite id f).Whole := by
  refine whole.extend (retains_modifySite retains) ?_ (fun _ => .inl rfl) (fun _ => .inl rfl)
    (fun _ inside => .inl ⟨inside, rfl⟩) (fun _ => .inl) rfl
  intro other
  rw [site_modifySite]
  split
  · rename_i here
    rw [here.1]
    exact .inr (new.carry (retains_modifySite retains))
  · exact .inl rfl

theorem addSymbol {s : Symbol} (new : SymbolWhole q s) : (q.addSymbol s).2.Whole := by
  have carried := new.carry (q.retains_addSymbol s)
  refine whole.extend (q.retains_addSymbol s) (fun _ => .inl rfl) ?_ (fun _ => .inl rfl)
    (fun _ inside => .inl ⟨inside, rfl⟩) (fun _ => .inl) rfl
  intro id
  rw [symbol_addSymbol]
  split
  · exact .inr { carried with }
  · exact .inl rfl

theorem modifySymbol {id : SymbolId} {f : Symbol → Symbol}
    (retains : (q.symbol id).Retains (f (q.symbol id))) (new : SymbolWhole q (f (q.symbol id))) :
    (q.modifySymbol id f).Whole := by
  refine whole.extend (retains_modifySymbol retains) (fun _ => .inl rfl) ?_ (fun _ => .inl rfl)
    (fun _ inside => .inl ⟨inside, rfl⟩) (fun _ => .inl) rfl
  intro other
  rw [symbol_modifySymbol]
  split
  · rename_i here
    rw [here.1]
    exact .inr (new.carry (retains_modifySymbol retains))
  · exact .inl rfl

theorem addType {t : TypeInfo} (new : TypeWhole q t) : (q.addType t).2.Whole := by
  have carried := new.carry (q.retains_addType t)
  refine whole.extend (q.retains_addType t) (fun _ => .inl rfl) (fun _ => .inl rfl) ?_
    (fun _ inside => .inl ⟨inside, rfl⟩) (fun _ => .inl) rfl
  intro id
  rw [type_addType]
  split
  · exact .inr { carried with }
  · exact .inl rfl

theorem modifyType {id : TypeId} {f : TypeInfo → TypeInfo} (retains : q.Retains (q.modifyType id f))
    (new : TypeWhole q (f (q.type id))) : (q.modifyType id f).Whole := by
  refine whole.extend retains (fun _ => .inl rfl) (fun _ => .inl rfl) ?_
    (fun _ inside => .inl ⟨inside, rfl⟩) (fun _ => .inl) rfl
  intro other
  rw [type_modifyType]
  split
  · rename_i here
    rw [here.1]
    exact .inr (new.carry retains)
  · exact .inl rfl

theorem aside {r : Program} (sites : r.sites = q.sites) (symbols : r.symbols = q.symbols)
    (types : r.types = q.types) (module : r.moduleSymbol = q.moduleSymbol)
    (signatures : ∀ id : SignatureId, id.index < r.signatures.size →
      id.index < q.signatures.size ∧ r.signature id = q.signature id ∨ SignatureWhole r (r.signature id))
    (inferred : ∀ type ∈ r.inferred, type ∈ q.inferred ∨ r.Generic type) : r.Whole := by
  exact whole.extend (retains_aside sites symbols types)
    (fun id => .inl (by rw [Program.site, sites, Program.site]))
    (fun id => .inl (by rw [Program.symbol, symbols, Program.symbol]))
    (fun id => .inl (by rw [Program.type, types, Program.type])) signatures inferred module

end Whole

end Program

namespace Build

open Program

variable {q : Program} (whole : q.Whole)
include whole

omit whole in
/-- A place of which no more is known than where it is and what it is called. -/
theorem siteWhole_fresh (kind : SiteKind) (name : Option String) (symbol : Option SymbolId)
    (parent : Option SiteId) (fileName : Option String)
    (named : kind.isExpression = true → ∀ id, symbol = some id → (q.symbol id).isNameable = true)
    (member : kind.isMember = true → symbol = none) :
    SiteWhole q { kind, name, symbol, parent, fileName } where
  typeParameters := Slots.full_of []
  parameter _ held := nomatch held
  parameters := Slots.full_of []
  modifiers := Slots.full_of []
  spread := nofun
  optional := nofun
  type := nofun
  constraint := nofun
  default := nofun
  heritage _ held := nomatch held
  answer := nofun
  signature := nofun
  inferred _ := nofun
  function _ := nofun
  initializer := nofun
  expression _ := nofun
  named := named
  member kind id held := by
    have none : symbol = none := member kind
    rw [show symbol = some id from held] at none
    cases none

theorem fills_newSite {s : Site} (new : SiteWhole q s) :
    filling.Keeps q (newSite s) fun r id => (r = (q.addSite s).2 ∧ id = ⟨q.sites.size⟩ ∧
      r.site id = s ∧ id.index < r.sites.size) ∧ q.Begins r (.site id) := by
  refine Course.write (modifyGet_apply _ q) (whole.addSite new) (q.retains_addSite s)
    ⟨⟨rfl, rfl, (site_addSite ..).trans (if_pos rfl), by simp [addSite]⟩, ?_⟩
  intro other different done
  cases other with
  | symbol id => exact done.carry (q.retains_addSite s) (Symbol.Retains.refl _)
  | site id =>
      rcases Nat.lt_or_ge id.index q.sites.size with inside | outside
      · exact done_site done (q.retains_addSite s) inside
      · refine done_of_site_outside ?_
        have apart : id.index ≠ q.sites.size := by
          intro same
          apply different
          cases id
          cases same
          rfl
        simp only [addSite, Array.size_push]
        omega

theorem finishes_newSite {s : Site} (new : SiteWhole q s) (plain : s.isExpression = false) :
    finishing.Keeps q (newSite s) fun r id => r = (q.addSite s).2 ∧ id = ⟨q.sites.size⟩ ∧
      r.site id = s ∧ id.index < r.sites.size := by
  apply Course.close
  refine (fills_newSite whole new).weaken ?_
  rintro r id - - ⟨told, begins⟩
  refine ⟨told, fun item done => ?_⟩
  by_cases same : item = .site id
  · rw [same]
    intro expression
    rw [told.2.2.1, plain] at expression
    cases expression
  · exact begins item same done

theorem finishes_setSite {id : SiteId} {f : Site → Site} (retains : ∀ s : Site, s.Retains (f s))
    (new : SiteWhole q (q.site id) → SiteWhole q (f (q.site id))) :
    finishing.Keeps q (setSite id f) fun r _ => r = q.modifySite id f :=
  Course.write (modify_apply _ q) (whole.modifySite (retains _) (new (whole.sites id)))
    ⟨retains_modifySite (retains _), finishes_of_sizes (retains_modifySite (retains _)) rfl
      (by simp [modifySite])⟩ rfl

/-- A place of a function is only told the type of a function. -/
theorem finishes_bindSite {id : SiteId} {type : TypeId}
    (suits : (q.site id).kind = .functionDeclaration → q.Callable type) :
    finishing.Keeps q (bindSite id type) fun r _ =>
      r.symbols = q.symbols ∧ (id.index < q.sites.size → r.Answered id) := by
  refine (finishes_setSite whole (f := fun s => { s with answers := { s.answers with type := some type } })
    (fun s => ⟨rfl, fun held => held, fun _ => rfl, fun held => held, fun held => held,
      fun held => held, fun _ => nofun, fun held => held⟩)
    fun site => { site with answer := nofun, function := ?_ }).weaken ?_
  · intro kind other held
    cases held
    exact suits kind
  · rintro _ _ - - rfl
    refine ⟨rfl, fun inside => ?_⟩
    rw [Answered, site_modifySite, if_pos ⟨rfl, inside⟩]
    nofun

theorem finishes_bindSignature {id : SiteId} (signature : SignatureId) :
    finishing.Keeps q (bindSignature id signature) fun r _ => id.index < q.sites.size → r.Signed id := by
  refine (finishes_setSite whole
    (f := fun s => { s with answers := { s.answers with signature := some signature } })
    (fun s => ⟨rfl, fun held => held, fun _ => rfl, fun held => held, fun held => held,
      fun held => held, fun held => held, fun _ => nofun⟩)
    fun site => { site with signature := nofun }).weaken ?_
  rintro _ _ - - rfl inside
  rw [Signed, site_modifySite, if_pos ⟨rfl, inside⟩]
  nofun

theorem fills_newSymbol {s : Symbol} (new : SymbolWhole q s) :
    filling.Keeps q (newSymbol s) fun r id =>
      (r.sites = q.sites ∧ id.index < r.symbols.size ∧
        r.symbol id = { s with id := q.lastId + 1 }) ∧ q.Begins r (.symbol id) := by
  refine Course.write (modifyGet_apply _ q) (whole.addSymbol new) (q.retains_addSymbol s)
    ⟨⟨rfl, by simp [addSymbol, addNumberedSymbol], (symbol_addSymbol ..).trans (if_pos rfl)⟩, ?_⟩
  intro other different done
  cases other with
  | site id => exact done
  | symbol id =>
      rcases Nat.lt_or_ge id.index q.symbols.size with inside | outside
      · exact done_symbol done (q.retains_addSymbol s) inside
      · refine done_of_symbol_outside ?_
        have apart : id.index ≠ q.symbols.size := by
          intro same
          apply different
          cases id
          cases same
          rfl
        simp only [addSymbol, addNumberedSymbol, Array.size_push]
        omega

theorem finishes_newSymbol {s : Symbol} (new : SymbolWhole q s) (done : SymbolDone q s) :
    finishing.Keeps q (newSymbol s) fun r id => r.sites = q.sites ∧ id.index < r.symbols.size ∧
      r.symbol id = { s with id := q.lastId + 1 } := by
  apply Course.close
  refine (fills_newSymbol whole new).weaken ?_
  rintro r id - retains ⟨told, begins⟩
  refine ⟨told, fun item was => ?_⟩
  by_cases same : item = .symbol id
  · rw [same, Done, told.2.2]
    exact SymbolDone.carry done retains ⟨rfl, fun _ => rfl, fun _ held => held, fun held => held⟩
  · exact begins item same was

theorem finishes_setSymbol {id : SymbolId} {f : Symbol → Symbol}
    (retains : (q.symbol id).Retains (f (q.symbol id)))
    (new : SymbolWhole q (q.symbol id) → SymbolWhole q (f (q.symbol id))) :
    finishing.Keeps q (setSymbol id f) fun r _ => r = q.modifySymbol id f :=
  Course.write (modify_apply _ q) (whole.modifySymbol retains (new (whole.symbols id)))
    ⟨retains_modifySymbol retains, finishes_of_sizes (retains_modifySymbol retains)
      (by simp [modifySymbol]) rfl⟩ rfl

theorem finishes_bindSymbol (id : SymbolId) (type : TypeId) :
    finishing.Keeps q (bindSymbol id type) fun _ _ => True :=
  (finishes_setSymbol whole (f := fun s => { s with answers := { s.answers with value := some type } })
    ⟨rfl, fun _ => rfl, fun _ held => held, fun held => held⟩
    fun symbol => { symbol with value := nofun }).weaken fun _ _ _ _ _ => trivial

theorem finishes_bindDeclared (id : SymbolId) (type : TypeId) :
    finishing.Keeps q (bindDeclared id type) fun r _ => r.sites = q.sites ∧
      (id.index < q.symbols.size → (r.symbol id).answers.declared ≠ none) := by
  refine (finishes_setSymbol whole
    (f := fun s => { s with answers := { s.answers with declared := some type } })
    ⟨rfl, fun _ => rfl, fun _ held => held, fun _ => nofun⟩
    fun symbol => { symbol with declared := nofun }).weaken ?_
  rintro _ _ - - rfl
  refine ⟨rfl, fun inside => ?_⟩
  rw [symbol_modifySymbol, if_pos ⟨rfl, inside⟩]
  nofun

theorem finishes_newType {t : TypeInfo} (new : TypeWhole q t) :
    finishing.Keeps q (newType t) fun r id => r = (q.addType t).2 ∧ id = ⟨q.types.size⟩ ∧
      r.type id = { t with id := q.lastId + 1 } :=
  Course.write (modifyGet_apply _ q) (whole.addType new)
    ⟨q.retains_addType t, finishes_of_sizes (q.retains_addType t) rfl rfl⟩
    ⟨rfl, rfl, (type_addType ..).trans (if_pos rfl)⟩

theorem finishes_setType {id : TypeId} {f : TypeInfo → TypeInfo}
    (symbol : (f (q.type id)).symbol = (q.type id).symbol)
    (calls : (f (q.type id)).callSignatures = (q.type id).callSignatures ∨ ¬ q.Callable id)
    (new : TypeWhole q (q.type id) → TypeWhole q (f (q.type id))) :
    finishing.Keeps q (setType id f) fun _ _ => True :=
  Course.write (modify_apply _ q)
    (whole.modifyType (retains_modifyType symbol calls) (new (whole.types id)))
    ⟨retains_modifyType symbol calls, finishes_of_sizes (retains_modifyType symbol calls) rfl rfl⟩
    trivial

theorem finishes_newSignature {g : Signature} (new : SignatureWhole q g) :
    finishing.Keeps q (newSignature g) fun _ _ => True := by
  have retains : q.Retains (q.addSignature g).2 := retains_aside rfl rfl rfl
  refine Course.write (modifyGet_apply _ q) (whole.aside rfl rfl rfl rfl ?_ fun _ => .inl)
    ⟨retains, finishes_of_sizes retains rfl rfl⟩ trivial
  intro id inside
  rw [signature_addSignature]
  split
  · exact .inr (new.carry retains)
  · rename_i other
    refine .inl ⟨?_, rfl⟩
    simp only [addSignature, Array.size_push] at inside
    omega

theorem finishes_newIndexInfo (info : IndexInfo) :
    finishing.Keeps q (newIndexInfo info) fun _ _ => True :=
  Course.write (modifyGet_apply _ q)
    (whole.aside rfl rfl rfl rfl (fun _ inside => .inl ⟨inside, rfl⟩) fun _ => .inl)
    ⟨retains_aside rfl rfl rfl, finishes_of_sizes (retains_aside rfl rfl rfl) rfl rfl⟩ trivial

theorem finishes_modify {f : Program → Program} (sites : (f q).sites = q.sites)
    (symbols : (f q).symbols = q.symbols) (types : (f q).types = q.types)
    (module : (f q).moduleSymbol = q.moduleSymbol) (signatures : (f q).signatures = q.signatures)
    (inferred : ∀ type ∈ (f q).inferred, type ∈ q.inferred ∨ q.Generic type) :
    finishing.Keeps q (modify f) fun r _ => r = f q := by
  have retains : q.Retains (f q) := retains_aside sites symbols types
  refine Course.write (modify_apply f q) (whole.aside sites symbols types module ?_ ?_)
    ⟨retains, finishes_of_sizes retains (by rw [symbols]) (by rw [sites])⟩ rfl
  · intro id inside
    rw [signatures] at inside
    exact .inl ⟨inside, by rw [Program.signature, signatures, Program.signature]⟩
  · intro type held
    exact (inferred type held).imp_right retains.generic

end Build

end TypeAtlas
