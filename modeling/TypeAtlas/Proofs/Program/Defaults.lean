import TypeAtlas.Proofs.Builder.ParametricCall

/-!
What something generic is applied to, and how that is completed: where arguments are left out at the end,
the defaults of their type parameters stand for them, up to the first parameter without one.
-/

namespace TypeAtlas

open Build

namespace Program

variable {p q : Program}

/-- A type parameter and the place at which it is declared. -/
def IsParameter (p : Program) (param : Option TypeId) (slot : Option SiteId) : Prop :=
  ∃ type site, param = some type ∧ slot = some site ∧ (p.site site).kind = .typeParameter ∧
    p.typeAt (some site) = .ok (some type)

/-- So many of the arguments are enough for the others to be completed with defaults. -/
def Completes (p : Program) (params full : List (Option TypeId)) (k : Nat) : Prop :=
  withDefaults params (full.take k) p = (.ok full, p)

def DefaultAt (p : Program) (slot : Option SiteId) (argument : Option TypeId) : Prop :=
  ∃ site written, slot = some site ∧ (p.site site).default = some written ∧
    p.typeAt (some written) = .ok argument

def Numbered (p : Program) (argument : Option TypeId) (id : Int) : Prop :=
  ∃ type, argument = some type ∧ (p.type type).id = id

theorem IsParameter.declares (parametric : p.Parametric) {param : Option TypeId} {slot : Option SiteId}
    (is : p.IsParameter param slot) : p.Declares? param slot := by
  obtain ⟨type, site, rfl, rfl, kind, found⟩ := is
  exact ⟨type, site, rfl, rfl, (parametric.sites site).parameter kind type (answer_of_typeAt found)⟩

theorem DefaultAt.unique {slot : Option SiteId} {argument other : Option TypeId}
    (held : p.DefaultAt slot argument) (again : p.DefaultAt slot other) : argument = other := by
  obtain ⟨site, written, rfl, default, stands⟩ := held
  obtain ⟨_, _, ⟨⟩, same, found⟩ := again
  rw [default, Option.some.injEq] at same
  subst same
  rw [stands] at found
  exact Except.ok.inj found

theorem FirstAt.unique {type : TypeId} {site other : SiteId} (declared : p.FirstAt type site)
    (again : p.FirstAt type other) : site = other := by
  obtain ⟨symbol, rest, held, first⟩ := declared
  obtain ⟨named, others, same, second⟩ := again
  rw [held, Option.some.injEq] at same
  rw [same, second] at first
  exact (by simpa using first.symm : site = other ∧ rest = others).1

theorem declarationOf_eq {type : TypeId} {site : SiteId} (declared : p.FirstAt type site) :
    declarationOf (some type) p = (.ok (some site), p) := by
  obtain ⟨symbol, rest, held, first⟩ := declared
  have asked : (present (p.type type).symbol >>= fun symbol => (p.symbol symbol).declarations.first) =
      .ok (some site) := by
    rw [held]
    change (p.symbol symbol).declarations.first = _
    rw [first]
    rfl
  unfold declarationOf ask
  rw [bind_ok (get_apply p)]
  exact congrArg (·, p) asked

section Filling

variable {type : TypeId} {site : SiteId} (declared : p.FirstAt type site)
include declared

theorem fillDefaults_unwritten (unwritten : (p.site site).default = none)
    (others : List (Option TypeId)) : fillDefaults (some type :: others) p = (.ok [], p) := by
  rw [fillDefaults, bind_ok (declarationOf_eq declared), bind_ok (lift_apply (present (some site)) p)]
  rw [bind_ok (get_apply p)]
  simp only [unwritten]
  rfl

theorem fillDefaults_written {written : SiteId} (held : (p.site site).default = some written)
    (others : List (Option TypeId)) :
    fillDefaults (some type :: others) p = (do
      let fallback ← ask (·.typeAt written)
      let filled ← fillDefaults others
      pure (fallback :: filled) : Build _) p := by
  rw [fillDefaults, bind_ok (declarationOf_eq declared), bind_ok (lift_apply (present (some site)) p)]
  rw [bind_ok (get_apply p)]
  simp only [held]

/-- Where the parameter has a default, that comes before what the others are filled with. -/
theorem fillDefaults_cons {fallback : Option TypeId} (stands : p.DefaultAt (some site) fallback)
    {others filled : List (Option TypeId)} (rest : fillDefaults others p = (.ok filled, p)) :
    fillDefaults (some type :: others) p = (.ok (fallback :: filled), p) := by
  obtain ⟨_, written, ⟨⟩, held, stands⟩ := stands
  have asked : ask (·.typeAt (some written)) p = (.ok fallback, p) := by
    unfold ask
    rw [bind_ok (get_apply p)]
    exact congrArg (·, p) stands
  rw [fillDefaults_written declared held, bind_ok asked, bind_ok rest]
  rfl

theorem of_fillDefaults_cons {others filled : List (Option TypeId)} {first : Option TypeId}
    (ran : fillDefaults (some type :: others) p = (.ok (first :: filled), q)) :
    p.DefaultAt (some site) first ∧ fillDefaults others p = (.ok filled, q) := by
  cases held : (p.site site).default with
  | none =>
      rw [fillDefaults_unwritten declared held] at ran
      cases ran
  | some written =>
      rw [fillDefaults_written declared held] at ran
      obtain ⟨fallback, between, asked, ran⟩ := of_bind_ok ran
      obtain ⟨rest, last, others, ran⟩ := of_bind_ok ran
      cases ran
      unfold ask at asked
      rw [bind_ok (get_apply p), lift_apply, Prod.mk.injEq] at asked
      obtain ⟨stands, rfl⟩ := asked
      exact ⟨⟨site, written, rfl, held, stands⟩, others⟩

end Filling

section Listed

variable {params full : List (Option TypeId)} {slots : List (Option SiteId)}
  (listed : List.Forall₂ p.Declares? params slots)
include listed

theorem defaults_of_fillDefaults {filled : List (Option TypeId)}
    (ran : fillDefaults params p = (.ok filled, q)) (all : filled.length = params.length) :
    List.Forall₂ p.DefaultAt slots filled := by
  induction listed generalizing filled with
  | nil =>
      cases ran
      exact .nil
  | @cons param slot params slots declares rest ih =>
      obtain ⟨type, site, rfl, rfl, declared⟩ := declares
      cases filled with
      | nil => cases all
      | cons first filled =>
          obtain ⟨default, ran⟩ := of_fillDefaults_cons declared ran
          exact .cons default (ih ran (Nat.succ.inj all))

theorem fillDefaults_of_defaults {filled : List (Option TypeId)}
    (defaults : List.Forall₂ p.DefaultAt slots filled) : fillDefaults params p = (.ok filled, p) := by
  induction listed generalizing filled with
  | nil =>
      cases defaults
      rfl
  | @cons param slot params slots declares rest ih =>
      obtain ⟨type, site, rfl, rfl, declared⟩ := declares
      obtain _ | ⟨default, defaults⟩ := defaults
      exact fillDefaults_cons declared default (ih defaults)

theorem completes_iff (all : full.length = params.length) {k : Nat} (le : k ≤ full.length) :
    p.Completes params full k ↔ List.Forall₂ p.DefaultAt (slots.drop k) (full.drop k) := by
  have taken : (full.take k).length = k := by rw [List.length_take, Nat.min_eq_left le]
  have further := List.forall₂_drop k listed
  unfold Completes withDefaults
  rw [taken]
  constructor
  · intro ran
    obtain ⟨filled, between, ran, wrote⟩ := of_bind_ok ran
    rw [pure_apply, Prod.mk.injEq, Except.ok.injEq] at wrote
    obtain rfl : filled = full.drop k :=
      List.append_cancel_left (wrote.1.trans (List.take_append_drop k full).symm)
    exact defaults_of_fillDefaults further ran (by rw [List.length_drop, List.length_drop, all])
  · intro defaults
    rw [bind_ok (fillDefaults_of_defaults further defaults), pure_apply, List.take_append_drop]

/-- An argument for a parameter without a default cannot be left out. -/
theorem lt_of_completes (all : full.length = params.length) {i k : Nat} {site : SiteId}
    (held : slots[i]? = some (some site)) (bare : (p.site site).default = none)
    (completes : p.Completes params full k) : i < k := by
  obtain ⟨below, held⟩ := List.getElem?_eq_some_iff.mp held
  have lengths := listed.length_eq
  have given : i < full.length := by omega
  by_contra later
  have defaults := (completes_iff listed all (by omega)).mp completes
  have rest := List.forall₂_drop (i - k) defaults
  rw [List.drop_drop, List.drop_drop, Nat.add_sub_cancel' (Nat.le_of_not_lt later),
    List.drop_eq_getElem_cons below, List.drop_eq_getElem_cons given, held] at rest
  obtain ⟨⟨_, written, ⟨⟩, default, -⟩, -⟩ := List.forall₂_cons.mp rest
  rw [bare] at default
  cases default

end Listed

theorem firstDeclaration_of_firstAt {type : TypeId} {site : SiteId} (declared : p.FirstAt type site) :
    p.firstDeclaration (p.type type).symbol = some site := by
  obtain ⟨symbol, rest, held, first⟩ := declared
  rw [held, firstDeclaration, Option.bind_some, first]
  rfl

theorem parameters_of_declares (parametric : p.Parametric) {params : List (Option TypeId)}
    {slots : List (Option SiteId)} (listed : List.Forall₂ p.Declares? params slots)
    (are : ∀ param ∈ params, ∃ slot, p.IsParameter param slot) :
    List.Forall₂ p.IsParameter params slots := by
  induction listed with
  | nil => exact .nil
  | cons declares rest ih =>
      refine .cons ?_ (ih fun param held => are param (List.mem_cons_of_mem _ held))
      obtain ⟨slot, is⟩ := are _ (List.mem_cons_self ..)
      obtain ⟨type, site, rfl, rfl, declared⟩ := declares
      obtain ⟨_, other, ⟨⟩, rfl, again⟩ := is.declares parametric
      rwa [declared.unique again]

end Program

/-- What can be applied to arguments: an interface or a class, by its type, or an alias, by its symbol. -/
inductive Applicable where
  | declared (type : TypeId)
  | aliased (symbol : SymbolId)
deriving DecidableEq, Repr

namespace Program

def symbolOf? (p : Program) : Applicable → Option SymbolId
  | .declared type => (p.type type).symbol
  | .aliased symbol => some symbol

/-- It is declared with the type parameters. -/
inductive Takes (p : Program) (params : List (Option TypeId)) : Applicable → Prop
  | declared {type : TypeId} {site : SiteId} (kind : (p.site site).kind.isNominal = true)
      (stands : p.typeAt (some site) = .ok (some type))
      (held : (p.type type).typeParameters.slots = params)
      (are : ∀ param ∈ params, ∃ slot, p.IsParameter param slot) : p.Takes params (.declared type)
  | aliased {symbol : SymbolId} {site : SiteId} (first : p.firstDeclaration (some symbol) = some site)
      (are : List.Forall₂ p.IsParameter params (p.site site).typeParameters.slots) :
      p.Takes params (.aliased symbol)

/-- A type is made from it with the arguments. -/
inductive Applied (p : Program) (full : List (Option TypeId)) (type : TypeId) : Applicable → Prop
  | declared {generic : TypeId} (reference : (p.type type).isReference = true)
      (target : (p.type type).target = some generic)
      (symbol : (p.type type).symbol = (p.type generic).symbol)
      (arguments : (p.type type).arguments = some full) : p.Applied full type (.declared generic)
  | aliased {symbol : SymbolId} (plain : (p.type type).keyofOperand? = none)
      (known : (p.type type).alias? = some symbol)
      (arguments : (p.type type).aliasArguments = some full) : p.Applied full type (.aliased symbol)

variable {p : Program}

theorem Takes.listed (parametric : p.Parametric) {params : List (Option TypeId)} {generic : Applicable}
    (takes : p.Takes params generic) : ∃ site, p.firstDeclaration (p.symbolOf? generic) = some site ∧
      List.Forall₂ p.IsParameter params (p.site site).typeParameters.slots := by
  cases takes with
  | @declared type site kind stands held are =>
      obtain ⟨declared, listed⟩ := (parametric.sites site).listed kind type (answer_of_typeAt stands)
      rw [held] at listed
      exact ⟨site, firstDeclaration_of_firstAt declared, parameters_of_declares parametric listed are⟩
  | @aliased symbol site first are => exact ⟨site, first, are⟩

theorem Takes.slots {params : List (Option TypeId)} {type : TypeId}
    (takes : p.Takes params (.declared type)) : (p.type type).typeParameters.slots = params := by
  obtain ⟨-, -, held, -⟩ := takes
  exact held

theorem Takes.nominal (parametric : p.Parametric) {manner : Manner} {ages : Ages} {now : Nat}
    (fits : p.Fits manner ages now) {params : List (Option TypeId)} {type : TypeId}
    (takes : p.Takes params (.declared type)) :
    ∃ symbol, (p.type type).symbol = some symbol ∧ (p.symbol symbol).isNominal = true := by
  obtain @⟨_, site, kind, stands, -, -⟩ := takes
  obtain ⟨⟨symbol, rest, held, first⟩, -⟩ :=
    (parametric.sites site).listed kind type (answer_of_typeAt stands)
  refine ⟨symbol, held, ?_⟩
  have stands := ((fits.symbols symbol).first site (by rw [first]; rfl)).2
  rw [Symbol.isNominal, Symbol.hasFlag, Symbol.hasFlag]
  cases head : (p.site site).kind <;> rw [head] at kind stands <;> first | exact stands | cases kind

end Program

end TypeAtlas
