import Mathlib.Order.Bounds.Basic
import TypeAtlas.Proofs.Extract.Sparing
import TypeAtlas.Proofs.Extract.Positions
import TypeAtlas.Proofs.Extract.Scoping
import TypeAtlas.Proofs.Program.Defaults

/-!
Arguments of references. A reference to something generic leaves out at the end what can be completed
again: completing goes forwards over the parameters and trimming backwards over the arguments, and the one
undoes the other.
-/

namespace TypeAtlas

/-- What a reference carries of the nodes of the arguments it is given, where the entry it refers to
lists so many type parameters: as few as can be completed again, unless that entry lists too few. -/
structure Program.Trims (p : Program) (params full : List (Option TypeId)) (count : Option Nat)
    (nodes types : List Node) : Prop where
  complete : (∀ n, count = some n → full.length ≤ n) → full.length = params.length →
    ∃ k, IsLeast {k | p.Completes params full k} k ∧ types = nodes.take k
  short : (∀ n, count = some n → full.length ≤ n) → full.length < params.length → types = nodes
  bounded : ∀ n, count = some n → n < full.length → types = nodes.take n

namespace Engine

variable {e : Engine}

/-- Arguments that no parameter is left for stay as they are. -/
theorem trimDefaults_of_length_ne {ids : List Int} {slots : List (Option SiteId)}
    {types kept : List Node} (trimmed : e.trimDefaults ids slots types = .ok kept)
    (differs : types.length ≠ slots.length) : kept = types := by
  cases slots with
  | nil =>
      cases trimmed
      rfl
  | cons slot earlier =>
      rw [trimDefaults] at trimmed
      obtain ⟨default, -, trimmed⟩ := of_except_bind_ok trimmed
      split at trimmed
      · rw [if_neg fun same => differs same.2] at trimmed
        cases trimmed
        rfl
      · cases trimmed
        rfl

theorem of_defaultTypeId (parametric : e.program.Parametric) {param : Option TypeId}
    {slot : Option SiteId} (is : e.program.IsParameter param slot) {answer : Option Int}
    (asked : e.defaultTypeId slot = .ok answer) :
    (answer = none ∧ ∀ argument, ¬ e.program.DefaultAt slot argument) ∨
    ∃ type, e.program.DefaultAt slot (some type) ∧ answer = some (e.program.type type).id := by
  obtain ⟨_, site, -, rfl, kind, -⟩ := is
  have own : (e.program.firstDeclaration (e.program.site site).symbol).getD site = site := by
    cases held : (e.program.site site).symbol with
    | none => rfl
    | some symbol =>
        have declared := (parametric.sites site).owner kind symbol held
        simp only [Program.firstDeclaration, Option.bind_some, declared]
        rfl
  obtain ⟨place, ⟨⟩, asked⟩ := of_except_bind_ok asked
  simp only [own] at asked
  cases held : (e.program.site site).default with
  | none =>
      rw [held] at asked
      cases asked
      refine .inl ⟨rfl, ?_⟩
      rintro argument ⟨_, written, ⟨⟩, default, -⟩
      rw [held] at default
      cases default
  | some written =>
      rw [held] at asked
      obtain ⟨found, stands, asked⟩ := of_except_bind_ok asked
      obtain ⟨type, there, asked⟩ := of_except_bind_ok asked
      obtain rfl := of_present there
      cases asked
      exact .inr ⟨type, ⟨site, written, rfl, held, stands⟩, rfl⟩

section Loop

variable (parametric : e.program.Parametric)
  (inside : ∀ slot type, e.program.DefaultAt slot (some type) → type.index < e.program.types.size)
include parametric inside

/-- One step: the last argument is dropped just if it is the default of its parameter. -/
theorem of_trimDefaults_cons {param : Option TypeId} {slot : Option SiteId}
    (is : e.program.IsParameter param slot) {earlier : List (Option SiteId)} {ids : List Int}
    {type : TypeId} (number : ids[earlier.length]? = some (e.program.type type).id)
    {types kept : List Node} (last : types.length = earlier.length + 1)
    (trimmed : e.trimDefaults ids (slot :: earlier) types = .ok kept) :
    (e.program.DefaultAt slot (some type) ∧ e.trimDefaults ids earlier types.dropLast = .ok kept) ∨
      (¬ e.program.DefaultAt slot (some type) ∧ kept = types) := by
  rw [trimDefaults] at trimmed
  obtain ⟨answer, asked, trimmed⟩ := of_except_bind_ok trimmed
  rw [number] at trimmed
  obtain ⟨rfl, nothing⟩ | ⟨default, stands, rfl⟩ := of_defaultTypeId parametric is asked
  · cases trimmed
    exact .inr ⟨nothing _, rfl⟩
  · by_cases same : default = type
    · subst same
      simp only [last, and_self, if_true] at trimmed
      exact .inl ⟨stands, trimmed⟩
    · have apart : (e.program.type default).id ≠ (e.program.type type).id := fun equal =>
        same (parametric.distinct _ _ (inside _ _ stands) equal)
      simp only [apart, false_and, if_false] at trimmed
      cases trimmed
      exact .inr ⟨fun other => same (Option.some.inj (stands.unique other)), rfl⟩

variable {params full : List (Option TypeId)} {slots : List (Option SiteId)} {ids : List Int}
  {nodes : List Node} (are : List.Forall₂ e.program.IsParameter params slots)
  (numbered : List.Forall₂ e.program.Numbered full ids)
  (all : full.length = params.length) (shown : nodes.length = full.length)
include are numbered all shown

/-- From the last argument on, defaults are dropped up to the first that is none. -/
theorem least_of_trimDefaults {i : Nat} (le : i ≤ full.length)
    (rest : List.Forall₂ e.program.DefaultAt (slots.drop i) (full.drop i)) {kept : List Node}
    (trimmed : e.trimDefaults ids (slots.take i).reverse (nodes.take i) = .ok kept) :
    ∃ k ≤ i, List.Forall₂ e.program.DefaultAt (slots.drop k) (full.drop k) ∧
      (∀ j < k, ¬ List.Forall₂ e.program.DefaultAt (slots.drop j) (full.drop j)) ∧
      kept = nodes.take k := by
  induction i with
  | zero =>
      cases trimmed
      exact ⟨0, Nat.le_refl _, rest, nofun, rfl⟩
  | succ i ih =>
      have lengths := are.length_eq
      have counted := numbered.length_eq
      have below : i < slots.length := by omega
      have given : i < full.length := by omega
      have known : i < ids.length := by omega
      have is := (List.forall₂_iff_get.mp are).2 i (by omega) below
      obtain ⟨type, argument, number⟩ := (List.forall₂_iff_get.mp numbered).2 i given known
      rw [List.get_eq_getElem] at argument number is
      have earlier : (slots.take i).reverse.length = i := by
        rw [List.length_reverse, List.length_take]
        omega
      have last : (nodes.take (i + 1)).length = i + 1 := by
        rw [List.length_take]
        omega
      rw [List.take_succ_eq_append_getElem below, List.reverse_append, List.reverse_singleton,
        List.singleton_append] at trimmed
      obtain ⟨stands, trimmed⟩ | ⟨differs, stays⟩ := of_trimDefaults_cons parametric inside is
        (by rw [earlier, List.getElem?_eq_getElem known, number]) (by rw [earlier, last]) trimmed
      · have further : List.Forall₂ e.program.DefaultAt (slots.drop i) (full.drop i) := by
          rw [List.drop_eq_getElem_cons below, List.drop_eq_getElem_cons given, argument]
          exact .cons stands rest
        rw [List.dropLast_eq_take, last, Nat.add_sub_cancel, List.take_take,
          Nat.min_eq_left (Nat.le_succ i)] at trimmed
        obtain ⟨k, lower, defaults, least, stays⟩ := ih (Nat.le_of_lt given) further trimmed
        exact ⟨k, Nat.le_succ_of_le lower, defaults, least, stays⟩
      · refine ⟨i + 1, Nat.le_refl _, rest, fun j less defaults => differs ?_, stays⟩
        -- what can be left out from an earlier one on can be left out from this one on
        have later := List.forall₂_drop (i - j) defaults
        rw [List.drop_drop, List.drop_drop, Nat.add_sub_cancel' (Nat.le_of_lt_succ less),
          List.drop_eq_getElem_cons below, List.drop_eq_getElem_cons given, argument] at later
        exact (List.forall₂_cons.mp later).1

theorem completes_of_trimDefaults {kept : List Node}
    (trimmed : e.trimDefaults ids slots.reverse nodes = .ok kept) :
    ∃ k, IsLeast {k | e.program.Completes params full k} k ∧ kept = nodes.take k := by
  have lengths := are.length_eq
  have listed := are.imp fun param slot (is : e.program.IsParameter param slot) => is.declares parametric
  have rest : List.Forall₂ e.program.DefaultAt (slots.drop full.length) (full.drop full.length) := by
    rw [all, List.drop_eq_nil_of_le (Nat.le_of_eq lengths.symm), ← all, List.drop_length]
    exact .nil
  rw [← List.take_of_length_le (Nat.le_of_eq (lengths.symm.trans all.symm)),
    ← List.take_of_length_le (Nat.le_of_eq shown)] at trimmed
  obtain ⟨k, le, defaults, least, rfl⟩ :=
    least_of_trimDefaults parametric inside are numbered all shown (Nat.le_refl _) rest trimmed
  refine ⟨k, ⟨(Program.completes_iff listed all le).mpr defaults, fun j completes => ?_⟩, rfl⟩
  by_contra less
  have below : j < k := Nat.lt_of_not_le less
  exact least j below ((Program.completes_iff listed all (by omega)).mp completes)

end Loop

theorem numbered_of_argumentIds {type : TypeInfo} {ids : List Int}
    (asked : e.argumentIds type = .ok ids) :
    List.Forall₂ e.program.Numbered
      (if type.aliasArguments.isEmpty then type.arguments else type.aliasArguments).slots ids := by
  refine (forall₂_of_mapM_lift asked).imp fun argument id found => ?_
  obtain ⟨type, there, found⟩ := of_except_bind_ok found
  obtain rfl := of_present there
  cases found
  exact ⟨type, rfl, rfl⟩

theorem trims_of_normalizeArguments (parametric : e.program.Parametric)
    (inside : ∀ slot type, e.program.DefaultAt slot (some type) → type.index < e.program.types.size)
    {params full : List (Option TypeId)} {sites : Slots SiteId}
    (are : List.Forall₂ e.program.IsParameter params sites.slots) (fitting : full.length ≤ params.length)
    {type : TypeId} (given : full ≠ [] → (if (e.program.type type).aliasArguments.isEmpty then
      (e.program.type type).arguments else (e.program.type type).aliasArguments).slots = full)
    {nodes kept : List Node} (shown : nodes.length = full.length) {name : String} {w after : Walk}
    (ran : e.normalizeArguments type sites nodes name w = (.ok kept, after)) :
    after = w ∧
      e.program.Trims params full (w.registry.parameterCount? name) nodes kept := by
  obtain ⟨rfl, ids, bounded, asked, trimmed, rfl⟩ := of_normalizeArguments ran
  have lengths := are.length_eq
  -- an entry that lists enough leaves all arguments there
  have whole {count : Option Nat} (enough : ∀ n, count = some n → full.length ≤ n) :
      count.elim nodes nodes.take = nodes := by
    cases count with
    | none => rfl
    | some n => exact List.take_of_length_le (shown ▸ enough n rfl)
  refine ⟨rfl, fun enough all => ?_, fun enough fewer => ?_, fun n counted fewer => ?_⟩
  · rw [whole enough] at trimmed
    by_cases none : full = []
    · -- without arguments there is nothing to compare
      have empty : nodes = [] := by simpa [none] using shown
      have bare := prefix_of_trimDefaults _ _ trimmed
      rw [empty, List.prefix_nil] at bare
      subst none
      refine ⟨0, ⟨?_, fun j _ => Nat.zero_le j⟩, bare⟩
      rw [List.length_eq_zero_iff.mp all.symm]
      rfl
    · have numbered := numbered_of_argumentIds asked
      rw [given none] at numbered
      exact completes_of_trimDefaults parametric inside are numbered all shown trimmed
  · rw [whole enough] at trimmed
    exact trimDefaults_of_length_ne trimmed (by rw [List.length_reverse]; omega)
  · rw [counted] at trimmed
    refine trimDefaults_of_length_ne trimmed ?_
    rw [List.length_take, List.length_reverse]
    omega

open Extract

theorem length_of_visitAll {types : List (Option TypeId)} {nodes : List Node} {w after : Walk}
    (ran : e.visitAll types w = (.ok nodes, after)) : nodes.length = types.length :=
  (forall₂_of_mapM ran).length_eq.symm

/-- After what was there in one walk, a reference was made that carries the trimmed nodes of the
arguments. -/
def Refers (e : Engine) (params full : List (Option TypeId)) (w : Walk) (node : Node) (after : Walk) :
    Prop :=
  ∃ r nodes start, node = .ref r ∧ w.Grows start ∧ e.visitAll full start = (.ok nodes, after) ∧
    e.program.Trims params full (after.registry.parameterCount? r.name) nodes r.types

theorem Refers.earlier {params full : List (Option TypeId)} {w between after : Walk} {node : Node}
    (grows : w.Grows between) (refers : e.Refers params full between node after) :
    e.Refers params full w node after := by
  obtain ⟨r, nodes, start, same, further, rest⟩ := refers
  exact ⟨r, nodes, start, same, grows.trans further, rest⟩

section References

variable (ordered : e.Orderly) (parametric : e.program.Parametric)
  (inside : ∀ slot type, e.program.DefaultAt slot (some type) → type.index < e.program.types.size)
  {params full : List (Option TypeId)} (fitting : full.length ≤ params.length)
include ordered parametric inside fitting

theorem refers_of_includeRef {type : TypeId} {site : SiteId}
    (first : e.program.firstDeclaration (e.program.type type).symbol = some site)
    (are : List.Forall₂ e.program.IsParameter params (e.program.site site).typeParameters.slots)
    (given : (e.program.type type).arguments = some full)
    (unaliased : (e.program.type type).aliasArguments = none) {name : String} {live : Option TypeId}
    {w after : Walk} {node : Node} (known : w.registry.has name = true)
    (ran : e.includeRef type name live w = (.ok node, after)) : e.Refers params full w node after := by
  obtain ⟨nodes, between, wrote, ran⟩ := of_bind_ok ran
  obtain ⟨types, later, normal, ran⟩ := of_bind_ok ran
  obtain ⟨r, final, made, ran⟩ := of_bind_ok ran
  rw [resolve_apply, Prod.mk.injEq] at made
  obtain ⟨made, rfl⟩ := made
  cases made
  cases ran
  have wrote : e.visitAll full w = (.ok nodes, between) := by
    rw [typeArguments, given] at wrote
    exact wrote
  simp only [first] at normal
  obtain ⟨rfl, trims⟩ := trims_of_normalizeArguments parametric inside are fitting
    (fun _ => by rw [unaliased, given]; rfl) (length_of_visitAll wrote) normal
  have reserved : later.reserve name = later := by
    rw [Walk.reserve, Registry.reserve_of_has (((orderly_visitAll ordered _ w).result wrote).1.has known)]
  rw [reserved]
  exact ⟨_, nodes, w, rfl, Walk.Grows.refl w, wrote, trims⟩

theorem refers_of_makeAliasRef {type : TypeId} {symbol : SymbolId} {site : SiteId}
    (known : (e.program.type type).alias? = some symbol)
    (first : e.program.firstDeclaration (some symbol) = some site)
    (are : List.Forall₂ e.program.IsParameter params (e.program.site site).typeParameters.slots)
    (given : (e.program.type type).aliasArguments = some full) {name : String} {w after : Walk}
    {node : Node} (ran : e.makeAliasRef type name w = (.ok node, after)) :
    e.Refers params full w node after := by
  unfold makeAliasRef at ran
  simp only [known, first] at ran
  obtain ⟨found, asked, answered, ran⟩ := of_bind_ok ran
  have grows := ((orderly_externalName _ w).result answered).1
  have finish {name : String} {start : Walk} (ran : (do
      let types ← e.visitAll (e.program.type type).aliasArguments.slots
      let types ← e.normalizeArguments type (e.program.site site).typeParameters types name
      return Node.ref { name, types } : Extract Node) start = (.ok node, after)) :
      e.Refers params full start node after := by
    obtain ⟨nodes, between, wrote, ran⟩ := of_bind_ok ran
    obtain ⟨types, later, normal, ran⟩ := of_bind_ok ran
    cases ran
    rw [given] at wrote
    obtain ⟨rfl, trims⟩ := trims_of_normalizeArguments parametric inside are fitting
      (fun some => by
        have full_ : (e.program.type type).aliasArguments.isEmpty = false := by
          simpa [given, Slots.isEmpty, Slots.slots] using some
        rw [full_, given]
        rfl) (length_of_visitAll wrote) normal
    exact ⟨_, nodes, start, rfl, Walk.Grows.refl start, wrote, trims⟩
  cases found with
  | none =>
      obtain ⟨_, registered, first, ran⟩ := of_bind_ok ran
      obtain ⟨_, same, got, ran⟩ := of_bind_ok ran
      cases got
      have further := ((orderly_register name (ordered.bodyOfAlias site) asked).result first).1
      exact (finish ran).earlier (grows.trans further)
  | some bound =>
      obtain ⟨_, same, got, ran⟩ := of_bind_ok ran
      cases got
      exact (finish ran).earlier grows

end References

theorem includeRef_of_includeExternal {type : TypeId} {symbol : SymbolId}
    (held : (e.program.type type).symbol = some symbol)
    (usable : e.isAnonymous (e.program.symbol symbol).name = false)
    (object : (e.program.type type).isAnonymousObject = false) {found : Option Node} {w after : Walk}
    (ran : e.includeExternal type w = (.ok found, after)) : found = none ∨
      ∃ node name live start, found = some node ∧ w.Grows start ∧ start.registry.has name = true ∧
        e.includeRef type name live start = (.ok node, after) := by
  unfold includeExternal at ran
  cases origin : (e.originOf (some symbol)).scope? with
  | none =>
      simp only [held, origin] at ran
      cases ran
      exact .inl rfl
  | some scope =>
      simp only [held, origin, usable, object, Bool.and_false, Bool.false_eq_true, if_false] at ran
      obtain ⟨name, start, bound, ran⟩ := of_bind_ok ran
      rw [map_eq] at ran
      obtain ⟨node, _, made, ran⟩ := of_bind_ok ran
      cases ran
      exact .inr ⟨node, name, _, start, rfl, ((orderly_bindImport symbol origin w).result bound).1,
        has_of_bindImport bound, made⟩

theorem includeRef_of_includeType (ordered : e.Orderly) {type : TypeId} {symbol : SymbolId}
    (flags : (e.program.type type).flags = [.object])
    (object : (e.program.type type).isAnonymousObject = false)
    (unaliased : (e.program.type type).alias? = none)
    (held : (e.program.type type).symbol = some symbol)
    (usable : e.isAnonymous (e.program.symbol symbol).name = false) {w after : Walk} {node : Node}
    (ran : e.includeType type w = (.ok node, after)) :
    ∃ name live start, w.Grows start ∧ start.registry.has name = true ∧
      e.includeRef type name live start = (.ok node, after) := by
  have plain : (e.program.type type).keyofOperand? = none := by
    rw [TypeInfo.keyofOperand?, TypeInfo.hasFlag, flags]
    rfl
  have declared : (e.program.type type).isTypeParameter = false := by
    rw [TypeInfo.isTypeParameter, TypeInfo.hasFlag, flags]
    rfl
  have named : e.nameOf (e.program.type type) = some (e.program.symbol symbol).name := by
    unfold nameOf
    rw [unaliased, held]
    rfl
  unfold includeType at ran
  simp only [plain, named] at ran
  unfold includeKnown at ran
  simp only [declared, nonempty_of_usable usable, unaliased, Option.isSome_none, Bool.false_and,
    Bool.false_eq_true, if_false] at ran
  obtain ⟨found, between, asked, ran⟩ := of_bind_ok ran
  have grows := ((orderly_includeExternal ordered type w).result asked).1
  obtain rfl | ⟨other, name, live, start, rfl, further, known, made⟩ :=
    includeRef_of_includeExternal held usable object asked
  · simp only [usable, object, Bool.or_self, Bool.false_eq_true, if_false] at ran
    obtain ⟨_, registered, first, ran⟩ := of_bind_ok ran
    obtain ⟨id, start, got, ran⟩ := of_bind_ok ran
    cases got
    have body : Extract.Orderly (do
        let id ← present (some type)
        let info := e.program.type id
        e.bodyOfType (if info.isReference then info.target.getD id else id)) :=
      orderly_bind (orderly_lift _) fun id => ordered.bodyOfType _
    have more := ((orderly_register _ body between).result first).1
    exact ⟨_, _, registered, grows.trans more, has_of_register first, ran⟩
  · cases ran
    exact ⟨name, live, start, further, known, made⟩

section Dispatch

variable (ordered : e.Orderly) (parametric : e.program.Parametric)
  (inside : ∀ slot type, e.program.DefaultAt slot (some type) → type.index < e.program.types.size)
  {manner : Manner} {ages : Ages} {now : Nat} (fits : e.program.Fits manner ages now)
  {params full : List (Option TypeId)} {generic : Applicable} (takes : e.program.Takes params generic)
include parametric fits takes

include ordered inside in
theorem refers_of_includeType (fitting : full.length ≤ params.length) {type : TypeId}
    (applied : e.program.Applied full type generic)
    (usable : ∀ symbol, e.program.symbolOf? generic = some symbol →
      e.isAnonymous (e.program.symbol symbol).name = false) {w after : Walk} {node : Node}
    (ran : e.includeType type w = (.ok node, after)) : e.Refers params full w node after := by
  obtain ⟨site, first, are⟩ := takes.listed parametric
  have typed := fits.types type
  cases applied with
  | @declared generic reference target same arguments =>
      obtain ⟨symbol, held, nominal⟩ := takes.nominal parametric fits
      obtain ⟨-, flagged⟩ := Bool.and_eq_true_iff.mp reference
      obtain ⟨flags, kind⟩ := typed.declared symbol (same.trans held) nominal
      have objectFlags : (e.program.type type).objectFlags = [.reference] := by
        refine kind.resolve_left fun declared => ?_
        rw [(typed.nominal declared).2.1] at flagged
        cases flagged
      have object : (e.program.type type).isAnonymousObject = false := by
        rw [TypeInfo.isAnonymousObject, TypeInfo.hasObjectFlag, objectFlags]
        exact Bool.and_false _
      have unaliased := (parametric.types type).reference flagged
      obtain ⟨name, live, start, grows, known, made⟩ :=
        includeRef_of_includeType ordered flags object unaliased (same.trans held) (usable symbol held) ran
      exact (refers_of_includeRef ordered parametric inside fitting (same ▸ first) are arguments
        ((parametric.types type).arguments unaliased) known made).earlier grows
  | @aliased symbol plain known arguments =>
      have declared : (e.program.type type).isTypeParameter = false := by
        by_contra parameter
        rw [(typed.parameter (by simpa using parameter)).1] at known
        cases known
      have distinct : (e.program.type type).symbol ≠ some symbol := by
        intro held
        have flagged := (typed.aliased symbol known).1
        rw [(typed.symbol symbol held).2] at flagged
        cases flagged
      exact refers_of_makeAliasRef ordered parametric inside fitting known first are arguments
        (makeAliasRef_of_includeType plain declared known distinct (usable symbol rfl) ran)

end Dispatch

theorem described_of_includeTypeParameter {type : TypeId} {symbol : SymbolId}
    (held : (e.program.type type).symbol = some symbol)
    {described : Option (Node.TypeParameter Node)} {w after : Walk}
    (ran : e.includeTypeParameter type w = (.ok described, after)) : described.isSome = true := by
  unfold includeTypeParameter at ran
  simp only [held] at ran
  obtain ⟨parameter, _, -, ran⟩ := of_bind_ok ran
  obtain ⟨constraint, _, -, ran⟩ := of_bind_ok ran
  obtain ⟨default, _, -, ran⟩ := of_bind_ok ran
  cases ran
  rfl

section Entries

variable (parametric : e.program.Parametric) {params : List (Option TypeId)}
  {slots : List (Option SiteId)} (are : List.Forall₂ e.program.IsParameter params slots)
include parametric are

theorem length_of_includeTypeParameters (listed : Slots TypeId) (same : listed.slots = params)
    {types : List (Node.TypeParameter Node)} {w after : Walk}
    (ran : e.includeTypeParameters listed w = (.ok types, after)) : types.length = params.length := by
  unfold includeTypeParameters at ran
  rw [same] at ran
  obtain ⟨described, _, made, ran⟩ := of_bind_ok ran
  cases ran
  have made := forall₂_of_mapM made
  have all : ∀ item ∈ described, item.isSome = true := by
    intro item member
    obtain ⟨i, inside, rfl⟩ := List.mem_iff_getElem.mp member
    obtain ⟨_, _, ran⟩ := (List.forall₂_iff_get.mp made).2 i (made.length_eq ▸ inside) inside
    have is := (List.forall₂_iff_get.mp are).2 i (made.length_eq ▸ inside)
      (are.length_eq ▸ made.length_eq ▸ inside)
    obtain ⟨type, _, given, -, symbol, _, held, -⟩ := is.declares parametric
    rw [given] at ran
    exact described_of_includeTypeParameter held ran
  exact (List.filterMap_length_eq_length.mpr all).trans made.length_eq.symm

theorem length_of_declaredTypeParameters {site : SiteId}
    (listed : (e.program.site site).typeParameters.slots = slots)
    {types : List (Node.TypeParameter Node)} {w after : Walk}
    (ran : e.declaredTypeParameters site w = (.ok types, after)) : types.length = params.length := by
  obtain ⟨written, same, each, ran⟩ := of_bind_ok ran
  rw [lift_apply, Prod.mk.injEq] at each
  obtain ⟨each, rfl⟩ := each
  obtain ⟨found, later, asked, ran⟩ := of_bind_ok ran
  rw [Build.slots_of_each each] at listed
  subst listed
  rw [mapM_lift, lift_apply, Prod.mk.injEq] at asked
  -- what stands at the places are the parameters themselves
  have stands : List.Forall₂ (fun slot param => e.program.typeAt slot = .ok param) written params := by
    refine are.flip.imp fun slot param is => ?_
    obtain ⟨type, site, rfl, rfl, -, found⟩ := is
    exact found
  have same : found = params :=
    List.right_unique_forall₂' (fun _ _ _ first second => Except.ok.inj (first.symm.trans second))
      (forall₂_of_mapM_lift asked.1) stands
  exact length_of_includeTypeParameters parametric are (some found) same ran

end Entries

/-- The entry of an object type that is not mapped describes its type parameters. -/
theorem parameters_of_includeNamed {type : TypeId} (flags : (e.program.type type).flags = [.object])
    (unmapped : (e.program.type type).hasObjectFlag .mapped = false) {w after : Walk} {node : Node}
    (ran : e.includeNamed type w = (.ok node, after)) : ∃ shape implemented,
      (node = .interface shape ∨ node = .classShape shape implemented) ∧ ∃ before later,
        e.includeTypeParameters (e.program.type type).typeParameters before = (.ok shape.types, later) := by
  obtain ⟨-, made⟩ | ⟨-, heritage, between, shape, -, made, rfl⟩ := of_includeNamed_ok flags unmapped ran
  · obtain ⟨heritage, _, shape, _, _, _, _, _, -, shaped, -, -, -, rfl⟩ := of_includeClass_ok made
    obtain ⟨-, -, described⟩ := described_of_includeShape shaped
    exact ⟨_, _, .inr rfl, described⟩
  · obtain ⟨-, -, described⟩ := described_of_includeShape made
    exact ⟨shape, [], .inl rfl, described⟩

/-- The bodies that fill an entry of an interface, a class or an alias, as an engine makes them. -/
inductive Fills (p : Program) : Applicable → Extract Node → Prop
  | declared {e : Engine} (same : e.program = p) (type : TypeId) :
      Fills p (.declared type) (e.includeNamed type)
  | aliased {e : Engine} (same : e.program = p) {symbol : SymbolId} {site : SiteId}
      (first : p.firstDeclaration (some symbol) = some site) :
      Fills p (.aliased symbol) (e.aliasBody site)
  | exported {e : Engine} (same : e.program = p) {symbol : SymbolId} {site : SiteId}
      (first : p.firstDeclaration (some symbol) = some site) (written : SiteId) (name : String) :
      Fills p (.aliased symbol) (e.exportedAlias site written name)

section Fills

variable {p : Program} (parametric : p.Parametric) {manner : Manner} {ages : Ages} {now : Nat}
  (fits : p.Fits manner ages now) {params : List (Option TypeId)} {generic : Applicable}
  (takes : p.Takes params generic)
include parametric fits takes

theorem counts_of_fills {body : Extract Node} (fills : Fills p generic body) {w after : Walk} {node : Node}
    (ran : body w = (.ok node, after)) {r : Registry} {name : String} (filled : r.Filled name node) :
    r.parameterCount? name = some params.length := by
  rw [Registry.parameterCount?, filled.1, filled.2]
  cases fills with
  | @declared e same type =>
      subst same
      obtain ⟨site, -, are⟩ := takes.listed parametric
      obtain ⟨symbol, held, nominal⟩ := takes.nominal parametric fits
      obtain ⟨flags, kind⟩ := (fits.types type).declared symbol held nominal
      have unmapped : (e.program.type type).hasObjectFlag .mapped = false := by
        obtain declared | objectFlags := kind
        · exact ((fits.types type).nominal declared).2.2.2.1
        · rw [TypeInfo.hasObjectFlag, objectFlags]
          rfl
      obtain ⟨shape, rest, rfl | rfl, _, _, described⟩ := parameters_of_includeNamed flags unmapped ran
      · exact congrArg some (length_of_includeTypeParameters parametric are _ takes.slots described)
      · exact congrArg some (length_of_includeTypeParameters parametric are _ takes.slots described)
  | @aliased e same symbol site first =>
      subst same
      obtain ⟨place, again, are⟩ := takes.listed parametric
      obtain rfl : site = place := Option.some.inj (first.symm.trans again)
      obtain ⟨comment, _, -, ran⟩ := of_bind_ok ran
      obtain ⟨types, _, described, ran⟩ := of_bind_ok ran
      obtain ⟨type, _, -, ran⟩ := of_bind_ok ran
      obtain ⟨id, _, -, ran⟩ := of_bind_ok ran
      obtain ⟨child, _, -, ran⟩ := of_bind_ok ran
      cases ran
      exact congrArg some (length_of_declaredTypeParameters parametric are rfl described)
  | @exported e same symbol site first written name =>
      subst same
      obtain ⟨place, again, are⟩ := takes.listed parametric
      obtain rfl : site = place := Option.some.inj (first.symm.trans again)
      obtain ⟨_, _, -, ran⟩ := of_bind_ok ran
      obtain ⟨comment, _, -, ran⟩ := of_bind_ok ran
      obtain ⟨types, _, described, ran⟩ := of_bind_ok ran
      obtain ⟨child, _, -, ran⟩ := of_bind_ok ran
      cases ran
      exact congrArg some (length_of_declaredTypeParameters parametric are rfl described)

end Fills

/-- Nothing else has taken the name: there is no body yet, or an import, or an entry of its own. -/
inductive Finds (p : Program) (generic : Applicable) (r : Registry) (name : String) : Prop
  | unfilled (nothing : ∀ node, ¬ r.Filled name node)
  | imported {own : String} {home : Option String} {scope : ImportScope}
      (filled : r.Filled name (.imported own home scope))
  | made {body : Extract Node} (fills : Fills p generic body) {w after : Walk} {node : Node}
      (ran : body w = (.ok node, after)) (filled : r.Filled name node)

theorem Finds.counts {p : Program} (parametric : p.Parametric) {manner : Manner} {ages : Ages} {now : Nat}
    (fits : p.Fits manner ages now) {params : List (Option TypeId)} {generic : Applicable}
    (takes : p.Takes params generic) {r : Registry} {name : String} (finds : Finds p generic r name) :
    ∀ count, r.parameterCount? name = some count → count = params.length := by
  intro count counted
  cases finds with
  | unfilled nothing =>
      unfold Registry.parameterCount? at counted
      split at counted
      · cases counted
      · rename_i settled
        cases held : r.get? name with
        | none =>
            rw [held] at counted
            cases counted
        | some node => exact absurd ⟨held, Bool.eq_false_iff.mpr settled⟩ (nothing node)
  | imported filled =>
      rw [Registry.parameterCount?, filled.1, filled.2] at counted
      cases counted
  | made fills ran filled =>
      rw [counts_of_fills parametric fits takes fills ran filled, Option.some.injEq] at counted
      exact counted.symm

/-- A reference to something generic that was applied to arguments carries as few of them as can be
completed again with defaults, and all of them where they cannot be completed, unless something else has
taken its name and lists fewer type parameters. -/
theorem includeType_trims {allowed : Call → Program → Prop} {p : Program} (built : p.Built allowed)
    (settings : ExtractionSettings) (libraries : LibrarySettings) (depth entries levels : Nat)
    {params full : List (Option TypeId)} {generic : Applicable} (takes : p.Takes params generic)
    (fitting : full.length ≤ params.length) {type : TypeId} (applied : p.Applied full type generic)
    (usable : ∀ symbol, p.symbolOf? generic = some symbol →
      (inner p settings libraries depth entries levels).isAnonymous (p.symbol symbol).name = false)
    {w after : Walk} {node : Node}
    (ran : (inner p settings libraries depth entries levels).includeType type w = (.ok node, after)) :
    ∃ r nodes start, node = .ref r ∧ w.Grows start ∧
      (inner p settings libraries depth entries levels).visitAll full start = (.ok nodes, after) ∧
      p.Trims params full (after.registry.parameterCount? r.name) nodes r.types ∧
      (Finds p generic after.registry r.name →
        (full.length = params.length →
          ∃ k, IsLeast {k | p.Completes params full k} k ∧ r.types = nodes.take k) ∧
        (full.length < params.length → r.types = nodes)) := by
  have program : (inner p settings libraries depth entries levels).program = p := by
    rw [inner, program_within, program_withEntries]
  obtain ⟨ages, live⟩ := live_of_built ⟨False, False⟩ built fun _ _ _ => ⟨nofun, nofun⟩
  have parametric := parametric_of_built built
  have inside (slot : Option SiteId) (type : TypeId) (default : p.DefaultAt slot (some type)) :
      type.index < p.types.size := by
    obtain ⟨site, written, -, held, stands⟩ := default
    have isWritten := ((live.sites site).default written held).2
    exact Nat.lt_of_lt_of_le ((live.sites written).denotes isWritten type (Build.answer_of_typeAt stands))
      (live.site written)
  have fits : (inner p settings libraries depth entries levels).program.Fits ⟨False, False⟩ ages
      p.types.size := by
    rw [program]
    exact live.toFits
  obtain ⟨r, nodes, start, same, grows, visited, trims⟩ :=
    refers_of_includeType (orderly_inner p settings libraries depth entries levels)
      (by rwa [program]) (by rwa [program]) fits (by rwa [program]) fitting (by rwa [program])
      (by rwa [program]) ran
  rw [program] at trims
  refine ⟨r, nodes, start, same, grows, visited, trims, fun finds => ?_⟩
  have enough (count : Nat) (counted : after.registry.parameterCount? r.name = some count) :
      full.length ≤ count := by
    rw [finds.counts parametric live.toFits takes count counted]
    exact fitting
  exact ⟨trims.complete enough, trims.short enough⟩

/-- A pair whose second part is a text unless it is told otherwise, and a pair of a number. -/
def pairCalls : List Call :=
  [.typeParameter "T" none none,
   .typeParameter "U" none (some Program.stringType),
   .interface { header := { name := "Pair" }, typeParameters := [some ⟨15⟩, some ⟨16⟩] },
   .instantiate (some ⟨17⟩) [some Program.numberType]]

def pairProgram : Program := (Program.start "src/index.ts").takes pairCalls

def pairEngine : Engine := inner pairProgram {} {} 9 9 9

def pairRun : Except Fault Node × Walk := pairEngine.includeType ⟨18⟩ {}

theorem built_pair : pairProgram.Built fun _ _ => True := built_of_specs (by decide +kernel)

theorem takes_pair : pairProgram.Takes [some ⟨15⟩, some ⟨16⟩] (.declared ⟨17⟩) := by
  have first : pairProgram.IsParameter (some ⟨15⟩) (some ⟨1⟩) :=
    ⟨⟨15⟩, ⟨1⟩, rfl, rfl, by decide +kernel, (Program.asked_of_answer (by decide +kernel)).1⟩
  have second : pairProgram.IsParameter (some ⟨16⟩) (some ⟨2⟩) :=
    ⟨⟨16⟩, ⟨2⟩, rfl, rfl, by decide +kernel, (Program.asked_of_answer (by decide +kernel)).1⟩
  have nominal : (pairProgram.site ⟨4⟩).kind.isNominal = true := by decide +kernel
  refine .declared nominal (Program.asked_of_answer (by decide +kernel)).1 (by decide +kernel) ?_
  simp only [List.mem_cons, List.not_mem_nil, or_false]
  rintro param (rfl | rfl)
  · exact ⟨_, first⟩
  · exact ⟨_, second⟩

theorem listed_pair :
    List.Forall₂ pairProgram.Declares? [some ⟨15⟩, some ⟨16⟩] [some ⟨1⟩, some ⟨2⟩] := by
  have parametric := parametric_of_built built_pair
  obtain ⟨site, first, are⟩ := takes_pair.listed parametric
  have same : pairProgram.firstDeclaration (pairProgram.symbolOf? (.declared ⟨17⟩)) = some ⟨4⟩ := by
    decide +kernel
  obtain rfl : site = ⟨4⟩ := Option.some.inj (first.symm.trans same)
  have slots : (pairProgram.site ⟨4⟩).typeParameters.slots = [some ⟨1⟩, some ⟨2⟩] := by decide +kernel
  exact slots ▸ are.imp fun _ _ is => is.declares parametric

theorem completes_pair : IsLeast {k | pairProgram.Completes [some ⟨15⟩, some ⟨16⟩]
    [some Program.numberType, some Program.stringType] k} 1 := by
  have default : pairProgram.DefaultAt (some ⟨2⟩) (some Program.stringType) :=
    ⟨⟨2⟩, ⟨3⟩, rfl, by decide +kernel, (Program.asked_of_answer (by decide +kernel)).1⟩
  refine ⟨(Program.completes_iff listed_pair (by rfl) (by decide)).mpr (.cons default .nil), ?_⟩
  exact fun k completes => Program.lt_of_completes listed_pair (by rfl) rfl (by decide +kernel) completes

theorem includeType_trims_pair : ∃ r nodes start, pairRun = (.ok (.ref r), pairRun.2) ∧
    pairEngine.visitAll [some Program.numberType, some Program.stringType] start =
      (.ok nodes, pairRun.2) ∧ r.types = nodes.take 1 := by
  have succeeded : pairRun.1.isOk = true := by decide +kernel
  obtain ⟨node, ran⟩ := of_isOk succeeded
  have applied : pairProgram.Applied [some Program.numberType, some Program.stringType] ⟨18⟩
      (.declared ⟨17⟩) :=
    .declared (by decide +kernel) (by decide +kernel) (by decide +kernel) (by decide +kernel)
  have usable (symbol : SymbolId) (held : pairProgram.symbolOf? (.declared ⟨17⟩) = some symbol) :
      pairEngine.isAnonymous (pairProgram.symbol symbol).name = false := by
    have same : pairProgram.symbolOf? (.declared ⟨17⟩) = some ⟨3⟩ := by decide +kernel
    obtain rfl : (⟨3⟩ : SymbolId) = symbol := Option.some.inj (same.symm.trans held)
    decide +kernel
  obtain ⟨r, nodes, start, rfl, -, visited, -, finds⟩ :=
    includeType_trims built_pair {} {} 9 9 9 takes_pair (by decide) applied usable ran
  -- the entry is made on the way, and of the pair itself
  have own : pairEngine.Own ⟨18⟩ "Pair" := by
    refine ⟨?_, ?_, ?_, ?_, ?_, ?_, ?_⟩ <;> decide +kernel
  have made := (own.includeType_eq {}).symm.trans ran
  obtain ⟨⟨_, ⟨⟩, named⟩, entry⟩ := registered_of_makeRef (orderly_inner _ _ _ _ _ _) made
  obtain ⟨_, body, built, first, filled⟩ := entry rfl
  rw [← named] at filled
  have fills : Fills pairProgram (.declared ⟨17⟩) (pairEngine.bodyOfType ⟨17⟩) :=
    .declared (by rw [program_within, program_withEntries]) ⟨17⟩
  have same : pairEngine.entryType ⟨18⟩ = ⟨17⟩ := by decide +kernel
  have first : pairEngine.bodyOfType ⟨17⟩ _ = (.ok body, built) := same ▸ first
  obtain ⟨k, least, types⟩ := (finds (.made fills first filled)).1 rfl
  rw [least.unique completes_pair] at types
  exact ⟨r, nodes, start, ran, visited, types⟩

def seizedCalls : List Call :=
  [.typeParameter "T" none none,
   .interface { header := { name := "_default", exported := false }, typeParameters := [some ⟨15⟩] },
   .instantiate (some ⟨16⟩) [some Program.stringType],
   .defaultFunction {} none]

def seizedProgram : Program := (Program.start "src/index.ts").takes seizedCalls

def seizedRun : Except Fault Node × Walk :=
  (start seizedProgram {} {}).includeType ⟨17⟩ ((start seizedProgram {} {}).includeRoot ⟨3⟩ .default {}).2

theorem includeType_seized :
    (match seizedRun.1 with
      | .ok (.ref r) => r.name == "_default" && r.types.isEmpty
      | _ => false) = true ∧
    seizedProgram.Takes [some ⟨15⟩] (.declared ⟨16⟩) ∧
    seizedProgram.Applied [some Program.stringType] ⟨17⟩ (.declared ⟨16⟩) ∧
    (start seizedProgram {} {}).isAnonymous "_default" = false ∧
    IsLeast {k | seizedProgram.Completes [some ⟨15⟩] [some Program.stringType] k} 1 := by
  have is : seizedProgram.IsParameter (some ⟨15⟩) (some ⟨1⟩) :=
    ⟨⟨15⟩, ⟨1⟩, rfl, rfl, by decide +kernel, (Program.asked_of_answer (by decide +kernel)).1⟩
  have nominal : (seizedProgram.site ⟨2⟩).kind.isNominal = true := by decide +kernel
  have listed : List.Forall₂ seizedProgram.Declares? [some ⟨15⟩] [some ⟨1⟩] :=
    .cons (is.declares (parametric_of_built (built_of_specs (by decide +kernel)))) .nil
  refine ⟨by decide +kernel, ?_, ?_, by decide +kernel, ?_, fun k completes => ?_⟩
  · refine .declared nominal (Program.asked_of_answer (by decide +kernel)).1 (by decide +kernel) ?_
    simp only [List.mem_singleton]
    rintro param rfl
    exact ⟨_, is⟩
  · exact .declared (by decide +kernel) (by decide +kernel) (by decide +kernel) (by decide +kernel)
  · exact (Program.completes_iff listed (by rfl) (by decide)).mpr .nil
  · exact Program.lt_of_completes listed (by rfl) rfl (by decide +kernel) completes

end Engine

end TypeAtlas
