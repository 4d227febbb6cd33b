import TypeAtlas.Proofs.Builder.Expression
import TypeAtlas.Proofs.Extract.Expression
import TypeAtlas.Proofs.Number.Binary64

/-!
Literal types over a sequence of requests. A request for a value that is equal to one that was asked
for before gets the type that was made for the first of these; any other gets a type of its own. A type
is written with the value that it was made for.
-/

namespace TypeAtlas

open Build

namespace LiteralKey

variable {k l m : LiteralKey}

theorem same_symm (same : k.same l = true) : l.same k = true := by
  cases k <;> cases l
  case unset.unset => rfl
  case text.text | int.int | bigint.bigint => exact beq_iff_eq.mpr (beq_iff_eq.mp same).symm
  case float.float => exact Binary64.sameValue_symm same
  case int.float | float.int => exact same
  all_goals cases same

theorem same_trans (same : k.same l = true) (next : l.same m = true) : k.same m = true := by
  cases k <;> cases l
  case unset.unset => exact next
  case text.text | int.int | bigint.bigint =>
    cases beq_iff_eq.mp same
    exact next
  case int.float n x =>
    have whole : x.toInt? = some n := beq_iff_eq.mp same
    cases m with
    | int n' => exact beq_iff_eq.mpr (Option.some.inj (whole.symm.trans (beq_iff_eq.mp next)))
    | float y => exact beq_iff_eq.mpr ((Binary64.toInt?_of_sameValue next).symm.trans whole)
    | _ => cases next
  case float.int x n =>
    have whole : x.toInt? = some n := beq_iff_eq.mp same
    cases m with
    | int n' => exact beq_iff_eq.mpr (whole.trans (congrArg some (beq_iff_eq.mp next)))
    | float y => exact Binary64.sameValue_of_toInt? whole (beq_iff_eq.mp next)
    | _ => cases next
  case float.float x y =>
    cases m with
    | int n => exact beq_iff_eq.mpr ((Binary64.toInt?_of_sameValue same).trans (beq_iff_eq.mp next))
    | float z => exact Binary64.sameValue_trans same next
    | _ => cases next
  all_goals cases same

end LiteralKey

/-- A call for a literal type, with the value or the digits of a big integer. -/
inductive LiteralRequest where
  | value (value : Literal)
  | bigint (digits : String)
deriving DecidableEq

namespace LiteralRequest

def make : LiteralRequest → Build TypeId
  | value v => Build.literal (some v)
  | bigint digits => bigintLiteral (some digits)

def written : LiteralRequest → TypeExpr
  | value v => .literal v
  | bigint digits => .bigint digits

def key? : LiteralRequest → Option LiteralKey
  | value (.bool _) => none
  | value (.int n) => some (.int n)
  | value (.float x) => some (.float x)
  | value (.text s) => some (.text s)
  | bigint digits => some (.bigint (some digits))

def same (r s : LiteralRequest) : Bool :=
  match r.key?, s.key? with
  | some k, some l => k.same l
  | _, _ => r == s

variable {r s t : LiteralRequest} {k l : LiteralKey}

theorem make_of_key (asked : r.key? = some k) : r.make = cached k k.record := by
  cases r with
  | value v => cases v <;> cases asked <;> rfl
  | bigint digits => cases asked; rfl

theorem written_of_key (asked : r.key? = some k) : k.written? = some r.written := by
  cases r with
  | value v => cases v <;> cases asked <;> rfl
  | bigint digits => cases asked; rfl

theorem eq_truth_of_key (bare : r.key? = none) : ∃ truth, r = value (.bool truth) := by
  cases r with
  | value v =>
      cases v with
      | bool truth => exact ⟨truth, rfl⟩
      | _ => cases bare
  | bigint digits => cases bare

theorem same_of_keys (asked : r.key? = some k) (asked' : s.key? = some l) : r.same s = k.same l := by
  rw [same, asked, asked']

theorem eq_of_same (bare : s.key? = none) (equal : r.same s = true) : r = s := by
  rw [same, bare] at equal
  cases asked : r.key? <;> rw [asked] at equal <;> exact beq_iff_eq.mp equal

theorem key_of_same (asked : s.key? = some l) (equal : r.same s = true) :
    ∃ k, r.key? = some k ∧ k.same l = true := by
  cases found : r.key? with
  | some k => exact ⟨k, rfl, same_of_keys found asked ▸ equal⟩
  | none =>
      rw [same, found] at equal
      cases beq_iff_eq.mp equal
      rw [found] at asked
      cases asked

theorem same_symm (equal : r.same s = true) : s.same r = true := by
  cases asked : s.key? with
  | none =>
      obtain rfl := eq_of_same asked equal
      exact equal
  | some l =>
      obtain ⟨k, asked', keys⟩ := key_of_same asked equal
      rw [same_of_keys asked asked']
      exact LiteralKey.same_symm keys

theorem same_trans (equal : r.same s = true) (next : s.same t = true) : r.same t = true := by
  cases asked : t.key? with
  | none =>
      obtain rfl := eq_of_same asked next
      exact equal
  | some m =>
      obtain ⟨l, asked', keys⟩ := key_of_same asked next
      obtain ⟨k, asked'', keys'⟩ := key_of_same asked' equal
      rw [same_of_keys asked'' asked]
      exact LiteralKey.same_trans keys' keys

def isNaN : LiteralRequest → Bool
  | value (.float x) => x.isNaN
  | _ => false

/-- Every value but a not-a-number is equal to itself. -/
theorem same_self (number : r.isNaN = false) : r.same r = true := by
  cases r with
  | value v =>
      cases v with
      | float x => exact Binary64.sameValue_self number
      | _ => simp [same, key?, LiteralKey.same]
  | bigint digits => simp [same, key?, LiteralKey.same]

theorem same_of_found {before : List LiteralRequest} (found : before.find? (·.same r) = some s) :
    s.same r = true :=
  List.find?_some (p := fun held : LiteralRequest => held.same r) found

def earliest (before : List LiteralRequest) (r : LiteralRequest) : LiteralRequest :=
  (before.find? (·.same r)).getD r

end LiteralRequest

namespace Program

open LiteralRequest

structure IsLiteral (p : Program) (type : TypeId) (r : LiteralRequest) : Prop where
  record : ∃ t : TypeInfo, (p.type type).fixed = t.fixed ∧ t.Writes r.written
  unaliased : (p.type type).alias? = none
  inside : type.index < p.types.size

def literal? (p : Program) : LiteralRequest → Option TypeId
  | .value (.bool truth) => some (if truth then trueType else falseType)
  | r => r.key?.bind fun k => (p.literals.find? (·.1.same k)).map Prod.snd

/-- Types and what is kept of literals have only been added to. -/
structure Adds (p q : Program) : Prop where
  types : ∀ id : TypeId, id.index < p.types.size → q.type id = p.type id
  size : p.types.size ≤ q.types.size
  literals : p.literals <+: q.literals

/-- What there is after some requests: the types of both truth values, and a type for each value that
was asked for, kept for the first request. -/
structure Stocked (p : Program) (done : List LiteralRequest) : Prop where
  truth : ∀ truth, p.IsLiteral (if truth then trueType else falseType) (.value (.bool truth))
  kept : ∀ entry ∈ p.literals, ∀ r : LiteralRequest, r.key? = some entry.1 → p.IsLiteral entry.2 r
  first : ∀ (r : LiteralRequest) (k : LiteralKey), r.key? = some k →
    (p.literals.find? (·.1.same k)).map Prod.fst = (done.find? (·.same r)).bind key?

variable {p q s : Program} {type : TypeId} {r : LiteralRequest} {k : LiteralKey}
  {done : List LiteralRequest}

theorem Adds.refl (p : Program) : p.Adds p := ⟨fun _ _ => rfl, Nat.le_refl _, List.prefix_rfl⟩

theorem Adds.trans (one : p.Adds q) (two : q.Adds s) : p.Adds s where
  types id inside := (two.types id (Nat.lt_of_lt_of_le inside one.size)).trans (one.types id inside)
  size := Nat.le_trans one.size two.size
  literals := one.literals.trans two.literals

theorem IsLiteral.carry (literal : p.IsLiteral type r) (adds : p.Adds q) : q.IsLiteral type r := by
  have same := adds.types type literal.inside
  exact ⟨same.symm ▸ literal.record, same.symm ▸ literal.unaliased,
    Nat.lt_of_lt_of_le literal.inside adds.size⟩

theorem literal?_of_key (asked : r.key? = some k) :
    p.literal? r = (p.literals.find? (·.1.same k)).map Prod.snd := by
  cases r with
  | value v => cases v <;> cases asked <;> rfl
  | bigint digits => cases asked; rfl

theorem Adds.literal? (adds : p.Adds q) (kept : p.literal? r = some type) :
    q.literal? r = some type := by
  cases asked : r.key? with
  | none =>
      obtain ⟨truth, rfl⟩ := eq_truth_of_key asked
      exact kept
  | some k =>
      rw [literal?_of_key asked] at kept ⊢
      obtain ⟨entry, found, rfl⟩ := Option.map_eq_some_iff.mp kept
      obtain ⟨later, literals⟩ := adds.literals
      rw [← literals, List.find?_append, found]
      rfl

theorem literal?_congr {r' : LiteralRequest} (equal : r.same r' = true) :
    p.literal? r = p.literal? r' := by
  cases asked : r'.key? with
  | none =>
      obtain rfl := eq_of_same asked equal
      rfl
  | some l =>
      obtain ⟨k, asked', keys⟩ := key_of_same asked equal
      rw [literal?_of_key asked, literal?_of_key asked']
      have alike : (fun entry : LiteralKey × TypeId => entry.1.same k) = fun entry => entry.1.same l :=
        funext fun entry => Bool.eq_iff_iff.mpr
          ⟨fun held => LiteralKey.same_trans held keys,
            fun held => LiteralKey.same_trans held (LiteralKey.same_symm keys)⟩
      rw [alike]

theorem cached_of_found {t : TypeInfo} {entry : LiteralKey × TypeId}
    (found : p.literals.find? (·.1.same k) = some entry) : cached k t p = (.ok entry.2, p) := by
  unfold cached
  rw [bind_ok (get_apply p), found]
  rfl

def keeping (p : Program) (k : LiteralKey) : Program :=
  { (p.addType k.record).2 with literals := p.literals ++ [(k, ⟨p.types.size⟩)] }

theorem cached_of_none (unkept : p.literals.find? (·.1.same k) = none) :
    cached k k.record p = (.ok ⟨p.types.size⟩, p.keeping k) := by
  unfold cached
  rw [bind_ok (get_apply p), unkept]
  rfl

theorem literals_keeping (p : Program) (k : LiteralKey) :
    (p.keeping k).literals = p.literals ++ [(k, ⟨p.types.size⟩)] := rfl

theorem type_keeping (p : Program) (k : LiteralKey) (id : TypeId) :
    (p.keeping k).type id =
      if id.index = p.types.size then { k.record with id := p.lastId + 1 } else p.type id :=
  p.type_addType k.record id

theorem size_keeping (p : Program) (k : LiteralKey) :
    (p.keeping k).types.size = p.types.size + 1 := by
  simp [keeping, addType, addNumberedType]

theorem adds_keeping (p : Program) (k : LiteralKey) : p.Adds (p.keeping k) where
  types id inside := (p.type_keeping k id).trans (if_neg (Nat.ne_of_lt inside))
  size := Nat.le_of_lt (p.size_keeping k ▸ Nat.lt_succ_self _)
  literals := List.prefix_append ..

theorem isLiteral_keeping (p : Program) (asked : r.key? = some k) :
    (p.keeping k).IsLiteral ⟨p.types.size⟩ r := by
  have record : (p.keeping k).type ⟨p.types.size⟩ = { k.record with id := p.lastId + 1 } :=
    (p.type_keeping k _).trans (if_pos rfl)
  refine ⟨⟨k.record, by rw [record]; rfl, LiteralKey.writes (written_of_key asked)⟩, ?_, ?_⟩
  · rw [record]
    cases k <;> rfl
  · rw [size_keeping]
    exact Nat.lt_succ_self _

structure Answers (p q : Program) (done : List LiteralRequest) (r : LiteralRequest)
    (type : TypeId) : Prop where
  stocked : q.Stocked (done ++ [r])
  adds : p.Adds q
  literal : q.IsLiteral type (earliest done r)
  kept : r.same r = true → q.literal? r = some type

theorem Stocked.find?_isSome (stocked : p.Stocked done) (asked : r.key? = some k) :
    (done.find? (·.same r)).isSome = (p.literals.find? (·.1.same k)).isSome := by
  have keys := stocked.first r k asked
  cases found : done.find? (·.same r) with
  | none =>
      rw [found] at keys
      rw [Option.map_eq_none_iff.mp keys]
      rfl
  | some held =>
      obtain ⟨l, asked', -⟩ := key_of_same asked (same_of_found found)
      rw [found] at keys
      obtain ⟨entry, there, -⟩ := Option.map_eq_some_iff.mp (keys.trans asked')
      rw [there]
      rfl

/-- A request that is not the first for any value of a kept type. -/
theorem Stocked.again (stocked : p.Stocked done)
    (other : ∀ (r' : LiteralRequest) (l : LiteralKey), r'.key? = some l →
      done.find? (·.same r') = none → r.same r' = false) : p.Stocked (done ++ [r]) := by
  refine ⟨stocked.truth, stocked.kept, fun r' l asked => ?_⟩
  rw [stocked.first r' l asked, List.find?_append]
  cases before : done.find? (·.same r') with
  | some _ => rfl
  | none =>
      rw [List.find?_singleton, other r' l asked before]
      rfl

theorem Stocked.answers_truth (stocked : p.Stocked done) (truth : Bool) :
    p.Answers p done (.value (.bool truth)) (if truth then trueType else falseType) := by
  refine ⟨stocked.again fun r' l asked _ => ?_, .refl p, ?_, fun _ => rfl⟩
  · refine Bool.eq_false_iff.mpr fun equal => ?_
    obtain ⟨k, none, -⟩ := key_of_same asked equal
    cases none
  · have own : earliest done (.value (.bool truth)) = .value (.bool truth) := by
      rw [earliest]
      cases found : done.find? (·.same (.value (.bool truth))) with
      | none => rfl
      | some held =>
          exact eq_of_same rfl (same_of_found found)
    rw [own]
    exact stocked.truth truth

/-- A value that was asked for before. -/
theorem Stocked.answers_found (stocked : p.Stocked done) (asked : r.key? = some k)
    {entry : LiteralKey × TypeId} (found : p.literals.find? (·.1.same k) = some entry) :
    p.Answers p done r entry.2 := by
  have keys := stocked.first r k asked
  rw [found] at keys
  obtain ⟨held, there, key⟩ := Option.bind_eq_some_iff.mp keys.symm
  have equal := same_of_found there
  refine ⟨stocked.again fun r' l _ before => ?_, .refl p, ?_, fun _ => ?_⟩
  · -- What is equal to this request is equal to the first one for the value.
    rw [List.find?_eq_none] at before
    exact Bool.eq_false_iff.mpr fun same =>
      before held (List.mem_of_find?_eq_some there) (LiteralRequest.same_trans equal same)
  · rw [earliest, there]
    exact stocked.kept entry (List.mem_of_find?_eq_some found) held key
  · rw [literal?_of_key asked, found]
    rfl

/-- Where no type is kept, there was no request. -/
theorem Stocked.unasked (stocked : p.Stocked done) (asked : r.key? = some k)
    (unkept : p.literals.find? (·.1.same k) = none) : done.find? (·.same r) = none := by
  have alike := stocked.find?_isSome asked
  rw [unkept] at alike
  simpa using alike

/-- Where there was no request, no type is kept. -/
theorem Stocked.unkept (stocked : p.Stocked done) (asked : r.key? = some k)
    (unasked : done.find? (·.same r) = none) : p.literals.find? (·.1.same k) = none := by
  have alike := stocked.find?_isSome asked
  rw [unasked] at alike
  simpa using alike.symm

theorem Stocked.keeping (stocked : p.Stocked done) (asked : r.key? = some k) :
    (p.keeping k).Stocked (done ++ [r]) := by
  have adds := p.adds_keeping k
  refine ⟨fun truth => (stocked.truth truth).carry adds, fun entry member r' asked' => ?_,
    fun r' l asked' => ?_⟩
  · rcases List.mem_append.mp member with old | new
    · exact (stocked.kept entry old r' asked').carry adds
    · cases List.mem_singleton.mp new
      exact p.isLiteral_keeping asked'
  · rw [literals_keeping, List.find?_append, List.find?_append, List.find?_singleton,
      List.find?_singleton, same_of_keys asked asked']
    cases before : done.find? (·.same r') with
    | some held =>
        have keys := stocked.first r' l asked'
        obtain ⟨m, asked'', -⟩ := key_of_same asked' (same_of_found before)
        rw [before, Option.bind_some, asked''] at keys
        obtain ⟨entry, there, same⟩ := Option.map_eq_some_iff.mp keys
        rw [there]
        exact (congrArg some same).trans asked''.symm
    | none =>
        rw [stocked.unkept asked' before]
        cases k.same l with
        | true => exact asked.symm
        | false => rfl

/-- A value that was not asked for before. -/
theorem Stocked.answers_new (stocked : p.Stocked done) (asked : r.key? = some k)
    (unkept : p.literals.find? (·.1.same k) = none) :
    p.Answers (p.keeping k) done r ⟨p.types.size⟩ := by
  refine ⟨stocked.keeping asked, p.adds_keeping k, ?_, fun equal => ?_⟩
  · rw [earliest, stocked.unasked asked unkept]
    exact p.isLiteral_keeping asked
  · rw [literal?_of_key asked, literals_keeping, List.find?_append, unkept, List.find?_singleton,
      ← same_of_keys asked asked, equal]
    rfl

theorem Stocked.answers (stocked : p.Stocked done) (r : LiteralRequest) :
    ∃ type q, r.make p = (.ok type, q) ∧ p.Answers q done r type := by
  cases asked : r.key? with
  | none =>
      obtain ⟨truth, rfl⟩ := eq_truth_of_key asked
      exact ⟨_, p, by cases truth <;> rfl, stocked.answers_truth truth⟩
  | some k =>
      rw [make_of_key asked]
      cases found : p.literals.find? (·.1.same k) with
      | some entry => exact ⟨_, _, cached_of_found found, stocked.answers_found asked found⟩
      | none => exact ⟨_, _, cached_of_none found, stocked.answers_new asked found⟩

def Supplied (q : Program) (done requests : List LiteralRequest) (types : List TypeId) : Prop :=
  types.length = requests.length ∧
    ∀ (i : Nat) (r : LiteralRequest) (type : TypeId), requests[i]? = some r → types[i]? = some type →
      q.IsLiteral type (earliest (done ++ requests.take i) r) ∧
        (r.same r = true → q.literal? r = some type)

theorem Stocked.supplied (stocked : p.Stocked done) (requests : List LiteralRequest) :
    ∃ types q, requests.mapM make p = (.ok types, q) ∧ q.Stocked (done ++ requests) ∧ p.Adds q ∧
      q.Supplied done requests types := by
  induction requests generalizing p done with
  | nil => exact ⟨[], p, rfl, (List.append_nil done).symm ▸ stocked, .refl p, rfl, nofun⟩
  | cons r rest ih =>
      obtain ⟨type, between, made, answers⟩ := stocked.answers r
      obtain ⟨types, q, ran, stocked', adds, long, each⟩ := ih answers.stocked
      refine ⟨type :: types, q, ?_, ?_, answers.adds.trans adds, congrArg (· + 1) long, ?_⟩
      · rw [List.mapM_cons, bind_ok made, bind_ok ran]
        rfl
      · rwa [List.append_cons]
      · intro i r' type' asked given
        cases i with
        | zero =>
            cases asked
            cases given
            rw [List.take_zero, List.append_nil]
            exact ⟨answers.literal.carry adds, fun equal => adds.literal? (answers.kept equal)⟩
        | succ i =>
            rw [List.take_succ_cons, List.append_cons]
            exact each i r' type' asked given

theorem stocked_start (fileName : String) (lastId : Nat) :
    (Program.start fileName lastId).Stocked [] := by
  have none : (Program.start fileName lastId).literals = [] := rfl
  have records : ((Program.start fileName lastId).types.toList.map fun t => (t.fixed, t.alias?)) = _ :=
    map_start (fun _ _ => rfl) fileName lastId
  have read (id : TypeId) : (((Program.start fileName lastId).type id).fixed,
      ((Program.start fileName lastId).type id).alias?) =
        (intrinsicRecords.map fun t => (t.fixed, t.alias?)).getD id.index _ :=
    records ▸ Program.read_type _ id fun t => (t.fixed, t.alias?)
  have size : (Program.start fileName lastId).types.size = 15 := by
    rw [← Array.length_toList, ← List.length_map (fun t : TypeInfo => (t.fixed, t.alias?)), records]
    rfl
  refine ⟨fun truth => ?_, by rw [none]; nofun, fun r k _ => by rw [none]; rfl⟩
  have writes : TypeInfo.Writes
      { flags := [.booleanLiteral], intrinsicName := some (if truth then "true" else "false") }
      (.literal (.bool truth)) := by
    cases truth <;> exact ⟨rfl, rfl, _, rfl, fun _ => by rw [TypeExpr.image]; rfl⟩
  cases truth with
  | true =>
      obtain ⟨fixed, bare⟩ := Prod.mk.inj (read trueType)
      exact ⟨⟨_, fixed, writes⟩, bare, size ▸ by decide⟩
  | false =>
      obtain ⟨fixed, bare⟩ := Prod.mk.inj (read falseType)
      exact ⟨⟨_, fixed, writes⟩, bare, size ▸ by decide⟩

end Program

def LiteralRequest.node : LiteralRequest → Node
  | value v => .literal v
  | bigint digits => .bigintLiteral digits

theorem LiteralRequest.image_written (r : LiteralRequest) : r.written.image = r.node := by
  cases r <;> rw [written, TypeExpr.image] <;> rfl

theorem Program.IsLiteral.includeType {e : Engine} {type : TypeId} {r : LiteralRequest}
    (literal : e.program.IsLiteral type r) (w : Walk) : e.includeType type w = (.ok r.node, w) := by
  obtain ⟨t, same, writes⟩ := literal.record
  obtain ⟨terminal, told, written⟩ := writes.terminal
  rw [Engine.includeType_of_terminal same writes.symbol writes.index told literal.unaliased, written,
    LiteralRequest.image_written]
  rfl

namespace Engine

open LiteralRequest

/-- Whatever literal types are asked for, each is written with the first value asked for that is equal
to its own. Equal values have one type, and of these a value that is no not-a-number is one. -/
theorem includeType_literals (fileName : String) (lastId : Nat) (requests : List LiteralRequest) :
    ∃ types p, requests.mapM make (Program.start fileName lastId) = (.ok types, p) ∧
      types.length = requests.length ∧
      (∀ (i : Nat) (r : LiteralRequest) (type : TypeId), requests[i]? = some r →
        types[i]? = some type → ∀ (e : Engine) (w : Walk), e.program = p →
          e.includeType type w = (.ok (earliest (requests.take i) r).node, w)) ∧
      ∀ (i j : Nat) (r s : LiteralRequest) (type other : TypeId), requests[i]? = some r →
        requests[j]? = some s → types[i]? = some type → types[j]? = some other →
          r.same s = true ∨ (r = s ∧ r.isNaN = false) → type = other := by
  obtain ⟨types, p, ran, -, -, long, each⟩ :=
    (Program.stocked_start fileName lastId).supplied requests
  refine ⟨types, p, ran, long, ?_, ?_⟩
  · rintro i r type asked given e w rfl
    exact (each i r type asked given).1.includeType w
  · intro i j r s type other asked asked' given given' equal
    have equal : r.same s = true := by
      rcases equal with equal | ⟨rfl, number⟩
      · exact equal
      · exact same_self number
    have kept := (each i r type asked given).2 (same_trans equal (same_symm equal))
    have kept' := (each j s other asked' given').2 (same_trans (same_symm equal) equal)
    rw [Program.literal?_congr equal, kept'] at kept
    exact (Option.some.inj kept).symm

/-- One as a number with a point has the type that was made for the integer, and is written as that. -/
theorem includeType_recasts :
    ∃ type p, [value (.int 1), value (.float ⟨0x3ff0000000000000⟩)].mapM make
        (Program.start "src/index.ts") = (.ok [type, type], p) ∧
      ∀ (e : Engine) (w : Walk), e.program = p → e.includeType type w = (.ok (.literal (.int 1)), w) := by
  have equal : (value (.int 1)).same (value (.float ⟨0x3ff0000000000000⟩)) = true := by decide +kernel
  obtain ⟨types, p, ran, -, -, long, each⟩ := (Program.stocked_start "src/index.ts" 0).supplied
    [value (.int 1), value (.float ⟨0x3ff0000000000000⟩)]
  obtain ⟨type, other, rfl⟩ : ∃ type other, types = [type, other] := List.length_eq_two.mp long
  have one := each 0 _ _ rfl rfl
  have two := each 1 _ _ rfl rfl
  have kept := two.2 (same_trans (same_symm equal) equal)
  rw [← Program.literal?_congr equal, one.2 rfl] at kept
  obtain rfl := Option.some.inj kept
  refine ⟨type, p, ran, ?_⟩
  rintro e w rfl
  exact one.1.includeType w

end Engine

end TypeAtlas
