import TypeAtlas.Proofs.Builder.Call
import TypeAtlas.Proofs.Builder.FinishedExport

/-!
Programs that regular calls build leave no question open: every call begins with a program in which
whatever was begun is finished, and hands on such a program.
-/

namespace TypeAtlas

open Build Program

namespace Call

def members : Call → Table String MemberSpec
  | interface spec => spec.members
  | classType spec => spec.members ++ spec.statics
  | addMembers _ specs | objectLiteral specs _ _ _ => specs
  | _ => []

def parameters : Call → List ParamSpec
  | classType spec => spec.constructors.flatten
  | function _ spec | functionType spec | callSignature spec | defaultFunction spec _ => spec.parameters
  | constructorType parameters _ _ _ => parameters
  | _ => []

/-- The types that a call cannot do without, beside those of members and parameters. -/
def required : Call → List (Option TypeId)
  | union types | intersection types | tuple types => types
  | conditional checkType extendsType trueType falseType =>
    [checkType, extendsType, trueType, falseType]
  | substitution type => [type]
  | instantiate _ arguments | instantiateAlias _ arguments => arguments
  | constructorType _ returns _ _ => [returns]
  | variableOf _ type initializer => [type <|> initializer]
  | _ => []

def values : Call → List (Option Literal)
  | literal value => [value]
  | enumeration spec => spec.members.map Prod.snd
  | _ => []

def titles : Call → List String
  | aliasType header _ _ | variableOf header _ _ => [header.name]
  | _ => []

/-- What is exported by handle: any symbol, or as the default one that a value can be named by. -/
def Exports (call : Call) (p : Program) : Prop :=
  match call with
  | addExport symbol => symbol ≠ none
  | defaultExport target _ => target.Regular p
  | _ => True

/-- A call that was given types, values and names wherever it needs them, and comes back unless it
leaves the program alone. -/
structure Regular (call : Call) (p : Program) : Prop where
  returns : (call.step p).1 = .ok () ∨ (call.step p).2 = p
  types : none ∉ call.required
  typeParameters : none ∉ call.typeParameters
  signatures : none ∉ call.signatures
  values : none ∉ call.values
  titles : "" ∉ call.titles
  members : ∀ entry ∈ call.members, entry.2.Regular
  parameters : ∀ param ∈ call.parameters, param.Regular
  exported : call.Exports p

instance (target : DefaultTarget) (p : Program) : Decidable (target.Regular p) :=
  match target with
  | .symbol _ => inferInstanceAs (Decidable (_ = true))
  | .type _ => inferInstanceAs (Decidable (_ ≠ none))

def isExporting (call : Call) (p : Program) : Bool :=
  match call with
  | addExport symbol => symbol.isSome
  | defaultExport target _ => decide (target.Regular p)
  | _ => true

def isRegular (call : Call) (p : Program) : Bool :=
  (match (call.step p).1 with
    | .ok () => true
    | .error _ => false) &&
  decide (none ∉ call.required) && decide (none ∉ call.typeParameters) &&
    decide (none ∉ call.signatures) && decide (none ∉ call.values) && decide ("" ∉ call.titles) &&
    decide (∀ entry ∈ call.members, entry.2.Regular) && decide (∀ param ∈ call.parameters, param.Regular) &&
    call.isExporting p

theorem regular_of_isRegular {call : Call} {p : Program} (checked : call.isRegular p = true) :
    call.Regular p := by
  simp only [isRegular, Bool.and_eq_true, decide_eq_true_eq] at checked
  obtain ⟨⟨⟨⟨⟨⟨⟨⟨returns, types⟩, typeParameters⟩, signatures⟩, values⟩, titles⟩, members⟩, parameters⟩,
    exporting⟩ := checked
  refine ⟨?_, types, typeParameters, signatures, values, titles, members, parameters, ?_⟩
  · left
    split at returns
    · assumption
    · cases returns
  · unfold Exports
    unfold isExporting at exporting
    split
    · exact Option.isSome_iff_ne_none.mp exporting
    · exact of_decide_eq_true exporting
    · trivial

end Call

variable {p : Program}

theorem generics_of_done {manner : Manner} {ages : Ages} {now : Nat} (fits : p.Fits manner ages now)
    (done : ∀ item, p.Done item) {params : List (Option TypeId)} (given : none ∉ params)
    (genuine : ∀ param, some param ∈ params → (p.type param).isTypeParameter = true) :
    Generics p params := by
  intro param member
  obtain ⟨type, rfl⟩ := exists_of_mem given member
  obtain ⟨-, symbol, held, flagged⟩ := (fits.types type).parameter (genuine type member)
  obtain ⟨site, first, owned, answered⟩ := (done (.symbol symbol)).parameter flagged
  exact ⟨type, rfl, symbol, site, held, first, owned, answered⟩

theorem finishes_call (whole : p.Whole) (done : ∀ item, p.Done item) {call : Call} (known : call.Known p)
    (regular : call.Regular p) (generics : Generics p call.typeParameters) :
    finishing.Keeps p call.step fun _ _ => True := by
  have members := regular.members
  have parameters := regular.parameters
  have types := regular.types
  cases call with
  | literal value =>
      cases value with
      | none => exact absurd (List.mem_singleton.mpr rfl) regular.values
      | some value => exact Course.discard (finishes_literal whole value)
  | bigintLiteral digits => exact Course.discard (finishes_bigintLiteral whole digits)
  | union items => exact Course.discard (finishes_union whole types)
  | intersection items => exact Course.discard (finishes_intersection whole types)
  | tuple elements => exact Course.discard (finishes_tuple whole types)
  | keyof operand =>
      exact Course.discard (finishes_combine whole { typeWhole_fresh [.index] rfl with })
  | indexedAccess objectType indexType =>
      exact Course.discard (finishes_combine whole { typeWhole_fresh [.indexedAccess] rfl with })
  | conditional checkType extendsType trueType falseType =>
      exact Course.discard (finishes_conditional whole types)
  | substitution baseType =>
      exact Course.discard (finishes_substitution whole fun gap =>
        types (gap ▸ List.mem_singleton.mpr rfl))
  | typeParameter name constraint default =>
      exact Course.discard (finishes_typeParameter whole name constraint default)
  | infer name => exact Course.discard (finishes_infer whole name)
  | instantiate generic arguments => exact Course.discard (finishes_instantiate whole done generic types)
  | instantiateAlias aliased arguments =>
      exact Course.discard (finishes_instantiateAlias whole aliased types)
  | interface spec =>
      exact Course.discard (finishes_interface whole members generics regular.signatures)
  | classType spec =>
      exact Course.discard (finishes_classType whole
        (fun entry member => members entry (List.mem_append_left _ member))
        (fun entry member => members entry (List.mem_append_right _ member))
        (fun params member param held => parameters param (List.mem_flatten.mpr ⟨params, member, held⟩))
        generics)
  | addMembers target specs => exact Course.discard (finishes_addMembers whole members generics)
  | aliasType header aliased typeParameters =>
      have named : header.name ≠ "" := fun same => regular.titles (same ▸ List.mem_singleton.mpr rfl)
      exact Course.discard (finishes_aliasType whole named aliased generics)
  | enumeration spec =>
      refine Course.discard (finishes_enumeration whole fun entry member gap => regular.values ?_)
      exact List.mem_map.mpr ⟨entry, member, gap⟩
  | function header spec => exact Course.discard (finishes_function whole header parameters generics)
  | functionType spec => exact Course.discard (finishes_functionType whole parameters generics)
  | constructorType params returns parent fileName =>
      exact Course.discard (finishes_constructorType whole parameters
        (fun gap => types (gap ▸ List.mem_singleton.mpr rfl)) parent fileName)
  | callSignature spec => exact Course.discard (finishes_callSignature whole parameters generics)
  | objectLiteral specs callSignatures stringIndex numberIndex =>
      exact Course.discard (finishes_objectLiteral whole members generics regular.signatures _ _)
  | openMapped key constraint optional =>
      exact Course.discard (finishes_openMapped whole key constraint optional)
  | closeMapped draft value =>
      exact Course.discard (finishes_closeMapped whole (known.draft draft value rfl).kind value)
  | variableOf header type initializer =>
      have named : header.name ≠ "" := fun same => regular.titles (same ▸ List.mem_singleton.mpr rfl)
      have given : type ≠ none ∨ initializer ≠ none := by
        cases type with
        | some type => exact .inl nofun
        | none =>
            refine .inr fun gap => types ?_
            rw [gap]
            exact List.mem_singleton.mpr rfl
      exact Course.discard (finishes_variableOf whole named given)
  | namespaceOf name fileName => exact Course.discard (finishes_namespaceOf whole name fileName)
  | addExport symbol =>
      cases symbol with
      | none => exact absurd rfl regular.exported
      | some symbol => exact finishes_addExport whole symbol
  | defaultExport target doc => exact Course.discard (finishes_defaultExport whole regular.exported doc)
  | defaultFunction spec doc => exact Course.discard (finishes_defaultFunction whole parameters doc)
  | writtenType type parent =>
      exact Course.discard (finishes_writtenType whole type parent)

theorem finished_start (fileName : String) (lastId : Nat) :
    (Program.start fileName lastId).Whole ∧ ∀ item, (Program.start fileName lastId).Done item := by
  unfold Program.start
  dsimp only
  generalize made : List.foldl _ _ _ = q
  obtain ⟨same, -, types⟩ := foldl_addType
    (fun item : TypeFlag × String => { flags := [item.1], intrinsicName := some item.2 }) _ _ q made
  have symbols : q.symbols = #[{ name := fileName, flags := [.moduleKind], id := (lastId + 1 : Nat) }] := by
    rw [same]
    rfl
  have sites : q.sites = #[] := by rw [same]; rfl
  have module : q.moduleSymbol = ⟨0⟩ := by rw [same]; rfl
  have intrinsic (id : TypeId) : TypeWhole q (q.type id) := by
    rcases types id with old | ⟨item, member, number, new⟩
    · rw [old, Program.type_of_size_le _ (Nat.zero_le _)]
      exact { typeWhole_fresh [] rfl with }
    · rw [new]
      have plain : ∀ item ∈ intrinsics, [TypeFlag.stringLiteral, .numberLiteral, .conditional,
          .substitution].all (fun flag => !List.contains [item.1] flag) = true := by decide
      exact { typeWhole_fresh [item.1] (plain item member) with }
  have begun : q.Whole := by
    refine ⟨fun id => ?_, fun id => ?_, intrinsic, fun id inside => ?_, fun type held => ?_, ?_, ?_⟩
    · rw [q.site_of_size_le (by rw [sites]; exact Nat.zero_le _)]
      exact siteWhole_fresh default none none none none (by rintro - _ ⟨⟩) fun _ => rfl
    · have plain (s : Symbol) (held : s = default ∨
          s = { name := fileName, flags := [.moduleKind], id := (lastId + 1 : Nat) }) : SymbolWhole q s := by
        rcases held with rfl | rfl <;> exact
          { documentation := Slots.full_of []
            exports := Slots.full_of []
            statics := by rintro ⟨⟩
            constructors := by rintro _ ⟨⟩
            value := by rintro ⟨⟩
            declared := by rintro ⟨⟩
            titled := by rintro ⟨⟩ }
      apply plain
      rw [Program.symbol, symbols]
      obtain ⟨_ | i⟩ := id
      · exact .inr rfl
      · exact .inl rfl
    · have none : q.signatures = #[] := by rw [same]; rfl
      rw [none] at inside
      cases inside
    · have none : q.inferred = [] := by rw [same]; rfl
      rw [none] at held
      cases held
    · rw [symbols, module]
      exact Nat.zero_lt_one
    · rw [Program.symbol, symbols, module]
      rfl
  refine ⟨begun.addType { typeWhole_fresh [.boolean, .union] rfl with types := Slots.full_of _ }, ?_⟩
  intro item
  cases item with
  | site id => exact done_of_site_outside (by change q.sites.size ≤ _; rw [sites]; exact Nat.zero_le _)
  | symbol id =>
      change SymbolDone _ (q.symbols.getD id.index default)
      rw [symbols]
      obtain ⟨_ | i⟩ := id <;> exact symbolDone_of_plain rfl rfl rfl rfl (by rintro ⟨⟩)

theorem finished_of_built (built : p.Built fun call p => call.Regular p ∧ call.Disciplined p) :
    p.Whole ∧ ∀ item, p.Done item := by
  induction built with
  | start fileName lastId => exact finished_start fileName lastId
  | @call p call built known allowed ih =>
      obtain ⟨whole, done⟩ := ih
      obtain ⟨regular, disciplined⟩ := allowed
      obtain ⟨ages, live⟩ := live_of_built { disciplined := True, nameless := False } built
        fun _ _ allowed => ⟨fun _ => allowed.2, False.elim⟩
      have generics := generics_of_done live.toFits done regular.typeParameters disciplined.typeParameters
      have keeps := finishes_call whole done known regular generics
      rcases regular.returns with returns | unchanged
      · obtain ⟨whole, ⟨-, finishes⟩, -⟩ := keeps.result () (call.step p).2 (Prod.ext returns rfl)
        exact ⟨whole, fun item => finishes item (done item)⟩
      · rw [unchanged]
        exact ⟨whole, done⟩

end TypeAtlas
