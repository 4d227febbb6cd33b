import TypeAtlas.Proofs.Extract.Reference
import TypeAtlas.Proofs.Node.Mention
import TypeAtlas.Proofs.Program.Tame

/-!
A root that succeeds leaves its entry. Only a class, an interface or an enumeration whose name is
reserved when its root begins is taken for built.
-/

namespace TypeAtlas

variable {manner : Manner} {ages : Ages} {now : Nat}

namespace Extract

variable {α β : Type}

def Yields (step : Extract α) (holds : α → Prop) : Prop :=
  ∀ (w : Walk) value after, step w = (.ok value, after) → holds value

theorem yields_pure {holds : α → Prop} {value : α} (held : holds value) : Yields (pure value) holds := by
  intro w other after ran
  cases ran
  exact held

theorem yields_fail {holds : α → Prop} (fault : Fault) : Yields (fail fault) holds := by
  intro w value after ran
  cases ran

theorem yields_bind {step : Extract α} {next : α → Extract β} {holds : β → Prop}
    (rest : ∀ value, Yields (next value) holds) : Yields (step >>= next) holds := by
  intro w result final ran
  obtain ⟨value, after, _, ended⟩ := of_bind_ok ran
  exact rest value after result final ended

theorem yields_map {step : Extract α} {f : α → β} {holds : β → Prop}
    (yields : Yields step fun value => holds (f value)) : Yields (f <$> step) holds := by
  intro w result final ran
  rw [map_eq] at ran
  obtain ⟨value, after, started, ended⟩ := of_bind_ok ran
  cases ended
  exact yields w value _ started

end Extract

def Node.Described (node : Node) : Prop := ∀ r, node ≠ .ref r

namespace Engine

open Extract

/-- A program of which everything is its own, and whose declared types go by no other name. -/
structure Local (e : Engine) : Prop where
  inside : ∀ symbol, (e.originOf symbol).scope? = none
  unaliased : ∀ symbol, (e.program.symbol symbol).isTypeSymbol = true → ∀ type,
    (e.program.symbol symbol).answers.declared = some (some type) →
      (e.program.type type).alias? = none

variable {e : Engine}

theorem plain_of_terminal (info : TypeInfo) (terminal : Terminal) :
    Yields (e.includeTerminal info terminal) fun node => node.isPlain = true := by
  cases terminal with
  | primitive kind => exact yields_pure rfl
  | literal =>
      unfold includeTerminal
      dsimp only
      split
      · exact yields_pure rfl
      · exact yields_fail _
  | truth => exact yields_pure rfl
  | enumLiteral =>
      exact yields_bind fun _ => yields_bind fun _ => yields_bind fun _ => yields_pure rfl
  | enumeration =>
      exact yields_bind fun _ => yields_bind fun _ => yields_bind fun _ => yields_pure rfl
  | bigintLiteral => exact yields_pure rfl
  | conditional =>
      exact yields_bind fun _ => yields_bind fun _ => yields_bind fun _ =>
        yields_bind fun _ => yields_pure rfl
  | substitution => exact yields_bind fun _ => yields_pure rfl
  | nonPrimitive => exact yields_pure rfl

theorem plain_of_basic (type : TypeId) :
    Yields (e.includeBasic type) fun node => ∀ held ∈ node, held.isPlain = true := by
  unfold includeBasic
  dsimp only
  split
  · apply yields_map
    rintro w node after ran held ⟨⟩
    exact plain_of_terminal _ _ w node after ran
  · exact yields_pure nofun

theorem described_of_basic (type : TypeId) :
    Yields (e.includeBasic type) fun node => ∀ held ∈ node, held.Described := by
  rintro w node after ran held member r rfl
  cases plain_of_basic type w node after ran _ member

theorem described_of_object (type : TypeId) :
    Yields (e.includeObject type) fun node => ∀ held ∈ node, held.Described := by
  have some_ (node : Node) (described : node.Described) : ∀ held ∈ some node, held.Described := by
    rintro held ⟨⟩
    exact described
  unfold includeObject
  dsimp only
  split
  · exact yields_pure nofun
  · split
    · apply yields_map
      unfold includeMapped
      dsimp only
      split
      · split
        · refine yields_bind fun _ => yields_bind fun _ => yields_bind fun _ => ?_
          exact yields_bind fun _ => yields_bind fun _ => yields_bind fun _ =>
            yields_pure (some_ _ nofun)
        · exact yields_fail _
      · exact yields_fail _
    · split
      · apply yields_map
        refine yields_bind fun heritage => yields_bind fun shape => ?_
        have ends (exported : List (Option SymbolId)) : Yields (do
            let statics ← exported.mapM e.includeStatic
            let constructors ← e.includeConstructors type
            pure (Node.classShape
              { shape with props := shape.props ++ statics.flatten ++ constructors }
              heritage.implemented)) fun node => ∀ held ∈ some node, held.Described :=
          yields_bind fun _ => yields_bind fun _ => yields_pure (some_ _ nofun)
        dsimp only
        split
        · exact yields_bind ends
        · exact yields_bind ends
      · exact yields_bind fun _ => yields_bind fun _ => yields_pure (some_ _ nofun)

theorem described_of_combinator {type : TypeId}
    (plain : (e.program.type type).isReference = false) :
    Yields (e.includeCombinator type) fun node => ∀ held ∈ node, held.Described := by
  have some_ (node : Node) (described : node.Described) : ∀ held ∈ some node, held.Described := by
    rintro held ⟨⟩
    exact described
  unfold includeCombinator
  simp only [Program.isTuple, plain, Bool.false_and, Bool.false_eq_true, if_false]
  split
  · refine yields_bind fun _ => yields_map ?_
    exact yields_bind fun _ => yields_pure (some_ _ nofun)
  · split
    · exact yields_bind fun _ => yields_bind fun _ => yields_pure (some_ _ nofun)
    · split
      · refine yields_bind fun index => ?_
        have ends (object : Option Node) :
            Yields (pure (some (Node.indexedAccess index object)) : Extract (Option Node))
              fun node => ∀ held ∈ node, held.Described := yields_pure (some_ _ nofun)
        split
        · exact yields_bind ends
        · exact yields_bind ends
      · exact yields_pure nofun

/-- A type of the program itself stands for nothing else. -/
theorem described_of_hidden {type : TypeId}
    (inside : (e.originOf (e.program.type type).symbol).scope? = none) :
    Yields (e.includeHidden type) fun node => ∀ held ∈ node, held.Described := by
  unfold includeHidden
  dsimp only
  split
  · exact yields_pure nofun
  · rename_i symbol own
    rw [own] at inside
    simp only [inside]
    have apart : (none != some ImportScope.module_) = true := rfl
    simp only [apart, Bool.or_true, if_true]
    exact yields_pure nofun

theorem described_of_firstOf (type : TypeId) {describes : List (TypeId → Extract (Option Node))}
    (each : ∀ describe ∈ describes, Yields (describe type) fun node => ∀ held ∈ node, held.Described) :
    Yields (e.firstOf type describes) Node.Described := by
  induction describes with
  | nil => exact yields_bind fun _ => yields_bind fun _ => yields_pure nofun
  | cons describe rest ih =>
      intro w node final ran
      obtain ⟨described, after, started, ended⟩ := of_bind_ok ran
      cases described with
      | some held =>
          cases ended
          exact each describe (by simp) w _ _ started _ rfl
      | none => exact ih (fun other member => each other (by simp [member])) after node final ended

theorem described_of_inline {type : TypeId} (plain : (e.program.type type).isReference = false)
    (inside : (e.originOf (e.program.type type).symbol).scope? = none) :
    Yields (e.includeInline type) Node.Described := by
  apply described_of_firstOf
  simp only [List.mem_cons, List.not_mem_nil, or_false, forall_eq_or_imp, forall_eq]
  exact ⟨described_of_basic type, described_of_combinator plain, described_of_hidden inside,
    described_of_object type⟩

/-- Where the entry of a declared type comes from: it was there before, or it is made from the type, in
place if the name is taken for made up. -/
inductive EntryOf (e : Engine) (type : TypeId) (name : String) (w after : Walk) : Prop
  | earlier {node : Node} (before : w.registry.Filled name node) (kept : after.registry.Filled name node)
  | body (made : after.Made name (e.bodyOfType type))
  | inline (made : after.Made name (e.includeInline type))

theorem EntryOf.stands {type : TypeId} {name : String} {w after : Walk}
    (entry : e.EntryOf type name w after) : after.Stands name := by
  cases entry with
  | earlier _ kept => exact ⟨_, kept⟩
  | body made => exact made.stands
  | inline made => exact made.stands

section Declared

variable (fits : e.program.Fits manner ages now) {type : TypeId} {name : String}
  (declares : e.program.Declares type name)
include fits declares

theorem plain_of_declares : (e.program.type type).keyofOperand? = none ∧
    (e.program.type type).isTypeParameter = false ∧
      (e.program.type type).isAnonymousObject = false ∧
        (e.program.type type).isReference = false := by
  rcases declares.2 with nominal | flags | flags
  · obtain ⟨flags, reference, anonymous, -⟩ := (fits.types type).nominal nominal
    simp [TypeInfo.keyofOperand?, TypeInfo.isTypeParameter, TypeInfo.isAnonymousObject,
      TypeInfo.isReference, TypeInfo.hasFlag, flags, anonymous, reference]
  all_goals
    simp [TypeInfo.keyofOperand?, TypeInfo.isTypeParameter, TypeInfo.isAnonymousObject,
      TypeInfo.isReference, TypeInfo.isObject, TypeInfo.hasFlag, flags]

variable (unaliased : (e.program.type type).alias? = none)
include unaliased

omit fits in
theorem nameOf_declared : e.nameOf (e.program.type type) = some name := by
  obtain ⟨⟨symbol, held, -, called⟩, -⟩ := declares
  unfold nameOf
  rw [unaliased, held, ← called]
  rfl

variable (inside : (e.originOf (e.program.type type).symbol).scope? = none)
include inside

theorem own_of_declares (usable : e.isAnonymous name = false) : e.Own type name := by
  obtain ⟨plain, declared, object, -⟩ := plain_of_declares fits declares
  exact ⟨plain, declared, unaliased, nameOf_declared declares unaliased, usable, object, inside⟩

theorem includeType_anonymous (anonymous : e.isAnonymous name = true) (w : Walk) :
    e.includeType type w = e.includeInline type w := by
  obtain ⟨plain, declared, -⟩ := plain_of_declares fits declares
  unfold includeType
  simp only [plain, nameOf_declared declares unaliased]
  unfold includeKnown
  simp only [declared]
  by_cases empty : name.isEmpty = true
  · simp only [empty, if_true]
  · simp only [empty, unaliased, Option.isSome_none,
      Bool.false_and, Bool.false_eq_true, if_false]
    rw [bind_ok (includeExternal_of_inside inside w)]
    simp only [anonymous, Bool.true_or, if_true]

theorem made_of_includeExportedType (anonymous : e.isAnonymous name = true) {w after : Walk}
    (ran : e.includeExportedType type w = (.ok (), after)) : after.Made name (e.includeInline type) := by
  obtain ⟨symbol, held, -, called⟩ := declares.1
  obtain ⟨-, -, -, reference⟩ := plain_of_declares fits declares
  unfold includeExportedType at ran
  simp only [held, called] at ran
  obtain ⟨node, between, entered, ended⟩ := of_bind_ok ran
  obtain ⟨inner, visited, rfl⟩ := of_inScope_ok entered
  rw [includeType_anonymous fits declares unaliased inside anonymous] at visited
  have described := described_of_inline reference inside _ node inner visited
  refine ⟨node, w.openScope, inner, visited, ?_⟩
  cases node with
  | ref r => exact absurd rfl (described r)
  | _ =>
      cases ended
      exact Registry.filled_set_self (inner.closeScope name).registry name _

/-- A declared type has its entry afterwards, made from the type if there was none before, unless the
name was only reserved. -/
theorem entry_of_includeExportedType (ordered : e.Orderly) {w after : Walk}
    (ran : e.includeExportedType type w = (.ok (), after)) :
    after.registry.has name = true ∧ (w.registry.isPlaceholder name = false →
      e.EntryOf type name w after) := by
  cases anonymous : e.isAnonymous name with
  | true =>
      have made := made_of_includeExportedType fits declares unaliased inside anonymous ran
      exact ⟨made.stands.has, fun _ => .inline made⟩
  | false =>
      obtain ⟨symbol, held, -, called⟩ := declares.1
      obtain ⟨-, -, -, reference⟩ := plain_of_declares fits declares
      unfold includeExportedType at ran
      simp only [held, called] at ran
      obtain ⟨node, between, entered, ended⟩ := of_bind_ok ran
      obtain ⟨inner, visited, rfl⟩ := of_inScope_ok entered
      have own := own_of_declares fits declares unaliased inside anonymous
      rw [own.includeType_eq] at visited
      obtain ⟨⟨r, rfl, -⟩, fresh⟩ := registered_of_makeRef ordered visited
      cases ended
      have grows := (orderly_includeType ordered type w.openScope).grows
      rw [own.includeType_eq, visited] at grows
      have grows := grows.closeScope name
      cases known : w.registry.has name with
      | true =>
          refine ⟨grows.has known, fun unreserved => ?_⟩
          rcases Walk.stands_of_has known with ⟨node, filled⟩ | reserved
          · exact .earlier filled (grows.filled name node filled)
          · rw [unreserved] at reserved
            cases reserved
      | false =>
          obtain ⟨start, body, built, made, filled⟩ := fresh known
          have made : (inner.closeScope name).Made name (e.bodyOfType type) := by
            refine ⟨body, start, built, ?_, by rwa [Walk.registry_closeScope]⟩
            rwa [entryType, reference] at made
          exact ⟨made.stands.has, fun _ => .body made⟩

end Declared

theorem isTypeSymbol_eq (symbol : Symbol) : RootKind.isTypeSymbol symbol = symbol.isTypeSymbol := by
  simp only [RootKind.isTypeSymbol, List.any_cons, List.any_nil, Symbol.isTypeSymbol, Symbol.isNominal]
  cases symbol.hasFlag .classKind <;> cases symbol.hasFlag .interface <;> simp

theorem of?_cases {symbol : Symbol} {kind : RootKind} (suited : RootKind.of? symbol = some kind) :
    match kind with
    | .default => symbol.name = RootKind.defaultName
    | .named => symbol.isTitled = true
    | .function => symbol.hasFlag .function = true
    | .type => RootKind.isTypeSymbol symbol = true
    | .value => symbol.isTitled = true := by
  have flagged := RootKind.flagged_of_of suited
  cases kind with
  | named => simp [Symbol.isTitled, show symbol.hasFlag .typeAlias = true from flagged]
  | value => simp [Symbol.isTitled, show symbol.hasFlag .variableKind = true from flagged]
  | _ => exact flagged

section Roots

variable (fits : e.program.Fits manner ages now)
include fits

theorem declaredName_eq {site : SiteId} {name found : String}
    (title : (e.program.site site).name = some name) {w after : Walk}
    (ran : e.declaredName site w = (.ok found, after)) : found = name ∧ after = w := by
  have called := (fits.sites site).called
  unfold declaredName at ran
  by_cases empty : name.isEmpty = true
  · cases held : (e.program.site site).symbol with
    | none =>
        simp only [title, held, Option.map_none, Option.filter_none, Option.filter_some, empty] at ran
        cases ran
    | some symbol =>
        simp only [title, held, Option.map_some, called symbol held name title, Option.filter_some,
          empty] at ran
        cases ran
  · simp only [title, Option.filter_some, empty] at ran
    cases ran
    exact ⟨rfl, rfl⟩

theorem made_of_includeExportedAlias {site : SiteId} {name : String}
    (title : (e.program.site site).name = some name) {w after : Walk}
    (ran : e.includeExportedAlias site w = (.ok (), after)) :
    ∃ written, after.Made name (e.exportedAlias site written name) := by
  obtain ⟨found, between, asked, entered⟩ := of_bind_ok ran
  obtain ⟨rfl, -⟩ := declaredName_eq fits title asked
  cases held : (e.program.site site).type with
  | none =>
      simp only [held] at entered
      cases entered
  | some written =>
      simp only [held] at entered
      exact ⟨written, made_of_entry entered⟩

theorem made_of_includeExportedValue {site : SiteId} {name : String}
    (title : (e.program.site site).name = some name) {w after : Walk}
    (ran : e.includeExportedValue site w = (.ok (), after)) :
    ∃ type, after.Made name (e.exportedValue site type) := by
  unfold includeExportedValue at ran
  obtain ⟨found, between, asked, entered⟩ := of_bind_ok ran
  obtain ⟨rfl, -⟩ := declaredName_eq fits title asked
  cases held : (e.program.site site).type with
  | some annotation =>
      simp only [held] at entered
      obtain ⟨type, middle, _, written⟩ := of_bind_ok entered
      exact ⟨type, made_of_entry written⟩
  | none =>
      cases initial : (e.program.site site).initializer with
      | some expression =>
          simp only [held, initial] at entered
          obtain ⟨type, middle, _, written⟩ := of_bind_ok entered
          exact ⟨type, made_of_entry written⟩
      | none =>
          simp only [held, initial] at entered
          cases entered

theorem title_of_place {symbol : SymbolId} {site : SiteId}
    (isTitled : (e.program.symbol symbol).isTitled = true)
    (first : (e.program.symbol symbol).declarations.first? = some site) :
    (e.program.site ((e.program.symbol symbol).valueDeclaration.getD site)).name =
      some (e.program.symbol symbol).name := by
  cases value : (e.program.symbol symbol).valueDeclaration with
  | none => exact (fits.symbols symbol).titled site (Or.inl ⟨isTitled, first⟩)
  | some place => exact (fits.symbols symbol).titled place (Or.inr value)

theorem declares_of_declaredType {symbol : SymbolId} {type : TypeId}
    (isType : RootKind.isTypeSymbol (e.program.symbol symbol) = true)
    (asked : e.program.declaredType (some symbol) = .ok (some type)) :
    (e.program.symbol symbol).isTypeSymbol = true ∧
      (e.program.symbol symbol).answers.declared = some (some type) ∧
        e.program.Declares type (e.program.symbol symbol).name := by
  have isTypeSymbol := (isTypeSymbol_eq _).symm.trans isType
  have answer := Program.answer_of_declaredType asked
  exact ⟨isTypeSymbol, answer, (fits.symbols symbol).declares isTypeSymbol type answer⟩

/-- What the root of a default export has done for the symbol that it names. -/
inductive Exports (e : Engine) (symbol : SymbolId) (w after : Walk) : Prop
  | named (site written : SiteId)
      (declared : e.program.firstDeclaration (some symbol) = some site)
      (made : after.Made (e.program.symbol symbol).name
        (e.exportedAlias site written (e.program.symbol symbol).name))
  | function (site : SiteId) (signature : Option SignatureId)
      (declared : (e.program.symbol symbol).valueDeclaration = some site)
      (made : after.Made (e.program.symbol symbol).name (e.exportedFunction (some site) signature))
  | type (type : TypeId) (unaliased : (e.program.symbol symbol).hasFlag .typeAlias = false)
      (uncalled : (e.program.symbol symbol).hasFlag .function = false)
      (isType : RootKind.isTypeSymbol (e.program.symbol symbol) = true)
      (declared : e.program.declaredType (some symbol) = .ok (some type))
      (ran : e.includeExportedType type w = (.ok (), after))
  | value (site : SiteId) (type : Option TypeId)
      (declared : (e.program.symbol symbol).valueDeclaration = some site)
      (made : after.Made (e.program.symbol symbol).name (e.exportedValue site type))

theorem exports_of_includeNamedDefault {symbol : SymbolId} {w after : Walk}
    (ran : e.includeNamedDefault symbol w = (.ok (), after)) : e.Exports symbol w after := by
  have titled := (fits.symbols symbol).titled
  have declared (unaliased : (e.program.symbol symbol).hasFlag .typeAlias = false)
      (uncalled : (e.program.symbol symbol).hasFlag .function = false)
      (isType : RootKind.isTypeSymbol (e.program.symbol symbol) = true)
      (ran : (do e.includeExportedType (← present (← e.program.declaredType symbol)) : Extract Unit) w =
        (.ok (), after)) : e.Exports symbol w after := by
    obtain ⟨type, same, asked, ran⟩ := of_bind_ok ran
    rw [lift_apply, Prod.mk.injEq] at asked
    obtain ⟨asked, rfl⟩ := asked
    obtain ⟨type, same, found, ran⟩ := of_bind_ok ran
    rw [lift_apply, Prod.mk.injEq] at found
    obtain ⟨found, rfl⟩ := found
    obtain rfl := of_present found
    exact .type type unaliased uncalled isType asked ran
  simp only [includeNamedDefault] at ran
  split at ran
  · rename_i aliased
    cases first : e.program.firstDeclaration (some symbol) with
    | none =>
        simp only [first] at ran
        cases ran
    | some site =>
        simp only [first] at ran
        have isTitled : (e.program.symbol symbol).isTitled = true := by simp [Symbol.isTitled, aliased]
        obtain ⟨written, made⟩ :=
          made_of_includeExportedAlias fits (titled site (Or.inl ⟨isTitled, first⟩)) ran
        exact .named site written first made
  · rename_i unaliased
    cases value : (e.program.symbol symbol).valueDeclaration with
    | none =>
        simp only [value] at ran
        split at ran
        · cases ran
        · rename_i uncalled
          split at ran
          · rename_i isType
            exact declared (eq_false_of_ne_true unaliased) (eq_false_of_ne_true uncalled) isType ran
          · cases ran
    | some site =>
        simp only [value] at ran
        split at ran
        · obtain ⟨signature, made⟩ := made_of_includeExportedFunction ran
          exact .function site signature value made
        · rename_i uncalled
          split at ran
          · rename_i isType
            exact declared (eq_false_of_ne_true unaliased) (eq_false_of_ne_true uncalled) isType ran
          · obtain ⟨type, made⟩ := made_of_includeExportedValue fits (titled site (Or.inr value)) ran
            exact .value site type value made

variable (own : e.Local)
include own

theorem stands_of_declaredType (ordered : e.Orderly) {symbol : SymbolId}
    (isType : RootKind.isTypeSymbol (e.program.symbol symbol) = true) {w after : Walk}
    (ran : (do e.includeExportedType (← present (← e.program.declaredType symbol)) : Extract Unit) w =
      (.ok (), after))
    (unreserved : w.registry.isPlaceholder (e.program.symbol symbol).name = false) :
    after.Stands (e.program.symbol symbol).name := by
  obtain ⟨declared, same, asked, ran⟩ := of_bind_ok ran
  rw [lift_apply, Prod.mk.injEq] at asked
  obtain ⟨asked, rfl⟩ := asked
  obtain ⟨type, same, found, ran⟩ := of_bind_ok ran
  rw [lift_apply, Prod.mk.injEq] at found
  obtain ⟨found, rfl⟩ := found
  obtain rfl := of_present found
  obtain ⟨isTypeSymbol, answer, declares⟩ := declares_of_declaredType fits isType asked
  exact ((entry_of_includeExportedType fits declares (own.unaliased symbol isTypeSymbol type answer)
    (own.inside _) ordered ran).2 unreserved).stands

theorem defaultsRegistered_of_local (ordered : e.Orderly) : e.DefaultsRegistered := by
  intro _ _ symbol _ _ w after ran
  cases exports_of_includeNamedDefault fits ran with
  | named _ _ _ made => exact made.stands.has
  | function _ _ _ made => exact made.stands.has
  | value _ _ _ made => exact made.stands.has
  | type type _ _ isType asked ran =>
      obtain ⟨isTypeSymbol, answer, declares⟩ := declares_of_declaredType fits isType asked
      exact (entry_of_includeExportedType fits declares
        (own.unaliased symbol isTypeSymbol type answer) (own.inside _) ordered ran).1

theorem stands_of_includeRoot (ordered : e.Orderly) {symbol : SymbolId} {kind : RootKind}
    (suited : RootKind.of? (e.program.symbol symbol) = some kind) {w after : Walk}
    (ran : e.includeRoot symbol kind w = (.ok (), after)) :
    after.Stands (e.program.symbol symbol).name ∨
      kind = .type ∧ w.registry.isPlaceholder (e.program.symbol symbol).name = true := by
  have titled := (fits.symbols symbol).titled
  have sort := of?_cases suited
  unfold includeRoot at ran
  by_cases isType : kind = .type
  · subst isType
    simp only [if_true] at ran
    cases reserved : w.registry.isPlaceholder (e.program.symbol symbol).name with
    | true => exact Or.inr ⟨rfl, rfl⟩
    | false => exact Or.inl (stands_of_declaredType fits own ordered sort ran reserved)
  · left
    simp only [isType, if_false] at ran
    cases first : (e.program.symbol symbol).declarations.first? with
    | none =>
        simp only [first] at ran
        cases ran
    | some site =>
        simp only [first] at ran
        cases kind with
        | type => exact absurd rfl isType
        | default =>
            obtain ⟨value, between, _, ran⟩ := of_bind_ok ran
            obtain ⟨comment, between, _, ran⟩ := of_bind_ok ran
            cases ran
            rw [sort]
            exact ⟨_, Registry.filled_set_self _ _ _⟩
        | named =>
            obtain ⟨written, made⟩ :=
              made_of_includeExportedAlias fits (titled site (Or.inl ⟨sort, first⟩)) ran
            exact made.stands
        | function =>
            obtain ⟨signature, made⟩ := made_of_includeExportedFunction ran
            exact made.stands
        | value =>
            obtain ⟨type, made⟩ := made_of_includeExportedValue fits (title_of_place fits sort first) ran
            exact made.stands

end Roots

end Engine

end TypeAtlas
