import TypeAtlas.Proofs.Extract.Ways

/-!
Two engines that differ in the ways on from a type only. What sequences of steps keep of two steps, one
for each of the engines, and the ways on keep, all steps of the two engines keep.
-/

namespace TypeAtlas

namespace Extract

/-- A relation of steps that sequences keep: what follows matters for the values that the first step can
have. Questions, reports and declared names are the same on both sides. -/
structure Follows (R : ∀ {α : Type}, Extract α → Extract α → Prop) : Prop where
  bind_of {α β : Type} {step other : Extract α} {next further : α → Extract β} (first : R step other)
    (rest : ∀ w value after, step w = (.ok value, after) → R (next value) (further value)) :
    R (step >>= next) (other >>= further)
  lift {α : Type} (result : Except Fault α) : R (liftM result : Extract α) (liftM result)
  emit (event : Event) : R (emit event) (emit event)
  declareLocal (name : String) : R (declareLocal name) (declareLocal name)
  count : R (modify fun w => { w with unidentified := w.unidentified + 1 } : Extract Unit)
    (modify fun w => { w with unidentified := w.unidentified + 1 })

namespace Follows

variable {R : ∀ {α : Type}, Extract α → Extract α → Prop} (follows : Follows R) {α β : Type}
include follows

theorem bind {step other : Extract α} {next further : α → Extract β} (first : R step other)
    (rest : ∀ value, R (next value) (further value)) : R (step >>= next) (other >>= further) :=
  follows.bind_of first fun _ value _ _ => rest value

theorem pure (value : α) : R (Pure.pure value : Extract α) (Pure.pure value) := follows.lift (.ok value)

theorem fail (fault : Fault) : R (fail fault : Extract α) (Extract.fail fault) :=
  follows.lift (.error fault)

theorem diagnose (d : Diagnostic) : R (diagnose d : Extract α) (Extract.diagnose d) :=
  follows.lift (.error (.diagnostic d))

theorem map {step other : Extract α} (f : α → β) (holds : R step other) :
    R (f <$> step) (f <$> other) := by
  rw [map_eq, map_eq]
  exact follows.bind holds fun value => follows.pure (f value)

theorem mapM_of {f g : α → Extract β} {items : List α} (each : ∀ item ∈ items, R (f item) (g item)) :
    R (items.mapM f) (items.mapM g) := by
  induction items with
  | nil => exact follows.pure []
  | cons item rest ih =>
      rw [List.mapM_cons, List.mapM_cons]
      refine follows.bind (each item (List.mem_cons_self ..)) fun value => ?_
      refine follows.bind (ih fun later member => each later (List.mem_cons_of_mem _ member)) ?_
      exact fun values => follows.pure (value :: values)

theorem mapM {f g : α → Extract β} {items : List α} (each : ∀ item, R (f item) (g item)) :
    R (items.mapM f) (items.mapM g) :=
  follows.mapM_of fun item _ => each item

omit follows in
theorem ite {c : Prop} [Decidable c] {step other next further : Extract α}
    (yes : c → R step other) (no : ¬c → R next further) :
    R (if c then step else next) (if c then other else further) := by
  by_cases holds : c
  · rw [if_pos holds, if_pos holds]
    exact yes holds
  · rw [if_neg holds, if_neg holds]
    exact no holds

end Follows

end Extract

open Extract

structure Going where
  visit : TypeId → Extract Node
  visitNamed : TypeId → Option String → Extract Node
  visitInline : TypeId → Extract Node
  bodyOfType : TypeId → Extract Node
  bodyOfAlias : SiteId → Extract Node

namespace Engine

def going (e : Engine) (g : Going) : Engine :=
  { e with
    visit := g.visit
    visitNamed := g.visitNamed
    visitInline := g.visitInline
    bodyOfType := g.bodyOfType
    bodyOfAlias := g.bodyOfAlias }

variable (e : Engine) {g h : Going}

@[simp] theorem going_program : (e.going g).program = e.program := rfl

@[simp] theorem going_settings : (e.going g).settings = e.settings := rfl

@[simp] theorem going_originOf (symbol : Option SymbolId) :
    (e.going g).originOf symbol = e.originOf symbol := rfl

@[simp] theorem going_isAnonymous (name : String) : (e.going g).isAnonymous name = e.isAnonymous name :=
  rfl

@[simp] theorem going_containerFrom (hops : Nat) (site : Option SiteId) :
    (e.going g).containerFrom hops site = e.containerFrom hops site := by
  induction hops generalizing site with
  | zero => rfl
  | succ hops ih =>
      cases site with
      | none => rfl
      | some id => simp only [containerFrom, going_program, ih]

@[simp] theorem going_trimDefaults (ids : List Int) (params : List (Option SiteId))
    (types : List Node) : (e.going g).trimDefaults ids params types = e.trimDefaults ids params types := by
  induction params generalizing types with
  | nil => rfl
  | cons param earlier ih =>
      simp only [trimDefaults, ih]
      rfl

@[simp] theorem going_normalizeArguments (type : TypeId) (params : Slots SiteId) (types : List Node)
    (name : String) :
    (e.going g).normalizeArguments type params types name =
      e.normalizeArguments type params types name := by
  simp only [normalizeArguments, going_trimDefaults]
  rfl

@[simp] theorem going_inheritedIdsFrom (registry : Registry) (fuel : Nat) (edges : List Node)
    (seen : List String) :
    (e.going g).inheritedIdsFrom registry fuel edges seen =
      e.inheritedIdsFrom registry fuel edges seen := by
  induction fuel generalizing edges seen with
  | zero => rfl
  | succ fuel ih =>
      cases edges with
      | nil => rfl
      | cons edge rest =>
          cases edge with
          | ref edge =>
              simp only [inheritedIdsFrom, ih]
              rfl
          | _ => exact ih rest seen

@[simp] theorem going_inheritedIds (registry : Registry) (edges : List Node) :
    (e.going g).inheritedIds registry edges = e.inheritedIds registry edges :=
  e.going_inheritedIdsFrom registry _ edges []

def includeTitled (type : TypeId) : Option String → Extract Node
  | none => e.includeInline type
  | some name =>
    if name.isEmpty then e.includeInline type
    else if (e.program.type type).alias?.isSome &&
        (e.program.type type).alias? != (e.program.type type).symbol then e.makeAliasRef type name
    else do
      match ← e.includeExternal type with
      | some node => pure node
      | none =>
        if e.isAnonymous name || (e.program.type type).isAnonymousObject then e.includeInline type
        else e.makeRef (some type) name

theorem includeKnown_of_parameter {type : TypeId} {symbol : SymbolId} (name : Option String)
    (parameter : (e.program.type type).isTypeParameter = true)
    (held : (e.program.type type).symbol = some symbol) :
    e.includeKnown type name =
      (do return .ref (← typeParameterRef (e.program.symbol symbol).name)) := by
  simp only [includeKnown]
  split
  · rename_i other _ found
    rw [held, Option.some_inj] at found
    rw [found]
  · rename_i other
    exact absurd held (other symbol parameter)

theorem includeKnown_of_other {type : TypeId} (name : Option String)
    (other : (e.program.type type).isTypeParameter = false ∨ (e.program.type type).symbol = none) :
    e.includeKnown type name = e.includeTitled type name := by
  simp only [includeKnown]
  split
  · rename_i symbol parameter held
    rcases other with other | other
    · rw [parameter] at other
      cases other
    · rw [held] at other
      cases other
  · cases name <;> rfl

/-- The members of a shape, once it is known which of them are inherited. -/
def shapeOf (type : TypeId) (heritage : Heritage) (inherited : List Int)
    (listed : List (Option SymbolId)) : Extract (Node.Shape Node) := do
  let p := e.program
  let info := p.type type
  let props ← listed.mapM (e.includeOwn inherited)
  let numberIndex ← e.includeOwnIndex type heritage.edges .number
  let stringIndex ← e.includeOwnIndex type heritage.edges .string
  let calls ← (← info.callSignatures.each).mapM fun signature => do
    return Node.function (← e.includeSignature signature)
  let comment ← p.comment info.symbol
  let types ← e.includeTypeParameters info.typeParameters
  pure
    { bases := heritage.bases, props := props.flatten ++ numberIndex ++ stringIndex ++ calls, types,
      comment }

theorem includeShape_eq (type : TypeId) (heritage : Heritage) :
    e.includeShape type heritage = (do
      let w ← get
      let inherited ← e.inheritedIds w.registry heritage.edges
      let listed ← (e.program.type type).properties.each
      e.shapeOf type heritage inherited listed) :=
  rfl

/-- A class, once its shape is there. -/
def classOf (type : TypeId) (heritage : Heritage) (shape : Node.Shape Node) : Extract Node := do
  let p := e.program
  let exported ← match (p.type type).symbol with
    | some symbol => (p.symbol symbol).exports.each
    | none => pure []
  let statics ← exported.mapM e.includeStatic
  let constructors ← e.includeConstructors type
  pure (.classShape { shape with props := shape.props ++ statics.flatten ++ constructors }
    heritage.implemented)

theorem includeClass_eq (type : TypeId) : e.includeClass type = (do
    let heritage ← e.includeHeritage type
    let shape ← e.includeShape type heritage
    e.classOf type heritage shape) :=
  rfl

/-- The ways on of two engines are related. A type that is written by a name goes on by that name. -/
structure Pairs (e : Engine) (g h : Going) (R : ∀ {α : Type}, Extract α → Extract α → Prop) : Prop
    extends Follows R where
  visit : ∀ type, R (g.visit type) (h.visit type)
  visitInline : ∀ type, R (g.visitInline type) (h.visitInline type)
  visitNamed : ∀ site type, e.program.isReferenceSite site = true →
    e.program.typeAt site = .ok (some type) →
    R (g.visitNamed type (site.bind fun id => (e.program.site id).name))
      (h.visitNamed type (site.bind fun id => (e.program.site id).name))

namespace Pairs

variable {e} {R : ∀ {α : Type}, Extract α → Extract α → Prop} (pairs : e.Pairs g h R)
include pairs

theorem visitPresent (type : Option TypeId) :
    R ((e.going g).visitPresent type) ((e.going h).visitPresent type) :=
  pairs.bind (pairs.lift _) pairs.visit

theorem visitAll (types : List (Option TypeId)) :
    R ((e.going g).visitAll types) ((e.going h).visitAll types) :=
  pairs.mapM pairs.visitPresent

theorem unidentified (type : TypeId) :
    R ((e.going g).unidentified type) ((e.going h).unidentified type) :=
  pairs.bind pairs.count fun _ => pairs.bind (pairs.emit _) fun _ => pairs.pure _

theorem includeHidden (type : TypeId) :
    R ((e.going g).includeHidden type) ((e.going h).includeHidden type) := by
  simp only [Engine.includeHidden, going_program, going_settings, going_originOf, going_isAnonymous,
    going_containerFrom]
  cases (e.program.type type).symbol with
  | none => exact pairs.pure none
  | some symbol =>
      refine Follows.ite (fun _ => pairs.pure none) fun _ => ?_
      cases e.containerFrom e.settings.maxHops _ with
      | none => exact pairs.pure none
      | some container =>
          refine pairs.bind (pairs.emit _) fun _ => pairs.bind (pairs.lift _) fun declared => ?_
          exact pairs.map _ (pairs.visitPresent declared)

theorem keyofNode (operand : Option TypeId) :
    R ((e.going g).keyofNode operand) ((e.going h).keyofNode operand) :=
  pairs.bind (pairs.visitPresent operand) fun _ => pairs.pure _

theorem unionNode (types : List (Option TypeId)) :
    R ((e.going g).unionNode types) ((e.going h).unionNode types) :=
  pairs.bind (pairs.visitAll types) fun _ => pairs.pure _

theorem includeIndex (type : Option TypeId) :
    R ((e.going g).includeIndex type) ((e.going h).includeIndex type) := by
  cases type with
  | none => exact pairs.pure none
  | some id =>
      simp only [Engine.includeIndex, going_program]
      cases (e.program.type id).keyofOperand? with
      | some operand => exact pairs.map _ (pairs.keyofNode operand)
      | none => exact pairs.map _ (pairs.visit id)

theorem includeWritten (site : Option SiteId) :
    R ((e.going g).includeWritten site) ((e.going h).includeWritten site) := by
  cases site with
  | none => exact pairs.pure none
  | some id =>
      refine Follows.ite (fun _ => ?_) fun _ => Follows.ite (fun _ => ?_) fun _ => pairs.pure none
      · exact pairs.bind (pairs.lift _) fun operand => pairs.map _ (pairs.keyofNode operand)
      · refine pairs.bind (pairs.lift _) fun parts => ?_
        refine pairs.bind (pairs.mapM fun part => pairs.lift _) fun types => ?_
        exact pairs.map _ (pairs.unionNode types)

theorem includeWrittenOrInline (site : Option SiteId) :
    R ((e.going g).includeWrittenOrInline site) ((e.going h).includeWrittenOrInline site) := by
  refine pairs.bind (pairs.includeWritten site) fun written => ?_
  cases written with
  | some node => exact pairs.pure node
  | none =>
      exact pairs.bind (pairs.lift _) fun type => pairs.bind (pairs.lift _) fun type =>
        pairs.visitInline type

theorem includeMember (type : Option TypeId) :
    R ((e.going g).includeMember type) ((e.going h).includeMember type) :=
  pairs.bind (pairs.lift _) fun type => pairs.bind (pairs.visitInline type) fun _ =>
    pairs.bind (pairs.lift _) fun _ => pairs.pure _

theorem includeTerminal (info : TypeInfo) (terminal : Terminal) :
    R ((e.going g).includeTerminal info terminal) ((e.going h).includeTerminal info terminal) := by
  have each (value : Option TypeId) := pairs.visitPresent value
  have members (types : List (Option TypeId)) :
      R (types.mapM (e.going g).includeMember) (types.mapM (e.going h).includeMember) :=
    pairs.mapM pairs.includeMember
  cases terminal with
  | enumLiteral =>
      refine pairs.bind (pairs.lift _) fun _ => pairs.bind (pairs.lift _) fun types => ?_
      exact pairs.bind (members types) fun _ => pairs.pure _
  | enumeration =>
      refine pairs.bind (pairs.lift _) fun _ => pairs.bind (pairs.lift _) fun types => ?_
      exact pairs.bind (members types) fun _ => pairs.pure _
  | conditional =>
      refine pairs.bind (each _) fun _ => pairs.bind (each _) fun _ => ?_
      exact pairs.bind (each _) fun _ => pairs.bind (each _) fun _ => pairs.pure _
  | substitution => exact pairs.bind (each _) fun _ => pairs.pure _
  | literal =>
      simp only [Engine.includeTerminal]
      cases info.value with
      | none => exact pairs.fail _
      | some value => exact pairs.pure _
  | _ => exact pairs.pure _

theorem includeBasic (type : TypeId) :
    R ((e.going g).includeBasic type) ((e.going h).includeBasic type) := by
  simp only [Engine.includeBasic, going_program]
  cases Terminal.ofFlags? (e.program.type type).flags with
  | some terminal => exact pairs.map _ (pairs.includeTerminal _ terminal)
  | none => exact pairs.pure none

theorem includeConstraint (type : TypeId) :
    R ((e.going g).includeConstraint type) ((e.going h).includeConstraint type) := by
  simp only [Engine.includeConstraint, going_program]
  cases (e.program.firstDeclaration (e.program.type type).symbol).bind _ with
  | some written =>
      refine Follows.ite (fun _ => ?_) fun _ => ?_
      · exact pairs.bind (pairs.lift _) fun operand => pairs.map _ (pairs.keyofNode operand)
      · exact pairs.bind (pairs.lift _) fun bound => pairs.map _ (pairs.visitPresent bound)
  | none =>
      cases (e.program.type type).constraint with
      | some bound => exact pairs.map _ (pairs.visit bound)
      | none => exact pairs.pure none

theorem includeDefault (type : TypeId) :
    R ((e.going g).includeDefault type) ((e.going h).includeDefault type) := by
  simp only [Engine.includeDefault, going_program]
  cases (e.program.firstDeclaration (e.program.type type).symbol).bind _ with
  | some written =>
      exact pairs.bind (pairs.lift _) fun fallback => pairs.map _ (pairs.visitPresent fallback)
  | none => exact pairs.pure none

theorem includeTypeParameter (type : TypeId) :
    R ((e.going g).includeTypeParameter type) ((e.going h).includeTypeParameter type) := by
  simp only [Engine.includeTypeParameter, going_program]
  cases (e.program.type type).symbol with
  | none => exact pairs.pure none
  | some symbol =>
      refine pairs.bind (pairs.bind (pairs.declareLocal _) fun _ => pairs.pure _) fun parameter => ?_
      refine pairs.bind (pairs.includeConstraint type) fun constraint => ?_
      exact pairs.bind (pairs.includeDefault type) fun default => pairs.pure _

theorem includeTypeParameters (params : Slots TypeId) :
    R ((e.going g).includeTypeParameters params) ((e.going h).includeTypeParameters params) :=
  pairs.bind (pairs.mapM fun _ => pairs.bind (pairs.lift _) fun type =>
    pairs.includeTypeParameter type) fun _ => pairs.pure _

theorem declaredTypeParameters (site : SiteId) :
    R ((e.going g).declaredTypeParameters site) ((e.going h).declaredTypeParameters site) :=
  pairs.bind (pairs.lift _) fun _ => pairs.bind (pairs.mapM fun _ => pairs.lift _) fun _ =>
    pairs.includeTypeParameters _

theorem includeAnnotation (site : Option SiteId) :
    (R <| Engine.includeAnnotation (e.going g) site) <| Engine.includeAnnotation (e.going h) site := by
  simp only [going_program, Engine.includeAnnotation]
  refine Follows.ite (fun reference => ?_) fun _ => ?_
  · refine pairs.bind_of (pairs.lift _) fun _ type _ asked => ?_
    refine pairs.bind_of (pairs.lift _) fun _ id _ found => ?_
    rw [lift_apply, Prod.mk.injEq] at asked found
    obtain rfl := of_present found.1
    exact pairs.visitNamed site id reference asked.1
  · cases e.program.isInferSite site with
    | false => exact pairs.includeWrittenOrInline site
    | true =>
        cases site.bind fun id => (e.program.site id).typeParameter with
        | none => exact pairs.includeWrittenOrInline site
        | some declared =>
            dsimp only
            cases (e.program.site declared).symbol with
            | none => exact pairs.diagnose _
            | some symbol =>
                refine pairs.bind (pairs.lift _) fun type => ?_
                exact pairs.bind (pairs.visitPresent type) fun _ => pairs.pure _

theorem includeParameter (param : Option SymbolId) :
    R ((e.going g).includeParameter param) ((e.going h).includeParameter param) := by
  refine pairs.bind (pairs.lift _) fun param => ?_
  simp only [going_program]
  cases (e.program.symbol param).valueDeclaration with
  | none => exact pairs.diagnose _
  | some site =>
      dsimp only
      cases (e.program.site site).type with
      | none => exact pairs.diagnose _
      | some annotation =>
          have value := pairs.includeAnnotation (some annotation)
          exact pairs.bind value fun value => pairs.lift _

theorem includeSignature (signature : Option SignatureId) :
    R ((e.going g).includeSignature signature) ((e.going h).includeSignature signature) := by
  refine pairs.bind (pairs.lift _) fun id => ?_
  refine pairs.bind (pairs.includeTypeParameters _) fun types => ?_
  refine pairs.bind (pairs.lift _) fun params => ?_
  refine pairs.bind (pairs.mapM pairs.includeParameter) fun parameters => ?_
  exact pairs.bind (pairs.visitPresent _) fun returns => pairs.pure _

theorem includeConstructors (type : TypeId) :
    R ((e.going g).includeConstructors type) ((e.going h).includeConstructors type) := by
  refine pairs.bind (pairs.lift _) fun sites => pairs.mapM fun site => ?_
  refine pairs.bind (pairs.lift _) fun signature => ?_
  exact pairs.bind (pairs.includeSignature signature) fun callable => pairs.pure _

theorem includePropValue (prop : SymbolId) :
    R ((e.going g).includePropValue prop) ((e.going h).includePropValue prop) := by
  simp only [Engine.includePropValue, going_program]
  cases e.program.firstDeclaration (some prop) with
  | none => exact pairs.diagnose _
  | some site =>
      refine Follows.ite (fun _ => ?_) fun _ => ?_
      · refine pairs.bind (pairs.lift _) fun signature => ?_
        exact pairs.bind (pairs.includeSignature signature) fun callable => pairs.pure _
      · refine pairs.bind (pairs.includeWritten _) fun written => ?_
        cases written with
        | some node => exact pairs.pure node
        | none => exact pairs.bind (pairs.lift _) fun type => pairs.visitPresent type

theorem includeProp (prop : SymbolId) :
    R ((e.going g).includeProp prop) ((e.going h).includeProp prop) := by
  refine pairs.bind (pairs.lift _) fun modifiers => pairs.bind (pairs.lift _) fun comment => ?_
  exact pairs.bind (pairs.includePropValue prop) fun value => pairs.pure _

theorem includeOwnIndex (type : TypeId) (edges : List Node) (kind : IndexKind) :
    R ((e.going g).includeOwnIndex type edges kind) ((e.going h).includeOwnIndex type edges kind) := by
  simp only [Engine.includeOwnIndex, going_program]
  cases e.program.indexTypeOf kind type with
  | none => exact pairs.pure _
  | some value =>
      refine Follows.ite (fun _ => pairs.pure _) fun _ => ?_
      refine pairs.bind (pairs.bind (pairs.lift _) fun name => ?_) fun member => pairs.pure _
      exact pairs.bind (pairs.visit value) fun _ => pairs.pure _

theorem includeOwn (inherited : List Int) (prop : Option SymbolId) :
    R ((e.going g).includeOwn inherited prop) ((e.going h).includeOwn inherited prop) := by
  refine pairs.bind (pairs.lift _) fun prop => Follows.ite (fun _ => pairs.pure _) fun _ => ?_
  exact pairs.bind (pairs.includeProp prop) fun member => pairs.pure _

theorem includeStatic (member : Option SymbolId) :
    R ((e.going g).includeStatic member) ((e.going h).includeStatic member) := by
  refine pairs.bind (pairs.lift _) fun member => ?_
  simp only [going_program]
  cases e.program.isPrototype member with
  | true => exact pairs.pure _
  | false =>
      cases (e.program.symbol member).valueDeclaration with
      | none => exact pairs.pure _
      | some site => exact pairs.bind (pairs.includeProp _) fun node => pairs.pure _

theorem shapeOf (type : TypeId) (heritage : Heritage) (inherited : List Int)
    (listed : List (Option SymbolId)) :
    R ((e.going g).shapeOf type heritage inherited listed)
      ((e.going h).shapeOf type heritage inherited listed) := by
  refine pairs.bind (pairs.mapM (pairs.includeOwn inherited)) fun props => ?_
  refine pairs.bind (pairs.includeOwnIndex type _ .number) fun numberIndex => ?_
  refine pairs.bind (pairs.includeOwnIndex type _ .string) fun stringIndex => ?_
  refine pairs.bind (pairs.lift _) fun signatures => ?_
  refine pairs.bind (pairs.mapM fun signature => ?_) fun calls => ?_
  · exact pairs.bind (pairs.includeSignature signature) fun _ => pairs.pure _
  · refine pairs.bind (pairs.lift _) fun comment => ?_
    exact pairs.bind (pairs.includeTypeParameters _) fun types => pairs.pure _

theorem classOf (type : TypeId) (heritage : Heritage) (shape : Node.Shape Node) :
    R ((e.going g).classOf type heritage shape) ((e.going h).classOf type heritage shape) := by
  have each (exported : List (Option SymbolId)) : R (exported.mapM (e.going g).includeStatic)
      (exported.mapM (e.going h).includeStatic) := pairs.mapM pairs.includeStatic
  have members (exported : List (Option SymbolId)) := pairs.bind (each exported) fun statics =>
    pairs.bind (pairs.includeConstructors type) fun constructors =>
      pairs.pure (Node.classShape
        { shape with props := shape.props ++ statics.flatten ++ constructors } heritage.implemented)
  simp only [Engine.classOf, going_program]
  cases (e.program.type type).symbol with
  | none => exact pairs.bind (pairs.pure _) members
  | some symbol => exact pairs.bind (pairs.lift _) members

theorem includeMapped (type : TypeId) :
    R ((e.going g).includeMapped type) ((e.going h).includeMapped type) := by
  simp only [Engine.includeMapped, going_program]
  cases (e.program.type type).typeParameter with
  | none => exact pairs.diagnose _
  | some key =>
      cases e.program.firstDeclaration (e.program.type type).symbol with
      | none => exact pairs.diagnose _
      | some site =>
          dsimp only
          cases (e.program.type key).symbol with
          | none => exact pairs.diagnose _
          | some symbol =>
              cases (e.program.site site).type with
              | none => exact pairs.diagnose _
              | some written =>
                  refine pairs.bind (pairs.declareLocal _) fun _ => ?_
                  refine pairs.bind (pairs.lift _) fun value => ?_
                  refine pairs.bind (pairs.lift _) fun comment => ?_
                  refine pairs.bind (pairs.includeConstraint key) fun constraint => ?_
                  refine pairs.bind (pairs.visitPresent value) fun _ => ?_
                  exact pairs.bind (pairs.lift _) fun _ => pairs.pure _

theorem includeClauses {declaration : SiteId} {clauses : List HeritageClause}
    (held : clauses ⊆ (e.program.site declaration).heritage)
    (base : ∀ clause ∈ (e.program.site declaration).heritage, ∀ site ∈ clause.types,
      R ((e.going g).includeBase site) ((e.going h).includeBase site)) :
    R ((e.going g).includeClauses clauses) ((e.going h).includeClauses clauses) := by
  induction clauses with
  | nil => exact pairs.pure _
  | cons clause rest ih =>
      refine pairs.bind (pairs.mapM_of (base clause (held (List.mem_cons_self ..)))) fun items => ?_
      refine pairs.bind (ih fun later member => held (List.mem_cons_of_mem _ member)) fun others => ?_
      cases clause.token <;> exact pairs.pure _

theorem includeHeritage (type : TypeId)
    (base : ∀ declaration, ∀ clause ∈ (e.program.site declaration).heritage, ∀ site ∈ clause.types,
      R ((e.going g).includeBase site) ((e.going h).includeBase site)) :
    R ((e.going g).includeHeritage type) ((e.going h).includeHeritage type) := by
  simp only [Engine.includeHeritage, going_program]
  cases e.program.firstDeclaration (e.program.type type).symbol with
  | none => exact pairs.pure _
  | some site =>
      refine Follows.ite (fun _ => ?_) fun _ => pairs.pure _
      exact pairs.includeClauses (List.Subset.refl _) (base site)

theorem includeNamed {type : TypeId}
    (object : R ((e.going g).includeObject type) ((e.going h).includeObject type)) :
    R ((e.going g).includeNamed type) ((e.going h).includeNamed type) := by
  refine pairs.bind (pairs.includeBasic type) fun described => ?_
  cases described with
  | some node => exact pairs.pure node
  | none =>
      refine pairs.bind object fun described => ?_
      cases described with
      | some node => exact pairs.pure node
      | none => exact pairs.unidentified type

end Pairs

/-- An instantiation of a declared type. -/
def isInstance (type : TypeId) : Bool :=
  (e.program.type type).isReference && (e.program.type type).symbol.isSome

theorem isInstance_of_includeCombinator {type : TypeId} {w after : Walk}
    (ran : e.includeCombinator type w = (.ok none, after)) : e.isInstance type = false := by
  cases instance_ : e.isInstance type with
  | false => rfl
  | true =>
      exfalso
      rw [isInstance] at instance_
      rw [includeCombinator] at ran
      by_cases tuple : e.program.isTuple (e.program.type type) = true
      · rw [if_pos tuple] at ran
        obtain ⟨_, _, -, ran⟩ := of_bind_ok ran
        cases ran
      · rw [if_neg tuple, if_pos instance_, map_eq] at ran
        obtain ⟨_, _, -, ran⟩ := of_bind_ok ran
        cases ran

structure Courses (e : Engine) (g h : Going) (R : ∀ {α : Type}, Extract α → Extract α → Prop) : Prop
    extends e.Pairs g h R where
  reference : ∀ type, e.isInstance type = true →
    R ((e.going g).includeReference type) ((e.going h).includeReference type)
  object : ∀ type, e.isInstance type = false →
    R ((e.going g).includeObject type) ((e.going h).includeObject type)

namespace Courses

variable {e} {R : ∀ {α : Type}, Extract α → Extract α → Prop} (courses : e.Courses g h R)
include courses

theorem includeCombinator (type : TypeId) :
    R ((e.going g).includeCombinator type) ((e.going h).includeCombinator type) := by
  simp only [Engine.includeCombinator, going_program]
  refine Follows.ite (fun _ => ?_) fun _ => Follows.ite (fun instantiated => ?_) fun _ =>
    Follows.ite (fun _ => ?_) fun _ => Follows.ite (fun _ => ?_) fun _ =>
    Follows.ite (fun _ => ?_) fun _ => courses.pure none
  · exact courses.bind (courses.visitAll _) fun _ => courses.pure _
  · exact courses.map _ (courses.reference type instantiated)
  · exact courses.bind (courses.lift _) fun types => courses.map _ (courses.unionNode types)
  · refine courses.bind (courses.lift _) fun types => ?_
    exact courses.bind (courses.visitAll types) fun _ => courses.pure _
  · refine courses.bind (courses.includeIndex _) fun index => ?_
    cases (e.program.type type).objectType with
    | some object => exact courses.bind (courses.map _ (courses.visit object)) fun _ => courses.pure _
    | none => exact courses.bind (courses.pure none) fun _ => courses.pure _

theorem includeInline (type : TypeId) :
    R ((e.going g).includeInline type) ((e.going h).includeInline type) := by
  refine courses.bind (courses.includeBasic type) fun described => ?_
  cases described with
  | some node => exact courses.pure node
  | none =>
      refine courses.bind_of (courses.includeCombinator type) fun _ described _ ran => ?_
      cases described with
      | some node => exact courses.pure node
      | none =>
          refine courses.bind (courses.includeHidden type) fun described => ?_
          cases described with
          | some node => exact courses.pure node
          | none =>
              refine courses.bind (courses.object type (isInstance_of_includeCombinator (e.going g) ran)) ?_
              intro described
              cases described with
              | some node => exact courses.pure node
              | none => exact courses.unidentified type

theorem aliasBody (site : SiteId) :
    R ((e.going g).aliasBody site) ((e.going h).aliasBody site) := by
  refine courses.bind (courses.lift _) fun comment => ?_
  refine courses.bind (courses.declaredTypeParameters site) fun types => ?_
  refine courses.bind (courses.lift _) fun type => courses.bind (courses.lift _) fun type => ?_
  exact courses.bind (courses.includeInline type) fun child => courses.pure _

/-- What a type that goes by a name comes to. It is only made into an entry when nothing outside stands
for it. -/
theorem includeKnown (type : TypeId) (name : Option String)
    (external : R ((e.going g).includeExternal type) ((e.going h).includeExternal type))
    (aliased : ∀ given, name = some given →
      R ((e.going g).makeAliasRef type given) ((e.going h).makeAliasRef type given))
    (made : ∀ given, name = some given → given.isEmpty = false →
      ((e.program.type type).alias?.isSome && (e.program.type type).alias? !=
        (e.program.type type).symbol) = false →
      (e.isAnonymous given || (e.program.type type).isAnonymousObject) = false →
      (∃ w after, (e.going g).includeExternal type w = (.ok none, after)) →
      R ((e.going g).makeRef (some type) given) ((e.going h).makeRef (some type) given)) :
    R ((e.going g).includeKnown type name) ((e.going h).includeKnown type name) := by
  by_cases other : (e.program.type type).isTypeParameter = false ∨ (e.program.type type).symbol = none
  · rw [includeKnown_of_other (e.going g) name other, includeKnown_of_other (e.going h) name other]
    cases name with
    | none => exact courses.includeInline type
    | some given =>
        refine Follows.ite (fun _ => courses.includeInline type) fun nonempty =>
          Follows.ite (fun _ => aliased given rfl) fun plain => ?_
        refine courses.bind_of external fun w outside after asked => ?_
        cases outside with
        | some node => exact courses.pure node
        | none =>
            refine Follows.ite (fun _ => courses.includeInline type) fun titled => ?_
            exact made given rfl (Bool.eq_false_iff.mpr nonempty) (Bool.eq_false_iff.mpr plain)
              (Bool.eq_false_iff.mpr titled) ⟨w, after, asked⟩
  · simp only [not_or, Bool.not_eq_false] at other
    obtain ⟨symbol, held⟩ := Option.ne_none_iff_exists'.mp other.2
    rw [includeKnown_of_parameter (e.going g) name other.1 held,
      includeKnown_of_parameter (e.going h) name other.1 held]
    refine courses.bind (courses.bind (courses.declareLocal _) fun _ => courses.pure _) fun _ => ?_
    exact courses.pure _

theorem includeType {type : TypeId}
    (known : R ((e.going g).includeKnown type (e.nameOf (e.program.type type)))
      ((e.going h).includeKnown type (e.nameOf (e.program.type type)))) :
    R ((e.going g).includeType type) ((e.going h).includeType type) := by
  simp only [Engine.includeType, going_program]
  cases (e.program.type type).keyofOperand? with
  | some operand => exact courses.keyofNode operand
  | none => exact known

end Courses

end Engine

end TypeAtlas
