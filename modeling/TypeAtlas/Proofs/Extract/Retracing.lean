import TypeAtlas.Proofs.Extract.Repeats

/-!
Types repeated in another order. Which members of a type are inherited is settled by the program: the
bases of a type are known when it is described, whether or not they had been described before.
-/

namespace TypeAtlas

open Extract

namespace Engine

section Shapes

variable {e : Engine} {final w : Walk} {manner : Manner} {ages : Ages} {now : Nat} {rank : TypeId → Nat}
  (steady : e.Steady manner ages now rank)

/-- Only types are described as shapes. -/
theorem Builds.plain {name : String} {maker : Maker} {step : Engine → Extract Node}
    (builds : e.Builds name maker step)
    (other : ∀ type, maker ≠ .type type) {entries : Nat} {built : Walk} {node : Node}
    (ran : step (e.opening entries) w = (.ok node, built)) : node.isShape = false := by
  cases builds with
  | type type => exact absurd rfl (other type)
  | @aliasBody _ _ site => exact plain_of_aliasBody site w node built ran
  | writtenAlias _ right =>
      obtain ⟨comment, _, -, ran⟩ := of_bind_ok ran
      obtain ⟨types, _, -, ran⟩ := of_bind_ok ran
      obtain ⟨child, _, -, ran⟩ := of_bind_ok ran
      cases ran
      rfl
  | function stands each =>
      obtain ⟨callable, _, -, ran⟩ := of_bind_ok ran
      obtain ⟨site, _, -, ran⟩ := of_bind_ok ran
      obtain ⟨comment, _, -, ran⟩ := of_bind_ok ran
      cases ran
      rfl
  | value stands =>
      obtain ⟨comment, _, -, ran⟩ := of_bind_ok ran
      obtain ⟨type, _, -, ran⟩ := of_bind_ok ran
      obtain ⟨value, _, -, ran⟩ := of_bind_ok ran
      cases ran
      rfl
  | expression stands =>
      obtain ⟨type, _, -, ran⟩ := of_bind_ok ran
      obtain ⟨value, _, -, ran⟩ := of_bind_ok ran
      cases ran
      rfl
  | default site =>
      obtain ⟨value, _, -, ran⟩ := of_bind_ok ran
      obtain ⟨comment, _, -, ran⟩ := of_bind_ok ran
      cases ran
      rfl

include steady

theorem upright_of_proper (proper : w.Proper e final) : e.Upright w.registry where
  flat := proper.flat
  linked name node shape held := by
    cases proper.noted name node (proper.reached.bare.filled shape held) with
    | imported claims =>
        generalize same : Maker.imported node = maker at claims
        cases claims <;> cases same
        cases shape
    | @made _ _ maker step entries _ _ claims builds _ _ _ _ _ ran =>
        by_cases other : ∀ type, maker ≠ .type type
        · rw [builds.plain other ran] at shape
          cases shape
        · rw [not_forall] at other
          obtain ⟨type, same⟩ := other
          obtain rfl := not_not.mp same
          cases builds
          cases claims with
          | type enters made domestic =>
              rw [opening, going_opened] at ran
              have founded := founded_inner e (depthBound e.program) entries (depthBound e.program)
              have object := object_of_includeNamed (orderly_inner _ _ _ _ _ _) ran shape
              rw [founded.program] at object
              refine ⟨_, enters.registers (isObject_of_entryType object), fun nominal => ?_⟩
              exact links_of_includeNamed founded steady.fits steady.suits nominal ran

omit steady in
/-- Which members of a type are inherited does not depend on when the search along its edges is made. -/
def Settled (e : Engine) (type : TypeId) (edges : List Node) : Prop :=
  ∃ own : SymbolId → Bool, ∀ earlier later : Registry, earlier.KeepsShapes later → e.Upright later →
    ∃ inherited, e.inheritedIds earlier edges = .ok inherited ∧
      ∀ member, some member ∈ (e.program.type type).properties.slots →
        (!inherited.contains (e.program.memberId member)) = own member

omit steady in
theorem settled_nil (type : TypeId) : e.Settled type [] :=
  ⟨fun _ => true, fun _ _ _ _ => ⟨[], rfl, fun _ _ => rfl⟩⟩

theorem settled_of_links {type : TypeId} (nominal : (e.program.type type).isNominal = true)
    {edges : List Node} (links : e.Links (e.Derives type) edges) : e.Settled type edges := by
  refine ⟨e.program.isOwn type, fun earlier later keeps upright => ?_⟩
  obtain ⟨inherited, found⟩ : ∃ inherited, e.inheritedIds earlier edges = .ok inherited :=
    exists_inheritedIds_iff.mpr (canCollect_iff.mp fun _ type _ _ _ => steady.listed type)
  exact ⟨inherited, found, fun member present =>
    not_contains_of_inheritedIds upright steady.distinct steady.lineal steady.fits keeps links nominal found
      present⟩

omit steady in
theorem settled_of_empty {type : TypeId} {g : Going} {w after : Walk} {heritage : Heritage}
    (empty : ∀ site, e.program.firstDeclaration (e.program.type type).symbol = some site →
      e.program.hasKind [.interfaceDeclaration, .classDeclaration] (some site) = false)
    (ran : (e.going g).includeHeritage type w = (.ok heritage, after)) :
    e.Settled type heritage.edges := by
  cases declared : e.program.firstDeclaration (e.program.type type).symbol with
  | none =>
      simp only [includeHeritage, going_program, declared] at ran
      cases ran
      exact settled_nil type
  | some site =>
      simp only [includeHeritage, going_program, declared, empty site declared] at ran
      cases ran
      exact settled_nil type

/-- What is declared as an interface or a class is one, unless it is an instantiation. -/
theorem undeclared_of_shaped {type : TypeId} (shaped : e.Shaped type)
    (other : (e.program.type type).isNominal = false) {site : SiteId}
    (declared : e.program.firstDeclaration (e.program.type type).symbol = some site) :
    e.program.hasKind [.interfaceDeclaration, .classDeclaration] (some site) = false := by
  by_contra kind
  rw [Bool.not_eq_false] at kind
  obtain ⟨symbol, held, first⟩ := Option.bind_eq_some_iff.mp declared
  have stands := ((steady.fits.symbols symbol).first site first).2
  have nominal : (e.program.symbol symbol).isNominal = true := by
    have kinds : (e.program.site site).kind = .interfaceDeclaration ∨
        (e.program.site site).kind = .classDeclaration := by
      simpa [Program.hasKind] using kind
    rcases kinds with same | same <;> rw [same] at stands <;> exact stands
  obtain ⟨flags, nominal | flagged⟩ := (steady.fits.types type).declared symbol held nominal
  · rw [other] at nominal
    cases nominal
  · have instance_ : e.isInstance type = true := by
      simp [isInstance, held, TypeInfo.isReference, TypeInfo.isObject, TypeInfo.hasFlag,
        TypeInfo.hasObjectFlag, flags, flagged]
    rw [shaped instance_] at other
    cases other

theorem settled_of_includeHeritage {type : TypeId} (shaped : e.Shaped type) {g : Going}
    (founded : (e.going g).Founded e) {w after : Walk} {heritage : Heritage}
    (ran : (e.going g).includeHeritage type w = (.ok heritage, after)) :
    e.Settled type heritage.edges := by
  cases nominal : (e.program.type type).isNominal with
  | true =>
      have suits (token : HeritageToken) (base : TypeId) (stands : e.AtHeritage type token base) :
          e.Suited base := by
        obtain ⟨declaration, -, -, stands⟩ := stands
        exact steady.suits declaration token base stands
      have links := links_of_includeHeritage founded steady.fits suits ran
      refine settled_of_links steady nominal ?_
      cases isClass : (e.program.type type).isClass with
      | true =>
          refine ((links .bases).append (links .implemented)).congr fun base => ?_
          rw [derives_iff nominal, isClass]
          simp
      | false =>
          have only := (steady.lineal.onlyExtends type nominal).resolve_left (by simp [isClass])
          have none := implemented_of_includeHeritage (e := e.going g) only ran
          rw [Heritage.edges, none, List.append_nil]
          refine (links .bases).congr fun base => ?_
          rw [derives_iff nominal, isClass]
          simp
  | false =>
      exact settled_of_empty (fun site declared => undeclared_of_shaped steady shaped nominal declared) ran

end Shapes

section Steps

variable {e : Engine} {final : Walk} {n : Nat} {g h : Going} (repeats : e.Repeats final n g h)
  {manner : Manner} {ages : Ages} {now : Nat} {rank : TypeId → Nat}
  (steady : e.Steady manner ages now rank)
include repeats steady

theorem echoes_includeBase {declaration : SiteId} {clause : HeritageClause}
    (held : clause ∈ (e.program.site declaration).heritage) {site : Option SiteId}
    (listed : site ∈ clause.types) :
    Echoes e final n ((e.going g).includeBase site) ((e.going h).includeBase site) := by
  refine repeats.bind_of (repeats.lift _) fun _ base _ asked => ?_
  rw [lift_apply, Prod.mk.injEq] at asked
  have asked : e.program.typeAt site = .ok base := asked.1
  refine repeats.bind_of (repeats.visitPresent base) fun w node after ran => ?_
  obtain ⟨type, _, found, visited⟩ := of_bind_ok ran
  rw [lift_apply, Prod.mk.injEq] at found
  obtain rfl := of_present found.1
  cases site with
  | none =>
      rw [Program.typeAt, Program.recordedType, Program.siteAnswers, steady.fits.nowhere] at asked
      cases asked
  | some id =>
      have suited : e.Suited type :=
        steady.suits declaration clause.token type ⟨clause, held, rfl, id, listed, asked⟩
      obtain ⟨r, rfl, -⟩ | ⟨described, unwritten, -⟩ :=
        visited_of_suited repeats.founded steady.fits held listed asked suited visited
      · exact repeats.pure _
      · have unwritten : e.baseName id = none := unwritten
        cases node with
        | ref r => exact absurd rfl (described r)
        | _ =>
            refine repeats.bind_of (repeats.lift _) fun _ place _ given => ?_
            cases given
            have name : (e.going g).baseName id = none := unwritten
            have other : (e.going h).baseName id = none := unwritten
            simp only [name, other]
            exact repeats.pure _

theorem echoes_includeHeritage (type : TypeId) :
    Echoes e final n ((e.going g).includeHeritage type) ((e.going h).includeHeritage type) :=
  repeats.includeHeritage type fun _ _ held _ listed => echoes_includeBase repeats steady held listed

omit repeats steady in
theorem includeShape_apply {type : TypeId} {heritage : Heritage} {w : Walk} {inherited : List Int}
    {listed : List (Option SymbolId)}
    (found : e.inheritedIds w.registry heritage.edges = .ok inherited)
    (each : (e.program.type type).properties.each = .ok listed) :
    (e.going g).includeShape type heritage w =
      (e.going g).shapeOf type heritage inherited listed w := by
  rw [includeShape_eq]
  refine (bind_ok rfl).trans ?_
  rw [going_inheritedIds, found, going_program, each]
  rfl

omit repeats steady in
theorem shapeOf_of_agree {type : TypeId} {heritage : Heritage} {inherited others : List Int}
    {listed : List (Option SymbolId)}
    (agree : ∀ member, some member ∈ listed →
      inherited.contains (e.program.memberId member) = others.contains (e.program.memberId member)) :
    e.shapeOf type heritage inherited listed = e.shapeOf type heritage others listed := by
  have same : listed.mapM (e.includeOwn inherited) = listed.mapM (e.includeOwn others) := by
    induction listed with
    | nil => rfl
    | cons slot rest ih =>
        have first : e.includeOwn inherited slot = e.includeOwn others slot := by
          cases slot with
          | none => rfl
          | some member =>
              have step (ids : List Int) : e.includeOwn ids (some member) =
                  if ids.contains (e.program.memberId member) then pure []
                  else do return [← e.includeProp member] := rfl
              rw [step, step, agree member (List.mem_cons_self ..)]
        rw [List.mapM_cons, List.mapM_cons, first,
          ih fun member held => agree member (List.mem_cons_of_mem _ held)]
  simp only [shapeOf, same]

theorem echoes_includeShape {type : TypeId} {heritage : Heritage}
    (settled : e.Settled type heritage.edges) :
    Echoes e final n ((e.going g).includeShape type heritage) ((e.going h).includeShape type heritage) := by
  have visits := flattening_visits repeats.flattening
  have ways := orderly_ways repeats.flattening.ordered
  obtain ⟨own, settled⟩ := settled
  have start {w : Walk} {value : Node.Shape Node} {after : Walk}
      (ran : (e.going g).includeShape type heritage w = (.ok value, after)) :
      ∃ inherited listed, e.inheritedIds w.registry heritage.edges = .ok inherited ∧
        (e.program.type type).properties.each = .ok listed ∧
        (e.going g).shapeOf type heritage inherited listed w = (.ok value, after) := by
    rw [includeShape_eq] at ran
    obtain ⟨_, _, here, ran⟩ := of_bind_ok ran
    cases here
    obtain ⟨inherited, _, found, ran⟩ := of_bind_ok ran
    obtain ⟨listed, _, each, ran⟩ := of_bind_ok ran
    rw [lift_apply, Prod.mk.injEq] at found each
    rw [going_inheritedIds] at found
    obtain ⟨found, rfl⟩ := found
    obtain ⟨each, rfl⟩ := each
    exact ⟨inherited, listed, found, each, ran⟩
  refine ⟨upholds_of_flattening (visits.includeShape type heritage),
    advances_of_orderly (ways.includeShape type heritage), ?_, ?_⟩
  · intro w value after ran proper leads
    obtain ⟨inherited, listed, -, -, ran⟩ := start ran
    exact (repeats.shapeOf type heritage inherited listed).notes w value after ran proper leads
  · intro told w u allowed value after ran proper leads declared scopes inside
    obtain ⟨inherited, listed, found, each, ran⟩ := start ran
    have shapes : u.registry.KeepsShapes final.registry := fun name node shape held => by
      obtain ⟨other, filled, alike⟩ := inside.filled name node (inside.reached.bare.filled shape held)
      rw [alike.eq_of_isShape shape]
      exact filled.1
    obtain ⟨_, same, agree⟩ :=
      settled _ _ (fun _ _ _ held => held) (upright_of_proper steady proper)
    obtain ⟨others, again, further⟩ := settled _ _ shapes (upright_of_proper steady told.proper)
    cases found.symm.trans same
    obtain ⟨later, rerun, grown, ended⟩ := (repeats.shapeOf type heritage inherited listed).echoes told w u
      allowed value after ran proper leads declared scopes inside
    refine ⟨later, ?_, grown, ended⟩
    rw [includeShape_apply again each, ← rerun]
    refine congrFun (shapeOf_of_agree fun member held => Bool.not_inj ?_) u
    have present := Build.slots_of_each each ▸ held
    exact (further member present).trans (agree member present).symm

theorem echoes_includeObject {type : TypeId} (shaped : e.Shaped type) :
    Echoes e final n ((e.going g).includeObject type) ((e.going h).includeObject type) := by
  have heritage := echoes_includeHeritage repeats steady type
  have shape {w heritage after} (ran : (e.going g).includeHeritage type w = (.ok heritage, after)) :=
    echoes_includeShape repeats steady (settled_of_includeHeritage steady shaped repeats.founded ran)
  refine Follows.ite (R := Echoes e final n) (fun _ => repeats.pure none) fun _ =>
    Follows.ite (R := Echoes e final n) (fun _ => repeats.map _ (repeats.includeMapped type)) fun _ =>
      Follows.ite (R := Echoes e final n) (fun _ => repeats.map _ ?_) fun _ => ?_
  · rw [includeClass_eq, includeClass_eq]
    refine repeats.bind_of heritage fun _ _ _ ran => repeats.bind (shape ran) fun made => ?_
    exact repeats.classOf type _ made
  · exact repeats.bind_of heritage fun _ _ _ ran => repeats.bind (shape ran) fun made => repeats.pure _

theorem echoes_includeNamed {type : TypeId} (shaped : e.Shaped type) :
    Echoes e final n ((e.going g).includeNamed type) ((e.going h).includeNamed type) :=
  repeats.includeNamed (echoes_includeObject repeats steady shaped)

theorem courses_echoes : e.Courses g h (Echoes e final n) :=
  { repeats.toPairs with
    reference := fun _ instance_ => echoes_includeReference repeats steady instance_
    object := fun type other => echoes_includeObject repeats steady fun instance_ => by
      rw [other] at instance_
      cases instance_ }

theorem echoes_includeKnown {type : TypeId} {name : Option String} (known : e.Known type name) :
    Echoes e final n ((e.going g).includeKnown type name) ((e.going h).includeKnown type name) := by
  have courses : e.Courses g h (Echoes e final n) := courses_echoes repeats steady
  cases parameter : (e.program.type type).isTypeParameter with
  | true =>
      obtain ⟨-, symbol, held, -⟩ := (steady.fits.types type).parameter parameter
      rw [includeKnown_of_parameter (e.going g) name parameter held,
        includeKnown_of_parameter (e.going h) name parameter held]
      refine repeats.bind (repeats.bind (repeats.declareLocal _) fun _ => repeats.pure _) fun _ => ?_
      exact repeats.pure _
  | false =>
      have made : e.isMade type = true := by rw [isMade, parameter, Bool.not_false, Bool.or_true]
      refine courses.includeKnown type name (echoes_includeExternal repeats steady fun _ _ => made) ?_ ?_
      · rintro given rfl
        exact echoes_makeAliasRef repeats steady known.called
      · rintro given rfl nonempty unaliased titled ⟨w, after, asked⟩
        have domestic := domestic_of_includeExternal (e := e.going g) asked
        refine echoes_makeRef repeats steady (.known known unaliased ?_) made domestic
        simp only [isWrittenOut, Option.getD_some, nonempty, Bool.false_or, Bool.and_eq_false_iff]
        exact Or.inr titled

theorem echoes_includeType (type : TypeId) :
    Echoes e final n ((e.going g).includeType type) ((e.going h).includeType type) :=
  (courses_echoes repeats steady).includeType (echoes_includeKnown repeats steady .named)

end Steps

section Induction

variable {e : Engine} {final : Walk} {manner : Manner} {ages : Ages} {now : Nat} {rank : TypeId → Nat}
  (steady : e.Steady manner ages now rank)
include steady

theorem flattening_opened (entries levels : Nat) : (e.going (e.opened entries levels)).Flattening := by
  have named : BasesNamed { program := e.program, settings := e.settings, libraries := e.libraries } :=
    steady.bases
  rw [going_opened]
  exact flattening_within (flattening_withEntries (flattening_bare _ _ _) named _ _)
    (basesNamed_withEntries named _ _) _

omit steady in
theorem stuck_opened (levels : Nat) : (∀ type, (e.opened 0 levels).bodyOfType type = .fail .tooDeep) ∧
    ∀ site, (e.opened 0 levels).bodyOfAlias site = .fail .tooDeep := by
  cases levels <;> exact ⟨fun _ => rfl, fun _ => rfl⟩

theorem restores_aliasBody {n entries : Nat}
    (repeats : e.Repeats final n (e.opened entries (depthBound e.program))
      (e.opened n (depthBound e.program))) (told : final.Told e) {type : TypeId} {symbol : SymbolId}
    {site : SiteId} (aliased : (e.program.type type).alias? = some symbol)
    (declared : e.program.firstDeclaration (some symbol) = some site) {name : String}
    {step : Engine → Extract Node} (builds : e.Builds name (.root .named site) step) (w u : Walk) :
    RestoresAt e final n (step (e.opening entries)) ((e.opening n).aliasBody site) w u := by
  have again := ((courses_echoes repeats steady).aliasBody site).echoes told w u
  cases builds with
  | aliasBody => exact again.restores
  | @writtenAlias _ written _ right =>
      intro allowed node after ran proper leads inner scopes inside
      cases steady.rewrites aliased declared right with
      | spelled stood same =>
          have refines : Refines ((reaching e.program e.settings e.libraries (depthBound e.program) entries
              (depthBound e.program)).writtenAlias site written) _ :=
            refines_writtenAlias stood same (Nat.le_refl _) (Nat.le_refl entries) (Nat.le_refl _)
          rw [← going_opened] at refines
          have written : (e.going (e.opened entries (depthBound e.program))).writtenAlias site written w =
              (.ok node, after) := ran
          rw [← refines w (by rw [written]; nofun)] at written
          exact again.restores allowed node after written proper leads inner scopes inside
      | @bare stands stood described =>
          obtain ⟨comment, same, lifted, ran⟩ := of_bind_ok ran
          rw [lift_apply, Prod.mk.injEq] at lifted
          obtain ⟨lifted, rfl⟩ := lifted
          obtain ⟨types, between, listed, ran⟩ := of_bind_ok ran
          obtain ⟨child, last, read, ran⟩ := of_bind_ok ran
          cases ran
          have visits := orderly_visits (repeats.flattening.ordered)
          have onward : between.Extends after :=
            (advances_of_orderly (Visits.includeAnnotation visits (some written))).after read
          obtain ⟨later, again, grown, ended⟩ := (repeats.declaredTypeParameters site).echoes told w u
            allowed types between listed proper (onward.leads leads)
            (List.Subset.trans onward.scopes.head inner) scopes inside
          obtain ⟨other, beyond, made, beside⟩ := described n later
          have further : later.Extends beyond :=
            (advances_of_orderly ((orderly_ways (flattening_opened steady n _).ordered).includeInline
              stands)).after made
          refine ⟨.aliasOf types other comment, beyond, ?_, .child, grown.trans further, ?_⟩
          · rw [aliasBody_of_stands stood (program_opening e n)]
            have first : (liftM (e.program.comment (e.program.site site).symbol) :
                Extract (Option String)) u = (.ok comment, u) := by
              rw [lift_apply]
              exact congrArg (·, u) lifted
            exact (bind_ok first).trans ((bind_ok again).trans ((bind_ok made).trans rfl))
          · refine ended.of_same beside.registry beside.bindings beside.locals ?_
              (further.reachable ended.reached)
            rw [beside.scopes]
            exact ended.declared

theorem repeats_of_pairs {n m levels : Nat}
    (pairs : e.Pairs (e.opened m levels) (e.opened n levels) (Echoes e final n))
    (left : ∀ fewer < m, e.Repeats final n (e.opened fewer (depthBound e.program))
      (e.opened n (depthBound e.program)))
    (right : ∀ fewer < n, ∀ entries, e.Repeats final fewer
      (e.opened entries (depthBound e.program)) (e.opened fewer (depthBound e.program))) :
    e.Repeats final n (e.opened m levels) (e.opened n levels) where
  toPairs := pairs
  flattening := flattening_opened steady m levels
  founded := by
    rw [going_opened]
    exact founded_inner e (depthBound e.program) m levels
  described type w node after ran := by
    cases m with
    | zero =>
        rw [(stuck_opened levels).1] at ran
        cases ran
    | succ m => exact ⟨m, by rwa [bodyOfType_opened] at ran⟩
  aliased site w node after ran := by
    cases m with
    | zero =>
        rw [(stuck_opened levels).2] at ran
        cases ran
    | succ m => exact ⟨m, by rwa [bodyOfAlias_opened] at ran⟩
  notesType type shaped w := by
    cases m with
    | zero =>
        rw [(stuck_opened levels).1]
        exact (pairs.fail .tooDeep).notes w
    | succ m =>
        rw [bodyOfType_opened]
        exact (echoes_includeNamed (left m (Nat.lt_succ_self m)) steady shaped).notes w
  notesAlias site w := by
    cases m with
    | zero =>
        rw [(stuck_opened levels).2]
        exact (pairs.fail .tooDeep).notes w
    | succ m =>
        rw [bodyOfAlias_opened]
        exact ((courses_echoes (left m (Nat.lt_succ_self m)) steady).aliasBody site).notes w
  typeBody told fewer less type shaped entries w u := by
    subst less
    rw [bodyOfType_opened]
    exact (echoes_includeNamed (right fewer (Nat.lt_succ_self fewer) entries) steady shaped).echoes told w u
  aliasBody told fewer less type symbol site aliased declared _ step builds entries w u := by
    subst less
    rw [bodyOfAlias_opened]
    exact restores_aliasBody steady (right fewer (Nat.lt_succ_self fewer) entries) told aliased declared
      builds w u

theorem repeats_of_entries {n m : Nat}
    (left : ∀ fewer < m, e.Repeats final n (e.opened fewer (depthBound e.program))
      (e.opened n (depthBound e.program)))
    (right : ∀ fewer < n, ∀ entries, e.Repeats final fewer
      (e.opened entries (depthBound e.program)) (e.opened fewer (depthBound e.program))) (levels : Nat) :
    e.Repeats final n (e.opened m levels) (e.opened n levels) := by
  induction levels with
  | zero =>
      have stopped (entries : Nat) : (e.going (e.opened entries 0)).Bare := by
        rw [going_opened]
        exact bare_reaching _ _ _ _ _
      have stuck {step other : Extract Node} (ends : step = .fail .tooDeep)
          (also : other = .fail .tooDeep) : Echoes e final n step other := by
        rw [ends, also]
        exact follows_echoes.fail .tooDeep
      refine repeats_of_pairs steady
        { follows_echoes with visit := ?_, visitInline := ?_, visitNamed := ?_ } left right
      · exact fun type => stuck ((stopped m).visit type) ((stopped n).visit type)
      · exact fun type => stuck ((stopped m).visitInline type) ((stopped n).visitInline type)
      · exact fun site type _ _ => stuck ((stopped m).visitNamed type _) ((stopped n).visitNamed type _)
  | succ levels ih =>
      refine repeats_of_pairs steady
        { follows_echoes with visit := ?_, visitInline := ?_, visitNamed := ?_ } left right
      · intro type
        rw [visit_opened, visit_opened]
        exact echoes_includeType ih steady type
      · intro type
        rw [visitInline_opened, visitInline_opened]
        exact (courses_echoes ih steady).includeInline type
      · intro site type reference denoted
        rw [visitNamed_opened, visitNamed_opened]
        cases site with
        | none => cases reference
        | some site => exact echoes_includeKnown ih steady (.written reference denoted)

/-- With as many entries to go as names are left, a run repeats whatever another did. -/
theorem repeats_opened (n m levels : Nat) :
    e.Repeats final n (e.opened m levels) (e.opened n levels) := by
  induction n using Nat.strongRecOn generalizing m levels with
  | ind n right =>
      induction m using Nat.strongRecOn generalizing levels with
      | ind m left =>
          exact repeats_of_entries steady (fun fewer less => left fewer less _)
            (fun fewer less entries => right fewer less entries _) levels

end Induction

end Engine

end TypeAtlas
