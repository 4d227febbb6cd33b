import TypeAtlas.Proofs.Extract.Bases

/-!
The edges of entries. The entry of an interface or a class has an edge for each of its bases: it bears a
name that the base goes by, and knows the type that stands there.
-/

namespace TypeAtlas

open Extract

variable {manner : Manner} {ages : Ages} {now : Nat}

def Heritage.under (h : Heritage) : HeritageToken → List Node
  | .bases => h.bases
  | .implemented => h.implemented

namespace Engine

/-- A name that a type is referred to by: that of its alias or of its symbol, or one that either of them
is imported under. -/
inductive TitledAs (e : Engine) (type : TypeId) (name : String) : Prop
  | named (named : e.nameOf (e.program.type type) = some name)
  | imported {symbol : SymbolId} {scope : ImportScope}
      (known : (e.program.type type).symbol = some symbol ∨ (e.program.type type).alias? = some symbol)
      (outside : (e.originOf (some symbol)).scope? = some scope)
      (bound : ∃ w after, e.importName symbol (e.originOf (some symbol)) scope w = (.ok name, after))

theorem TitledAs.of_same {e b : Engine} {type : TypeId} {name : String} (titles : b.TitledAs type name)
    (program : e.program = b.program) (libraries : e.libraries = b.libraries) : e.TitledAs type name := by
  cases titles with
  | named named => exact .named (by simpa only [nameOf, program] using named)
  | @imported symbol scope known outside bound =>
      refine .imported (program ▸ known) (by simpa only [originOf, program, libraries] using outside) ?_
      obtain ⟨w, after, bound⟩ := bound
      refine ⟨w, after, ?_⟩
      cases scope <;> simpa only [importName, originOf, program, libraries] using bound

structure LeadsTo (e : Engine) (edge : Node.Ref Node) (type : TypeId) : Prop where
  titled : e.TitledAs type edge.name
  live : edge.live = some type

/-- An interface or a class has a base: what stands at a place of its heritage. -/
def Derives (e : Engine) (type base : TypeId) : Prop :=
  ∃ site, e.Inherits type site ∧ e.program.typeAt (some site) = .ok (some base)

/-- A base is referred to, or else it has no members. -/
inductive Suited (e : Engine) (base : TypeId) : Prop
  | referable (referable : e.Referable base)
      (declared : (e.program.type base).isTypeParameter = false)
  | keyof (keyof : (e.program.type base).keyofOperand?.isSome = true)
      (memberless : (e.program.type base).properties.slots = [])

theorem Suited.of_same {e b : Engine} {base : TypeId} (suited : b.Suited base)
    (program : e.program = b.program) (settings : e.settings = b.settings) : e.Suited base := by
  cases suited with
  | referable referable declared =>
      refine .referable ?_ (program ▸ declared)
      simpa only [Referable, Usable, nameOf, isAnonymous, program, settings] using referable
  | keyof keyof memberless => exact .keyof (program ▸ keyof) (program ▸ memberless)

def RefersTo (e : Engine) (type : TypeId) (node : Node) : Prop :=
  ∃ r, node = .ref r ∧ e.TitledAs type r.name ∧ (r.live = none ∨ r.live = some type)

section References

variable {e : Engine} {type : TypeId} {w after : Walk} {node : Node}

theorem live_of_includeRef {name : String} {live : Option TypeId}
    (ran : e.includeRef type name live w = (.ok node, after)) :
    ∃ types, node = .ref { name, types, live } := by
  obtain ⟨types, _, -, ran⟩ := of_bind_ok ran
  obtain ⟨kept, _, -, ran⟩ := of_bind_ok ran
  obtain ⟨r, _, made, ran⟩ := of_bind_ok ran
  cases made
  cases ran
  exact ⟨kept, rfl⟩

theorem titledAs_of_externalName {symbol : SymbolId} {name : String}
    (known : (e.program.type type).symbol = some symbol ∨ (e.program.type type).alias? = some symbol)
    (ran : e.externalName symbol w = (.ok (some name), after)) : e.TitledAs type name := by
  unfold externalName at ran
  cases outside : (e.originOf (some symbol)).scope? with
  | none =>
      simp only [outside] at ran
      cases ran
  | some scope =>
      simp only [outside] at ran
      obtain ⟨_, same, found, ran⟩ := of_bind_ok ran
      cases found
      split at ran
      · cases ran
      · rw [map_eq] at ran
        obtain ⟨title, _, imported, ran⟩ := of_bind_ok ran
        cases ran
        obtain ⟨_, _, bound, imported⟩ := of_bind_ok imported
        obtain ⟨_, _, -, imported⟩ := of_bind_ok imported
        cases imported
        exact .imported known outside ⟨_, _, bound⟩

theorem refersTo_of_makeAliasRef {name : String} (named : e.nameOf (e.program.type type) = some name)
    (ran : e.makeAliasRef type name w = (.ok node, after)) : e.RefersTo type node := by
  unfold makeAliasRef at ran
  cases aliased : (e.program.type type).alias? with
  | none =>
      simp only [aliased] at ran
      cases ran
  | some symbol =>
      cases declared : e.program.firstDeclaration (some symbol) with
      | none =>
          simp only [aliased, declared] at ran
          cases ran
      | some site =>
          simp only [aliased, declared] at ran
          obtain ⟨bound, between, asked, ran⟩ := of_bind_ok ran
          cases bound with
          | some bound =>
              obtain ⟨_, _, settled, ran⟩ := of_bind_ok ran
              cases settled
              obtain ⟨types, _, -, ran⟩ := of_bind_ok ran
              obtain ⟨kept, _, -, ran⟩ := of_bind_ok ran
              cases ran
              exact ⟨_, rfl, titledAs_of_externalName (Or.inr aliased) asked, Or.inl rfl⟩
          | none =>
              obtain ⟨_, _, -, ran⟩ := of_bind_ok ran
              obtain ⟨_, _, settled, ran⟩ := of_bind_ok ran
              cases settled
              obtain ⟨types, _, -, ran⟩ := of_bind_ok ran
              obtain ⟨kept, _, -, ran⟩ := of_bind_ok ran
              cases ran
              exact ⟨_, rfl, .named named, Or.inl rfl⟩

theorem refersTo_of_includeExternal {name : String}
    (named : (e.program.type type).symbol.map (fun symbol => (e.program.symbol symbol).name) = some name)
    (usable : e.isAnonymous name = false)
    (ran : e.includeExternal type w = (.ok (some node), after)) : e.RefersTo type node := by
  unfold includeExternal at ran
  cases held : (e.program.type type).symbol with
  | none =>
      rw [held] at named
      cases named
  | some symbol =>
      rw [held] at named
      cases named
      cases outside : (e.originOf (some symbol)).scope? with
      | none =>
          simp only [held, outside] at ran
          cases ran
      | some scope =>
          simp only [held, outside, usable, Bool.false_eq_true, if_false] at ran
          split at ran
          · cases ran
          · obtain ⟨title, between, imported, ran⟩ := of_bind_ok ran
            rw [map_eq] at ran
            obtain ⟨made, _, referred, ran⟩ := of_bind_ok ran
            cases ran
            obtain ⟨types, rfl⟩ := live_of_includeRef referred
            obtain ⟨_, _, bound, imported⟩ := of_bind_ok imported
            obtain ⟨_, _, -, imported⟩ := of_bind_ok imported
            cases imported
            refine ⟨_, rfl, .imported (Or.inl held) outside ⟨_, _, bound⟩, ?_⟩
            dsimp only
            split
            · exact Or.inl rfl
            · exact Or.inr rfl

theorem refersTo_of_includeType (referable : e.Referable type)
    (declared : (e.program.type type).isTypeParameter = false)
    (ran : e.includeType type w = (.ok node, after)) : e.RefersTo type node := by
  obtain ⟨plain, name, named, nonempty, usable⟩ := referable
  simp only [includeType, plain, named] at ran
  rw [e.includeKnown_of_other _ (.inl declared), includeTitled, if_neg (by simp [nonempty])] at ran
  split at ran
  · exact refersTo_of_makeAliasRef named ran
  · rename_i unaliased
    rcases usable with ⟨aliased, distinct⟩ | ⟨object, usable, own⟩
    · simp [aliased, distinct] at unaliased
    · obtain ⟨outside, between, asked, ran⟩ := of_bind_ok ran
      cases outside with
      | some made =>
          cases ran
          exact refersTo_of_includeExternal own usable asked
      | none =>
          simp only [usable, object, Bool.or_self, Bool.false_eq_true, if_false] at ran
          obtain ⟨_, _, -, ran⟩ := of_bind_ok ran
          obtain ⟨_, _, found, ran⟩ := of_bind_ok ran
          cases found
          obtain ⟨types, rfl⟩ := live_of_includeRef ran
          exact ⟨_, rfl, .named named, Or.inl rfl⟩

end References

/-- The edges are those to the bases of a type: each leads to one, and each base that has members has
one. -/
structure Links (e : Engine) (bases : TypeId → Prop) (edges : List Node) : Prop where
  sound : ∀ edge, .ref edge ∈ edges → ∃ base, bases base ∧ e.LeadsTo edge base
  full : ∀ base, bases base → (e.program.type base).properties.slots ≠ [] →
    ∃ edge, .ref edge ∈ edges ∧ e.LeadsTo edge base

def AtSites (e : Engine) (sites : List (Option SiteId)) (base : TypeId) : Prop :=
  ∃ site, some site ∈ sites ∧ e.program.typeAt (some site) = .ok (some base)

def AtClauses (e : Engine) (clauses : List HeritageClause) (token : HeritageToken) (base : TypeId) :
    Prop :=
  ∃ clause ∈ clauses, clause.token = token ∧ e.AtSites clause.types base

theorem Links.congr {e : Engine} {bases others : TypeId → Prop} {edges : List Node}
    (links : e.Links bases edges) (same : ∀ base, others base ↔ bases base) : e.Links others edges := by
  have equal : others = bases := funext fun base => propext (same base)
  rwa [equal]

theorem Links.append {e : Engine} {bases others : TypeId → Prop} {edges more : List Node}
    (links : e.Links bases edges) (further : e.Links others more) :
    e.Links (fun base => bases base ∨ others base) (edges ++ more) := by
  constructor
  · intro edge member
    rcases List.mem_append.mp member with member | member
    · obtain ⟨base, stands, leads⟩ := links.sound edge member
      exact ⟨base, Or.inl stands, leads⟩
    · obtain ⟨base, stands, leads⟩ := further.sound edge member
      exact ⟨base, Or.inr stands, leads⟩
  · rintro base (stands | stands) members
    · obtain ⟨edge, member, leads⟩ := links.full base stands members
      exact ⟨edge, List.mem_append_left _ member, leads⟩
    · obtain ⟨edge, member, leads⟩ := further.full base stands members
      exact ⟨edge, List.mem_append_right _ member, leads⟩

section Edges

variable {e b : Engine} {good : Walk → String → Node → Prop} (filling : e.Filling b good)
  (fits : b.program.Fits manner ages now)
include filling fits

/-- A base is referred to, or else nothing is written where it stands and it has no members. -/
theorem visited_of_suited {declaration site : SiteId} {clause : HeritageClause}
    (held : clause ∈ (b.program.site declaration).heritage) (listed : some site ∈ clause.types)
    {base : TypeId} (asked : b.program.typeAt (some site) = .ok (some base)) (suited : b.Suited base)
    {w after : Walk} {node : Node} (visited : e.visit base w = (.ok node, after)) :
    b.RefersTo base node ∨
      node.Described ∧ e.baseName site = none ∧ (b.program.type base).properties.slots = [] := by
  obtain ⟨depth, entries, levels, included⟩ := filling.visited base _ node after visited
  have founded := founded_inner b depth entries levels
  cases suited.of_same founded.program founded.settings with
  | referable referable declared =>
      obtain ⟨r, rfl, titled, live⟩ := refersTo_of_includeType referable declared included
      exact Or.inl ⟨r, rfl, titled.of_same founded.program.symm founded.libraries.symm, live⟩
  | keyof keyof memberless =>
      right
      obtain ⟨operand, keyof⟩ := Option.isSome_iff_exists.mp keyof
      simp only [includeType, keyof] at included
      obtain ⟨inner, _, -, included⟩ := of_bind_ok included
      cases included
      have flagged : (b.program.type base).hasFlag .index = true := by
        rw [founded.program] at keyof
        unfold TypeInfo.keyofOperand? at keyof
        split at keyof
        · assumption
        · cases keyof
      have described : (Node.prefixed "keyof" inner).Described := by
        intro r same
        cases same
      refine ⟨described, ?_, founded.program ▸ memberless⟩
      have kind := (fits.sites declaration).heritage clause held site listed
      obtain ⟨-, place, expression, identifier, title, -⟩ :=
        (fits.sites site).base kind base (Build.answer_of_typeAt asked)
      rw [(fits.types base).keyof flagged] at title
      simp [baseName, filling.program, expression, identifier, title]

/-- A base is referred to with what stands at its place, and one that is not referred to has no
members. -/
theorem edge_of_suited {declaration : SiteId} {clause : HeritageClause} {site : Option SiteId}
    (held : clause ∈ (b.program.site declaration).heritage) (listed : site ∈ clause.types)
    (suits : ∀ id base, site = some id → b.program.typeAt (some id) = .ok (some base) → b.Suited base)
    {w after : Walk} {node : Node} (ran : e.includeBase site w = (.ok node, after)) :
    ∃ id base, site = some id ∧ b.program.typeAt (some id) = .ok (some base) ∧
      ((∃ edge, node = .ref edge ∧ b.LeadsTo edge base) ∨
        node.Described ∧ (b.program.type base).properties.slots = []) := by
  obtain ⟨stands, same, asked, ran⟩ := of_bind_ok ran
  rw [lift_apply, Prod.mk.injEq, filling.program] at asked
  obtain ⟨asked, rfl⟩ := asked
  obtain ⟨made, between, visited, ran⟩ := of_bind_ok ran
  obtain ⟨base, _, found, visited⟩ := of_bind_ok visited
  rw [lift_apply, Prod.mk.injEq] at found
  obtain ⟨found, rfl⟩ := found
  obtain rfl := of_present found
  cases site with
  | none =>
      rw [Program.typeAt, Program.recordedType, Program.siteAnswers, fits.nowhere] at asked
      cases asked
  | some id =>
      refine ⟨id, base, rfl, asked, ?_⟩
      obtain ⟨r, rfl, titled, live⟩ | ⟨described, unwritten, memberless⟩ :=
        visited_of_suited filling fits held listed asked (suits id base rfl asked) visited
      · cases ran
        refine Or.inl ⟨_, rfl, titled, ?_⟩
        rcases live with live | live <;> simp [live]
      · right
        have same : node = made := by
          cases made with
          | ref r => exact absurd rfl (described r)
          | _ =>
              obtain ⟨_, _, given, ran⟩ := of_bind_ok ran
              cases given
              simp only [unwritten] at ran
              cases ran
              rfl
        exact ⟨same ▸ described, memberless⟩

theorem links_of_mapM {declaration : SiteId} {clause : HeritageClause}
    (held : clause ∈ (b.program.site declaration).heritage) {sites : List (Option SiteId)}
    (within : sites ⊆ clause.types) (suits : ∀ base, b.AtSites sites base → b.Suited base)
    {w after : Walk} {edges : List Node} (ran : sites.mapM e.includeBase w = (.ok edges, after)) :
    b.Links (b.AtSites sites) edges := by
  induction sites generalizing w edges after with
  | nil =>
      cases ran
      refine ⟨fun edge member => (by cases member), fun base stands => ?_⟩
      obtain ⟨site, member, -⟩ := stands
      cases member
  | cons first rest ih =>
      rw [List.mapM_cons] at ran
      obtain ⟨node, between, started, ran⟩ := of_bind_ok ran
      obtain ⟨others, final, ended, ran⟩ := of_bind_ok ran
      cases ran
      have later := ih (fun site member => within (List.mem_cons_of_mem _ member))
        (fun base ⟨site, member, stands⟩ => suits base ⟨site, List.mem_cons_of_mem _ member, stands⟩)
        ended
      have listed := within (List.mem_cons_self ..)
      obtain ⟨id, base, rfl, stands, edge⟩ := edge_of_suited filling fits held listed
        (fun id base same denoted => suits base ⟨id, same ▸ List.mem_cons_self .., denoted⟩) started
      have here : b.Links (· = base) [node] := by
        rcases edge with ⟨edge, rfl, leads⟩ | ⟨described, memberless⟩
        · refine ⟨fun other member => ?_, fun other same _ => ?_⟩
          · cases List.mem_singleton.mp member
            exact ⟨base, rfl, leads⟩
          · subst same
            exact ⟨edge, List.mem_singleton_self _, leads⟩
        · refine ⟨fun other member => ?_, fun other same members => ?_⟩
          · exact absurd (List.mem_singleton.mp member).symm (described other)
          · subst same
            exact absurd memberless members
      refine (here.append later).congr fun other => ?_
      constructor
      · rintro ⟨site, member, denoted⟩
        rcases List.mem_cons.mp member with same | member
        · cases same
          rw [stands] at denoted
          cases denoted
          exact Or.inl rfl
        · exact Or.inr ⟨site, member, denoted⟩
      · rintro (rfl | ⟨site, member, denoted⟩)
        · exact ⟨id, List.mem_cons_self .., stands⟩
        · exact ⟨site, List.mem_cons_of_mem _ member, denoted⟩

theorem links_of_includeClauses {declaration : SiteId} {clauses : List HeritageClause}
    (within : clauses ⊆ (b.program.site declaration).heritage)
    (suits : ∀ token base, b.AtClauses clauses token base → b.Suited base)
    {w after : Walk} {heritage : Heritage}
    (ran : e.includeClauses clauses w = (.ok heritage, after)) (token : HeritageToken) :
    b.Links (b.AtClauses clauses token) (heritage.under token) := by
  induction clauses generalizing w heritage after with
  | nil =>
      cases ran
      refine ⟨fun edge member => (by cases token <;> cases member), fun base stands => ?_⟩
      obtain ⟨clause, member, -⟩ := stands
      cases member
  | cons first rest ih =>
      obtain ⟨items, between, started, next⟩ := of_bind_ok ran
      obtain ⟨others, final, ended, next⟩ := of_bind_ok next
      have later := ih (fun other member => within (List.mem_cons_of_mem _ member))
        (fun token base ⟨clause, member, stands⟩ =>
          suits token base ⟨clause, List.mem_cons_of_mem _ member, stands⟩) ended
      have here := links_of_mapM filling fits (within (List.mem_cons_self ..)) (List.Subset.refl _)
        (fun base stands => suits first.token base ⟨first, List.mem_cons_self .., rfl, stands⟩) started
      have split (base : TypeId) : b.AtClauses (first :: rest) token base ↔
          first.token = token ∧ b.AtSites first.types base ∨ b.AtClauses rest token base := by
        simp only [AtClauses, List.exists_mem_cons_iff]
      by_cases same : first.token = token
      · have under : heritage.under token = items ++ others.under token := by
          cases token <;> rw [same] at next <;> cases next <;> rfl
        rw [under]
        refine (here.append later).congr fun base => ?_
        rw [split, same]
        simp
      · have under : heritage.under token = others.under token := by
          cases token <;> cases found : first.token <;> rw [found] at next same <;>
            first | (cases next; rfl) | exact absurd rfl same
        rw [under]
        refine later.congr fun base => ?_
        rw [split]
        simp [same]

def AtHeritage (e : Engine) (type : TypeId) (token : HeritageToken) (base : TypeId) : Prop :=
  ∃ declaration, e.program.firstDeclaration (e.program.type type).symbol = some declaration ∧
    e.program.hasKind [.interfaceDeclaration, .classDeclaration] (some declaration) = true ∧
    e.AtClauses (e.program.site declaration).heritage token base

theorem links_of_includeHeritage {type : TypeId}
    (suits : ∀ token base, b.AtHeritage type token base → b.Suited base)
    {w after : Walk} {heritage : Heritage}
    (ran : e.includeHeritage type w = (.ok heritage, after)) (token : HeritageToken) :
    b.Links (b.AtHeritage type token) (heritage.under token) := by
  have nothing (away : ∀ token base, ¬ b.AtHeritage type token base) :
      b.Links (b.AtHeritage type token) ((({} : Heritage)).under token) :=
    ⟨fun edge member => (by cases token <;> cases member), fun base stands => absurd stands (away _ base)⟩
  have program := filling.program
  cases declared : b.program.firstDeclaration (b.program.type type).symbol with
  | none =>
      simp only [includeHeritage, program, declared] at ran
      cases ran
      refine nothing ?_
      rintro token base ⟨declaration, held, -⟩
      rw [declared] at held
      cases held
  | some declaration =>
      simp only [includeHeritage, program, declared] at ran
      split at ran
      · rename_i kind
        have at_ (token : HeritageToken) (base : TypeId) : b.AtHeritage type token base ↔
            b.AtClauses (b.program.site declaration).heritage token base := by
          constructor
          · rintro ⟨other, held, -, stands⟩
            rw [declared] at held
            cases held
            exact stands
          · exact fun stands => ⟨declaration, declared, kind, stands⟩
        refine (links_of_includeClauses filling fits (List.Subset.refl _) ?_ ran token).congr fun base =>
          at_ token base
        exact fun token base stands => suits token base ((at_ token base).mpr stands)
      · rename_i other
        cases ran
        refine nothing ?_
        rintro token base ⟨_, held, kind, -⟩
        rw [declared] at held
        cases held
        exact other kind

omit filling fits in
theorem derives_iff {type base : TypeId} (nominal : (e.program.type type).isNominal = true) :
    e.Derives type base ↔ e.AtHeritage type .bases base ∨
      (e.program.type type).isClass = true ∧ e.AtHeritage type .implemented base := by
  constructor
  · rintro ⟨site, ⟨-, declared, kind, held, listed, token⟩, denoted⟩
    rename_i clause
    rcases tokens : clause.token
    · exact Or.inl ⟨_, declared, kind, clause, held, tokens, site, listed, denoted⟩
    · refine Or.inr ⟨?_, _, declared, kind, clause, held, tokens, site, listed, denoted⟩
      exact token.resolve_left (by simp [tokens])
  · rintro (⟨_, declared, kind, clause, held, token, site, listed, denoted⟩ |
      ⟨isClass, _, declared, kind, clause, held, -, site, listed, denoted⟩)
    · exact ⟨site, .listed nominal declared kind held listed (Or.inl token), denoted⟩
    · exact ⟨site, .listed nominal declared kind held listed (Or.inr isClass), denoted⟩

def Suits (e : Engine) : Prop :=
  ∀ declaration token base, e.AtClauses (e.program.site declaration).heritage token base → e.Suited base

theorem links_of_includeNamed (suits : b.Suits) {type : TypeId}
    (nominal : (b.program.type type).isNominal = true) {w after : Walk} {node : Node}
    (ran : e.includeNamed type w = (.ok node, after)) : b.Links (b.Derives type) node.outgoing := by
  have program := filling.program
  have at_ (token : HeritageToken) (base : TypeId) (stands : b.AtHeritage type token base) :
      b.Suited base := by
    obtain ⟨declaration, -, -, stands⟩ := stands
    exact suits declaration token base stands
  obtain ⟨flags, -, -, mapped, -⟩ := (fits.types type).nominal nominal
  rw [← program] at flags mapped
  obtain ⟨isClass, made⟩ | ⟨interface_, heritage, between, shape, opened, made, rfl⟩ :=
    of_includeNamed_ok flags mapped ran
  · obtain ⟨heritage, opened, shape, shaped, exported, statics, written, constructors, started, described,
      -, -, -, rfl⟩ := of_includeClass_ok made
    have links := links_of_includeHeritage filling fits at_ started
    obtain ⟨same, -⟩ := lists_of_includeShape described
    rw [Node.outgoing, same]
    refine ((links .bases).append (links .implemented)).congr fun base => ?_
    rw [derives_iff nominal, ← program, isClass]
    simp
  · have links := links_of_includeHeritage filling fits at_ opened
    obtain ⟨same, -⟩ := lists_of_includeShape made
    rw [Node.outgoing, same]
    refine (links .bases).congr fun base => ?_
    rw [derives_iff nominal, ← program, interface_]
    simp

end Edges

/-- A shape under a name has the edges to the bases of a type that is registered under the name, unless a
root may have written it. -/
inductive Linked (e : Engine) (name : String) (node : Node) : Prop
  | plain (plain : node.isShape = false)
  | type {type : TypeId} (registers : e.program.Registers type name)
      (links : (e.program.type (e.entryType type)).isNominal = true →
        e.Links (e.Derives (e.entryType type)) node.outgoing)
  | root (owned : e.program.WrittenOver e.settings name)

theorem Enters.registers {e : Engine} {type : TypeId} {name : String} (enters : e.Enters type name)
    (object : (e.program.type type).isObject = true) : e.program.Registers type name := by
  refine ⟨?_, enters.goesBy⟩
  cases enters with
  | known known unaliased named =>
      have unaliased : ((e.program.type type).alias?.isSome &&
          (e.program.type type).alias? != (e.program.type type).symbol) = false := unaliased
      have named : (e.program.type type).isAnonymousObject = false := by
        simp only [isWrittenOut, isAliased, unaliased, Bool.not_false, Bool.true_and,
          Bool.or_eq_false_iff] at named
        exact named.2.2
      simp [TypeInfo.mayRegister, object, unaliased, named]
  | instantiated reference _ => simp [TypeInfo.mayRegister, object, reference]

theorem object_of_includeNamed {e : Engine} (ordered : e.Orderly) {type : TypeId} {w after : Walk}
    {node : Node} (ran : e.includeNamed type w = (.ok node, after)) (shape : node.isShape = true) :
    (e.program.type type).isObject = true := by
  obtain ⟨basic, between, first, ran⟩ := of_bind_ok ran
  cases basic with
  | some held =>
      cases ran
      rw [Node.isShape_of_isPlain (plain_of_basic type w _ _ first _ rfl)] at shape
      cases shape
  | none =>
      obtain ⟨object, later, second, ran⟩ := of_bind_ok ran
      cases object with
      | some held => exact (flattens_of_includeObject ordered second).1
      | none =>
          obtain ⟨_, _, -, ran⟩ := of_bind_ok ran
          obtain ⟨_, _, -, ran⟩ := of_bind_ok ran
          cases ran
          cases shape

theorem grants_linked {e : Engine} (fits : e.program.Fits manner ages now) (suits : e.Suits) :
    e.Grants fun _ => e.Linked where
  later _ linked := linked
  type {type name w node after} enters _ ran := by
    obtain ⟨depth, entries, levels, ran⟩ := ran
    have founded := founded_inner e depth entries levels
    have ordered := orderly_inner e.program e.settings e.libraries depth entries levels
    cases shape : node.isShape with
    | false => exact .plain shape
    | true =>
        have object := object_of_includeNamed ordered ran shape
        rw [founded.program] at object
        exact .type (enters.registers (isObject_of_entryType object)) fun nominal =>
          links_of_includeNamed founded fits suits nominal ran
  named _ _ _ _ ran := by
    obtain ⟨depth, entries, levels, ran⟩ := ran
    exact .plain (plain_of_aliasBody _ _ _ _ ran)
  imported _ _ _ := .plain rfl
  base {declaration site clause base name w node after} held listed denoted _ described ran := by
    obtain ⟨depth, entries, levels, ran⟩ := ran
    have founded := founded_inner e depth entries levels
    have suited := suits declaration clause.token base ⟨clause, held, rfl, site, listed, denoted⟩
    cases suited.of_same founded.program founded.settings with
    | referable referable _ =>
        obtain ⟨r, rfl⟩ := ref_of_includeType referable ran
        exact absurd rfl (described r)
    | keyof keyof _ =>
        obtain ⟨operand, keyof⟩ := Option.isSome_iff_exists.mp keyof
        simp only [includeType, keyof] at ran
        obtain ⟨inner, _, -, ran⟩ := of_bind_ok ran
        cases ran
        exact .plain rfl
  root owned _ _ := .root owned

theorem Linked.of_apart {e : Engine} {name : String} {node : Node} (linked : e.Linked name node)
    (apart : e.program.RootsApart e.settings) (shape : node.isShape = true) {type : TypeId}
    (registers : e.program.Registers type name) : ∃ type, e.program.Registers type name ∧
      ((e.program.type (e.entryType type)).isNominal = true →
        e.Links (e.Derives (e.entryType type)) node.outgoing) := by
  cases linked with
  | plain plain =>
      rw [plain] at shape
      cases shape
  | type registers links => exact ⟨_, registers, links⟩
  | root owned =>
      exfalso
      rcases owned with rfl | rfl | ⟨symbol, isRoot, rfl, anonymous⟩
      · exact apart.default type registers
      · exact apart.synthetic type registers
      · have owned := apart.roots symbol isRoot
        unfold Symbol.Owned at owned
        split at owned
        · rename_i declares
          rw [anonymous declares] at owned
          cases owned
        · exact owned type registers

end Engine

end TypeAtlas
