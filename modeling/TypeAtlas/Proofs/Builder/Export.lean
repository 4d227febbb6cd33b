import TypeAtlas.Proofs.Builder.Structural

/-!
Variables, namespaces and default exports keep a program fitting, and so does every call.
-/

namespace TypeAtlas

variable {manner : Manner} {ages : Ages} {now age : Nat} {p q : Program}

namespace Build

open Program

section Steps

variable (live : p.Live manner ages now)
include live

theorem keeps_variableOf (header : Header) {type initializer : Option TypeId}
    (given : Given now [type, initializer]) :
    Keeps manner ages now p (variableOf header type initializer) fun _ _ => True := by
  have suits : Suits .variableDeclaration [.variableKind] := ⟨rfl, by rintro ⟨⟩, by rintro ⟨⟩, by decide⟩
  refine keeps_bind (keeps_declare live suits _ _ _) ?_
  rintro ⟨symbol, site⟩ q live - declared
  refine keeps_bind (keeps_valueDeclaration live declared rfl) ?_
  intro _ r live next _
  have declared := declared.stay next
  have export_ {s : Program} (live : s.Live manner ages now) : Keeps manner ages now s (do
      exportIf header.exported symbol
      pure symbol) fun _ _ => True := by
    refine keeps_bind (keeps_exportIf live header.exported symbol) ?_
    intro _ t live _ _
    exact keeps_pure live trivial
  have bind {s : Program} (live : s.Live manner ages now) (next : r.Before s) :
      Keeps manner ages now s (bindingValue (type <|> initializer) symbol site do
        exportIf header.exported symbol
        pure symbol) fun _ _ => True := by
    have declared := declared.stay next
    unfold bindingValue
    split
    · refine keeps_bind (keeps_bindSymbol live ?_) ?_
      · rw [Symbol.hasFlag, declared.flags]
        rintro ⟨⟩
      intro _ t live next _
      have declared := declared.stay next
      refine keeps_bind (keeps_answer live (by rw [declared.kind]; rfl)
        (by rw [declared.kind]; decide)) ?_
      intro _ u live _ _
      exact export_ live
    · exact export_ live
  have initial {s : Program} (live : s.Live manner ages now) (next : r.Before s) :
      Keeps manner ages now s
        (placingInitializer initializer site <| bindingValue (type <|> initializer) symbol site do
          exportIf header.exported symbol
          pure symbol) fun _ _ => True := by
    cases initializer with
    | none => exact bind live next
    | some value =>
        refine keeps_bind (keeps_newSite live (siteFits_fresh _ _ _ _ _ _ _)) ?_
        rintro expression t live after ⟨inside, -, held, -⟩
        refine keeps_bind (keeps_arrange live rfl) ?_
        intro _ u live last _
        have kind : (u.site expression).kind = .expression := by
          rw [(last.site expression inside).kind, held]
        refine keeps_bind (keeps_answer live (by rw [kind]; rfl) (by rw [kind]; decide)) ?_
        intro _ v live end_ _
        exact bind live (next.trans (after.trans (last.trans end_)))
  cases type with
  | none => exact initial live (Before.refl r)
  | some annotation =>
      refine keeps_bind (keeps_writtenType live given.head _) ?_
      intro written s live next by_
      have declared := declared.stay next
      refine keeps_bind (keeps_giveType live (by rw [declared.kind]; decide)
        (by rwa [declared.siteAge])) ?_
      intro _ t live last _
      exact initial live (next.trans last)

theorem keeps_namespaceOf (name : String) (fileName : Option String) :
    Keeps manner ages now p (namespaceOf name fileName) fun _ _ => True := by
  have suits : Suits .moduleBlock [.namespaceKind] := ⟨rfl, nofun, nofun, by decide⟩
  refine keeps_bind (keeps_declare live suits _ _ _) ?_
  intro declared q live _ _
  exact keeps_pure live trivial

theorem keeps_valueType (symbol : SymbolId) :
    Keeps manner ages now p (valueType symbol) fun _ _ => True := by
  apply keeps_get_bind
  dsimp only
  split
  · exact keeps_ask live fun _ _ => trivial
  · split
    · rw [pure_bind]
      exact keeps_ask live fun _ _ => trivial
    · refine keeps_lift_bind live fun site _ => ?_
      exact keeps_ask live fun _ _ => trivial

theorem keeps_defaultExport {target : DefaultTarget} (doc : Option String)
    (named : ∀ symbol, target = .symbol symbol → symbol.index < p.symbols.size ∧ ¬manner.nameless) :
    Keeps manner ages now p (defaultExport target doc) fun _ _ => True := by
  refine keeps_bind (keeps_newSymbol live fun id => symbolFits_undeclared rfl rfl rfl rfl) ?_
  rintro symbol q live before ⟨there, age, made⟩
  apply keeps_get_bind
  refine keeps_bind (keeps_source live _) ?_
  intro parent r live next _
  have there := Nat.lt_of_lt_of_le there next.symbols
  have flags : (r.symbol symbol).flags = [.aliasKind] := by
    rw [(next.symbol symbol ‹_›).flags, made]
  have fresh : SiteFits manner ages r now { kind := .exportAssignment, parent := some parent } :=
    siteFits_fresh _ _ _ _ _ _ _
  refine keeps_bind (keeps_newSite live
    (fresh.withSymbol ⟨there, live.symbol _⟩ rfl (by rintro _ ⟨⟩)
      fun _ => by rintro (same | same) <;> cases same)) ?_
  rintro site s live after ⟨inside, siteAge, held, -⟩
  have kind : (s.site site).kind = .exportAssignment := by rw [held]
  have flags : (s.symbol symbol).flags = [.aliasKind] := by
    rw [(after.symbol symbol there).flags, flags]
  refine keeps_bind (keeps_setSymbol live ⟨rfl, rfl, ?_⟩
    { live.symbols symbol with
      first := ?_
      parameter := ?_
      member := ?_
      titled := ?_ }) ?_
  · rw [Symbol.hasFlag, flags]
    rintro ⟨⟩
  · intro place held
    cases held
    refine ⟨⟨inside, ?_⟩, by rw [kind]; rfl⟩
    exact Nat.le_of_eq (siteAge.trans age.symm)
  · intro flagged
    change (s.symbol symbol).hasFlag .typeParameter = true at flagged
    rw [Symbol.hasFlag, flags] at flagged
    cases flagged
  · intro flagged
    change (s.symbol symbol).isMember = true at flagged
    rw [Symbol.isMember, Symbol.hasFlag, Symbol.hasFlag, flags] at flagged
    cases flagged
  · rintro place (⟨flagged, -⟩ | value)
    · change (s.symbol symbol).isTitled = true at flagged
      rw [Symbol.isTitled, Symbol.hasFlag, Symbol.hasFlag, flags] at flagged
      cases flagged
    · exact (live.symbols symbol).titled place (Or.inr value)
  intro _ t live last _
  have kind : (t.site site).kind = .exportAssignment := by
    rw [(last.site site inside).kind, kind]
  -- the expression that is exported, once it is there
  have express {u v : Program} {expression : SiteId} (live : v.Live manner ages now)
      (before : t.Before u) (next : u.Before v) (inside : expression.index < v.sites.size)
      (isExpression : (v.site expression).kind = .identifier ∨ (v.site expression).kind = .expression) :
      Keeps manner ages now v (setSite site ({ · with expression := some expression }))
        fun q _ => ((q.site expression).kind = .identifier ∨ (q.site expression).kind = .expression) := by
    have same : (v.site site).kind = .exportAssignment := by
      rw [((before.trans next).site_of_kind (by rw [kind]; decide)).kind, kind]
    refine (keeps_setSite live ⟨rfl, rfl, fun _ _ held => held⟩
      ((live.sites site).withExpression inside isExpression (by rw [same]; decide))).weaken ?_
    intro q _ last _
    rw [(last.site expression inside).kind]
    exact isExpression
  have finish {v : Program} {expression : SiteId} {value : Option TypeId}
      (live : v.Live manner ages now)
      (isExpression : (v.site expression).kind = .identifier ∨ (v.site expression).kind = .expression) :
      Keeps manner ages now v (do
        bindSite expression value
        pushExport symbol
        pure symbol) fun _ _ => True := by
    refine keeps_bind (keeps_answer live ?_ ?_) ?_
    · rcases isExpression with same | same <;> rw [same] <;> rfl
    · rcases isExpression with same | same <;> rw [same] <;> decide
    intro _ w live _ _
    refine keeps_bind (keeps_pushExport live symbol) ?_
    intro _ x live _ _
    exact keeps_pure live trivial
  cases target with
  | symbol other =>
      obtain ⟨known, unnamed⟩ := named other rfl
      have there := Nat.lt_of_lt_of_le known (before.trans (next.trans (after.trans last))).symbols
      dsimp only
      apply keeps_get_bind
      have fresh : SiteFits manner ages t now
          { kind := .identifier, name := some (t.symbol other).name, parent := some site } :=
        siteFits_fresh _ _ _ _ _ _ _
      refine keeps_bind (keeps_newSite live
        (fresh.withSymbol ⟨there, live.symbol _⟩ rfl (fun _ written => Option.some.inj written)
          fun nameless => absurd nameless unnamed)) ?_
      rintro expression u live before ⟨inside, -, held, -⟩
      refine keeps_bind (express live (Before.refl t) before inside (Or.inl (by rw [held]))) ?_
      intro _ v live _ isExpression
      refine keeps_bind (keeps_valueType live other) ?_
      intro value w live next _
      rw [pure_bind]
      apply finish live
      rcases isExpression with same | same
      · exact Or.inl (by rw [(next.site_of_kind (by rw [same]; decide)).kind, same])
      · exact Or.inr (by rw [(next.site_of_kind (by rw [same]; decide)).kind, same])
  | type value =>
      dsimp only
      refine keeps_bind (keeps_newSite live (siteFits_fresh _ _ _ _ _ _ _)) ?_
      rintro expression u live before ⟨inside, -, held, -⟩
      refine keeps_bind (express live (Before.refl t) before inside (Or.inr (by rw [held]))) ?_
      intro _ v live _ isExpression
      rw [pure_bind]
      exact finish live isExpression

theorem keeps_defaultFunction {spec : CallSpec} (given : Given now spec.types) (doc : Option String) :
    Keeps manner ages now p (defaultFunction spec doc) fun _ _ => True := by
  have suits : Suits .functionDeclaration [.function] := ⟨rfl, by rintro ⟨⟩, by rintro ⟨⟩, by decide⟩
  refine keeps_bind (keeps_declare live suits _ _ _) ?_
  rintro ⟨symbol, site⟩ q live - declared
  refine keeps_bind (keeps_valueDeclaration live declared rfl) ?_
  intro _ r live next _
  have declared := declared.stay next
  refine keeps_bind (keeps_callable live declared ⟨rfl, by decide, rfl, rfl⟩ (given.returning live)
    (fun _ _ none => by cases none)) ?_
  intro type s live next _
  have declared := declared.stay next
  refine keeps_bind (keeps_bindSymbol live ?_) ?_
  · rw [Symbol.hasFlag, declared.flags]
    rintro ⟨⟩
  intro _ t live _ _
  refine keeps_bind (keeps_pushExport live symbol) ?_
  intro _ u live _ _
  exact keeps_pure live trivial

end Steps

end Build

end TypeAtlas
