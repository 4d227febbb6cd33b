import TypeAtlas.Proofs.Builder.Basic

/-!
Writing a type down leaves the places alone that were there before.
-/

namespace TypeAtlas

structure Program.Spared (n : Nat) (p q : Program) : Prop where
  bound : n ≤ q.sites.size
  site : ∀ other : SiteId, other.index < n → q.site other = p.site other

namespace Build

open Program

variable {α β : Type} {n : Nat} {p q : Program}

structure Spares (n : Nat) (p : Program) (step : Build α) (told : α → Prop) : Prop where
  spared : p.Spared n (step p).2
  result : ∀ value after, step p = (.ok value, after) → told value

theorem spares_pure {told : α → Prop} {value : α} (bound : n ≤ p.sites.size) (holds : told value) :
    Spares n p (pure value) told := by
  refine ⟨⟨bound, fun _ _ => rfl⟩, ?_⟩
  intro other after ran
  cases ran
  exact holds

theorem spares_bind {step : Build α} {next : α → Build β} {told : α → Prop} {more : β → Prop}
    (first : Spares n p step told)
    (rest : ∀ value q, n ≤ q.sites.size → told value → Spares n q (next value) more) :
    Spares n p (step >>= next) more := by
  have spared := first.spared
  rcases ran : step p with ⟨fault | value, after⟩
  · rw [ran] at spared
    have stopped : (step >>= next) p = (.error fault, after) := bind_error ran
    refine ⟨by rwa [stopped], ?_⟩
    intro result final ended
    rw [stopped] at ended
    cases ended
  · rw [ran] at spared
    have second := rest value after spared.bound (first.result value after ran)
    have went : (step >>= next) p = next value after := bind_ok ran
    refine ⟨?_, ?_⟩
    · rw [went]
      refine ⟨second.spared.bound, ?_⟩
      intro other below
      rw [second.spared.site other below, spared.site other below]
    · intro result final ended
      rw [went] at ended
      exact second.result result final ended

theorem spares_lift {result : Except Fault α} {told : α → Prop} (bound : n ≤ p.sites.size)
    (holds : ∀ value, told value) : Spares n p (liftM result) told :=
  ⟨⟨bound, fun _ _ => rfl⟩, fun value _ _ => holds value⟩

theorem spares_throw (bound : n ≤ p.sites.size) (fault : Fault) {told : α → Prop} :
    Spares n p (throw fault) told := by
  refine ⟨⟨bound, fun _ _ => rfl⟩, ?_⟩
  intro value after ran
  cases ran

theorem spares_get (bound : n ≤ p.sites.size) : Spares n p get fun _ => True :=
  ⟨⟨bound, fun _ _ => rfl⟩, fun _ _ _ => trivial⟩

theorem spares_newSite (bound : n ≤ p.sites.size) (site : Site) :
    Spares n p (newSite site) fun id => n ≤ id.index := by
  refine ⟨⟨?_, ?_⟩, ?_⟩
  · exact Nat.le_trans bound (p.before_addSite site).sites
  · intro other below
    exact (p.site_addSite site other).trans (if_neg (by omega))
  · intro id after ran
    cases ran
    exact bound

theorem spares_setSite (bound : n ≤ p.sites.size) {id : SiteId} (above : n ≤ id.index)
    (f : Site → Site) : Spares n p (setSite id f) fun _ => True := by
  refine ⟨⟨?_, ?_⟩, fun _ _ _ => trivial⟩
  · change n ≤ (p.sites.modify id.index f).size
    rwa [Array.size_modify]
  · intro other below
    refine (p.site_modifySite id other f).trans (if_neg ?_)
    rintro ⟨rfl, -⟩
    omega

theorem spares_bindSite (bound : n ≤ p.sites.size) {id : SiteId} (above : n ≤ id.index)
    (type : Option TypeId) : Spares n p (bindSite (some id) type) fun _ => True :=
  spares_setSite bound above _

theorem spares_ask (bound : n ≤ p.sites.size) (query : Program → Except Fault α) :
    Spares n p (ask query) fun _ => True :=
  spares_bind (spares_get bound) fun _ _ bound _ => spares_lift bound fun _ => trivial

theorem spares_written (fuel : Nat) :
    (∀ {p type parent}, n ≤ p.sites.size →
      Spares n p (writtenFrom fuel type parent) fun site => n ≤ site.index) ∧
    (∀ {p types parent}, n ≤ p.sites.size →
      Spares n p (writtenEach fuel types parent) fun _ => True) := by
  induction fuel with
  | zero => exact ⟨fun bound => spares_throw bound _, fun bound => spares_throw bound _⟩
  | succ fuel ih =>
      constructor
      · intro p type parent bound
        unfold writtenFrom
        refine spares_bind (spares_get bound) fun p _ bound _ => ?_
        refine spares_bind (spares_lift bound fun _ => trivial) fun id _ bound _ => ?_
        have finish {q : Program} {site : SiteId} (bound : n ≤ q.sites.size) (above : n ≤ site.index) :
            Spares n q (do bindSite site id; pure site) fun site => n ≤ site.index :=
          spares_bind (spares_bindSite bound above _) fun _ _ bound _ => spares_pure bound above
        dsimp only
        split
        · refine spares_bind (spares_newSite bound _) fun site _ bound above => ?_
          refine spares_bind (spares_ask bound _) fun declared _ bound _ => ?_
          refine spares_bind (spares_setSite bound above _) fun _ _ bound _ => ?_
          rw [pure_bind]
          exact finish bound above
        · split
          · exact spares_bind (spares_newSite bound _) fun site _ bound above => finish bound above
          · split
            · refine spares_bind (spares_newSite bound _) fun site _ bound above => ?_
              refine spares_bind (ih.1 bound) fun child _ bound _ => ?_
              refine spares_bind (spares_setSite bound above _) fun _ _ bound _ => ?_
              rw [pure_bind]
              exact finish bound above
            · split
              · refine spares_bind (spares_newSite bound _) fun site _ bound above => ?_
                refine spares_bind (spares_lift bound fun _ => trivial) fun types _ bound _ => ?_
                refine spares_bind (ih.2 bound) fun children _ bound _ => ?_
                refine spares_bind (spares_setSite bound above _) fun _ _ bound _ => ?_
                rw [pure_bind]
                exact finish bound above
              · exact spares_bind (spares_newSite bound _) fun site _ bound above =>
                  finish bound above
      · intro p types parent bound
        cases types with
        | nil => exact spares_pure bound trivial
        | cons type rest =>
            unfold writtenEach
            refine spares_bind (ih.1 bound) fun first _ bound _ => ?_
            refine spares_bind (ih.2 bound) fun others _ bound _ => ?_
            exact spares_pure bound trivial

theorem site_writtenType (type : Option TypeId) (parent : Option SiteId) {site : SiteId}
    (inside : site.index < p.sites.size) :
    (writtenType type parent p).2.site site = p.site site := by
  have spares : Spares p.sites.size p (writtenType type parent) fun site => p.sites.size ≤ site.index :=
    spares_bind (spares_get (Nat.le_refl _)) fun _ _ bound _ => (spares_written _).1 bound
  exact spares.spared.site site inside

end Build

end TypeAtlas
