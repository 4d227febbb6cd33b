import TypeAtlas.Program.Builder.Written
import TypeAtlas.Proofs.Program.Spelled

/-!
Writing a type down spells it out: the place gets the name of the type, or stands for its parts in the
order in which the type has them.
-/

namespace TypeAtlas

namespace Program

variable {p q r : Program}

/-- Nothing but places is added, and those that were there stay as they are. -/
structure AddsSites (p q : Program) : Prop where
  sites : p.sites.size ≤ q.sites.size
  site : ∀ id : SiteId, id.index < p.sites.size → q.site id = p.site id
  symbols : q.symbols = p.symbols
  types : q.types = p.types
  inferred : q.inferred = p.inferred

namespace AddsSites

theorem refl (p : Program) : p.AddsSites p := ⟨Nat.le_refl _, fun _ _ => rfl, rfl, rfl, rfl⟩

theorem trans (first : p.AddsSites q) (second : q.AddsSites r) : p.AddsSites r :=
  ⟨Nat.le_trans first.sites second.sites, fun id inside =>
    (second.site id (Nat.lt_of_lt_of_le inside first.sites)).trans (first.site id inside),
    second.symbols.trans first.symbols, second.types.trans first.types,
    second.inferred.trans first.inferred⟩

theorem addSite (adds : p.AddsSites q) (s : Site) : p.AddsSites (q.addSite s).2 := by
  refine ⟨by simp [Program.addSite, Nat.le_succ_of_le adds.sites], fun id inside => ?_, adds.symbols,
    adds.types, adds.inferred⟩
  rw [site_addSite, if_neg (Nat.ne_of_lt (Nat.lt_of_lt_of_le inside adds.sites)), adds.site id inside]

theorem modifySite (adds : p.AddsSites q) {id : SiteId} (outside : p.sites.size ≤ id.index)
    (f : Site → Site) : p.AddsSites (q.modifySite id f) := by
  refine ⟨by simp [Program.modifySite, adds.sites], fun other inside => ?_, adds.symbols, adds.types,
    adds.inferred⟩
  rw [site_modifySite, if_neg ?_, adds.site other inside]
  rintro ⟨rfl, -⟩
  exact absurd inside (Nat.not_lt_of_le outside)

theorem type (adds : p.AddsSites q) (id : TypeId) : q.type id = p.type id := by
  rw [Program.type, adds.types, Program.type]

theorem symbol (adds : p.AddsSites q) (id : SymbolId) : q.symbol id = p.symbol id := by
  rw [Program.symbol, adds.symbols, Program.symbol]

theorem ownName? (adds : p.AddsSites q) (t : TypeInfo) : q.ownName? t = p.ownName? t :=
  ownName?_of_settles (TypeInfo.Settles.refl t) fun symbol _ => by rw [adds.symbol]

end AddsSites

theorem titled_of_writtenName {t : TypeInfo} {name : String} (titled : Build.writtenName? p t = some name) :
    (∃ named, t.alias? = some named ∧ name = (p.symbol named).name) ∨ p.ownName? t = some name := by
  cases aliased : t.alias? with
  | some named =>
      rw [Build.writtenName?, aliased] at titled
      exact .inl ⟨named, rfl, (Option.some_inj.mp titled).symm⟩
  | none =>
      right
      have same : { t with alias? := none } = t := by rw [← aliased]
      rw [Program.ownName?, same, titled]

theorem untitled_of_writtenName {t : TypeInfo} (untitled : Build.writtenName? p t = none) :
    p.ownName? t = none := by
  cases aliased : t.alias? with
  | some named =>
      rw [Build.writtenName?, aliased] at untitled
      cases untitled
  | none =>
      have same : { t with alias? := none } = t := by rw [← aliased]
      rw [Program.ownName?, same, untitled]

def Denoted (type : TypeId) (s : Site) : Site :=
  { s with answers := { s.answers with type := some (some type) } }

theorem Spells.denoted {s : Site} {type other : TypeId} (spells : q.Spells s type) :
    q.Spells (Denoted other s) type :=
  ⟨spells.inferred, spells.titled, spells.untitled, spells.keyof, spells.union, spells.plain⟩

theorem Spells.modifySite {s : Site} {type : TypeId} (spells : q.Spells s type)
    (formed : q.FormedType (q.type type)) {site : SiteId}
    (unanswered : (q.site site).answers.type = none) (f : Site → Site) :
    (q.modifySite site f).Spells s type := by
  refine spells.carry (Site.Like.refl s) formed (TypeInfo.Settles.refl _) (fun _ _ => rfl) ?_
    fun _ held => held
  intro child written answer known
  have other : child ≠ site := by
    rintro rfl
    rw [unanswered] at known
    cases known
  rw [site_modifySite, if_neg fun here => other here.1]
  exact ⟨written, known⟩

structure Wrote (p q : Program) (type : Option TypeId) (site : SiteId) : Prop where
  adds : p.AddsSites q
  new : p.sites.size ≤ site.index
  written : (q.site site).kind.isWritten = true
  answer : (q.site site).answers.type = some type
  spells : ∀ id, type = some id → q.Spells (q.site site) id

end Program

namespace Build

open Program

variable {p q : Program}

theorem spells_denote {begun : Program} (amid : p.Amid q) (adds : begun.AddsSites q)
    (started : p.sites.size ≤ begun.sites.size) {type : TypeId} {site : SiteId}
    (new : begun.sites.size ≤ site.index) (inside : site.index < q.sites.size)
    (written : (q.site site).kind.isWritten = true) (unanswered : (q.site site).answers.type = none)
    (spells : q.Spells (q.site site) type) :
    (spelling p).Keeps q (do bindSite site type; pure site) fun r made =>
      begun.Wrote r (some type) made := by
  have denoted : (q.modifySite site (Denoted type)).Spells (Denoted type (q.site site)) type :=
    (spells.modifySite (amid.formed type) unanswered _).denoted
  refine Course.bind (spells_setSite amid site (Denoted type) rfl
    (.inr (.inr ⟨Nat.le_trans started new, unanswered, fun _ => ?_⟩))) ?_
  · rintro _ ⟨⟩ older
    exact denoted
  · rintro _ r later _ rfl
    have here : (q.modifySite site (Denoted type)).site site = Denoted type (q.site site) :=
      (site_modifySite ..).trans (if_pos ⟨rfl, inside⟩)
    refine Course.pure later ⟨adds.modifySite new _, new, ?_, ?_, ?_⟩
    · rw [here]
      exact written
    · rw [here]
      rfl
    · rintro _ ⟨⟩
      rw [here]
      exact denoted

theorem spells_finish {begun : Program} {made : Site} (amid : p.Amid q)
    (adds : (begun.addSite made).2.AddsSites q) (started : p.sites.size ≤ begun.sites.size)
    {type : TypeId} (written : made.kind.isWritten = true) (unanswered : made.answers.type = none)
    {f : Site → Site} (kind : (f made).kind = made.kind) (answers : (f made).answers = made.answers)
    (spells : q.Spells (f made) type) :
    (spelling p).Keeps q
      (do
        setSite ⟨begun.sites.size⟩ f
        bindSite (some ⟨begun.sites.size⟩) type
        pure ⟨begun.sites.size⟩)
      fun r site => begun.Wrote r (some type) site := by
  have last : begun.sites.size < (begun.addSite made).2.sites.size := by simp [addSite]
  have inside : begun.sites.size < q.sites.size := Nat.lt_of_lt_of_le last adds.sites
  have here : q.site ⟨begun.sites.size⟩ = made :=
    (adds.site _ last).trans ((site_addSite ..).trans (if_pos rfl))
  have before : begun.AddsSites q := ((AddsSites.refl begun).addSite made).trans adds
  have still : (q.site ⟨begun.sites.size⟩).answers.type = none := by rw [here, unanswered]
  have now : (q.modifySite ⟨begun.sites.size⟩ f).site ⟨begun.sites.size⟩ = f made :=
    (site_modifySite ..).trans ((if_pos ⟨rfl, inside⟩).trans (by rw [here]))
  refine Course.bind (spells_setSite amid _ f (by rw [here, kind])
    (.inr (.inr ⟨started, still, fun _ => ?_⟩))) ?_
  · intro other answer
    rw [here, answers, unanswered] at answer
    cases answer
  · rintro _ r later _ rfl
    refine spells_denote later (before.modifySite (Nat.le_refl _) f) started (Nat.le_refl _)
      (by simpa [modifySite] using inside) ?_ ?_ ?_
    · rw [now, kind, written]
    · rw [now, answers, unanswered]
    · rw [now]
      exact spells.modifySite (amid.formed type) still f

theorem spells_written (fuel : Nat) :
    (∀ {q type} parent, p.Amid q → (spelling p).Keeps q (writtenFrom fuel type parent) fun r site =>
      q.Wrote r type site) ∧
    (∀ {q types} parent, p.Amid q → (spelling p).Keeps q (writtenEach fuel types parent) fun r sites =>
      q.AddsSites r ∧ (∀ site ∈ sites, (r.site site).kind.isWritten = true) ∧
        sites.map (fun site => (r.site site).answers.type) = types.map some) := by
  induction fuel with
  | zero => exact ⟨fun _ amid => Course.throw amid _, fun _ amid => Course.throw amid _⟩
  | succ fuel ih =>
      constructor
      · intro q type parent amid
        unfold writtenFrom
        apply Course.get_bind
        refine Course.lift_bind amid fun id found => ?_
        obtain rfl : type = some id := of_present found
        have begin (kind : SiteKind) (name : Option String) :=
          spells_newSite amid (s := { kind, name, parent }) rfl
        have adds (s : Site) : q.AddsSites (q.addSite s).2 := (AddsSites.refl q).addSite s
        -- a place with a name, or with nothing more to it, is complete when it is made
        have simple {r : Program} {s : Site} (amidR : p.Amid r) (made : r = (q.addSite s).2)
            (written : s.kind.isWritten = true) (unanswered : s.answers.type = none)
            (spells : r.Spells s id) :
            (spelling p).Keeps r (do bindSite (some ⟨q.sites.size⟩) id; pure ⟨q.sites.size⟩)
              fun r site => q.Wrote r (some id) site := by
          subst made
          have there : (q.addSite s).2.site ⟨q.sites.size⟩ = s :=
            (site_addSite ..).trans (if_pos rfl)
          refine spells_denote amidR (adds s) amid.sites (Nat.le_refl _) (by simp [addSite]) ?_ ?_ ?_
          · rw [there, written]
          · rw [there, unanswered]
          · rw [there]
            exact spells
        simp only [pure_bind]
        split
        · rename_i inferred
          refine Course.bind (begin .inferType none) ?_
          rintro _ r amidR - ⟨rfl, rfl⟩
          refine Course.ask_bind amidR fun declared _ => ?_
          refine spells_finish amidR (AddsSites.refl _) amid.sites rfl rfl rfl rfl ?_
          refine ⟨fun _ => inferred, ?_, fun other => absurd rfl other, ?_, ?_, ?_⟩
          all_goals rintro ⟨⟩
        · split
          · rename_i name titled
            refine Course.bind (begin .typeReference (some name)) ?_
            rintro _ r amidR - ⟨rfl, made⟩
            refine simple amidR made rfl rfl ?_
            subst made
            refine ⟨by rintro ⟨⟩, fun _ => ?_, fun _ other => absurd rfl other, by rintro ⟨⟩,
              by rintro ⟨⟩, by rintro ⟨⟩⟩
            rcases titled_of_writtenName titled with ⟨named, held, rfl⟩ | own
            · exact .inl ⟨named, held, rfl⟩
            · exact .inr ⟨name, own, rfl⟩
          · rename_i untitled
            have own := untitled_of_writtenName untitled
            split
            · rename_i operand flagged held
              have keyof : (q.type id).keyofOperand? = some operand := by
                rw [TypeInfo.keyofOperand?, flagged, if_pos rfl, held]
              refine Course.bind (begin .keyofOperator none) ?_
              rintro _ r amidR - ⟨rfl, rfl⟩
              refine Course.bind (ih.1 _ amidR) fun child t amidT _ wrote => ?_
              have since := (adds { kind := .keyofOperator, parent }).trans wrote.adds
              refine spells_finish amidT wrote.adds amid.sites rfl rfl rfl rfl ?_
              refine ⟨by rintro ⟨⟩, by rintro ⟨⟩, fun _ _ => ?_, fun _ => ?_, by rintro ⟨⟩, by rintro ⟨⟩⟩
              · rw [since.ownName?, since.type, own]
              · exact ⟨operand, child, by rw [since.type, keyof], rfl, wrote.written, wrote.answer⟩
            · rename_i other
              have plain : (q.type id).keyofOperand? = none := by
                rw [TypeInfo.keyofOperand?]
                split
                · rename_i flagged
                  cases held : (q.type id).operand with
                  | none => rfl
                  | some operand => exact absurd held (other operand flagged)
                · rfl
              split
              · rename_i united
                rw [Bool.and_eq_true, Bool.not_eq_true'] at united
                refine Course.bind (begin .unionType none) ?_
                rintro _ r amidR - ⟨rfl, rfl⟩
                refine Course.lift_bind amidR fun types listed => ?_
                refine Course.bind (ih.2 _ amidR) fun children t amidT _ found => ?_
                obtain ⟨wrote, written, answers⟩ := found
                have since := (adds { kind := .unionType, parent }).trans wrote
                have members : (q.type id).types = some types := by
                  cases held : (q.type id).types with
                  | none =>
                      rw [held] at listed
                      cases listed
                  | some items =>
                      rw [held] at listed
                      cases listed
                      rfl
                refine spells_finish amidT wrote amid.sites rfl rfl rfl rfl ?_
                refine ⟨by rintro ⟨⟩, by rintro ⟨⟩, fun _ _ => ?_, by rintro ⟨⟩, fun _ => ?_, by rintro ⟨⟩⟩
                · rw [since.ownName?, since.type, own]
                · rw [since.type]
                  exact ⟨plain, united.1, united.2, children, types, rfl, members, written, answers⟩
              · rename_i single
                refine Course.bind (begin .typeNode none) ?_
                rintro _ r amidR - ⟨rfl, made⟩
                refine simple amidR made rfl rfl ?_
                subst made
                refine ⟨by rintro ⟨⟩, by rintro ⟨⟩, fun _ _ => own, by rintro ⟨⟩, by rintro ⟨⟩,
                  fun _ => ⟨plain, fun united => ?_⟩⟩
                change (q.type id).hasFlag .boolean = true
                simpa [show (q.type id).hasFlag .union = true from united] using single
      · intro q types parent amid
        cases types with
        | nil => exact Course.pure amid ⟨AddsSites.refl q, by simp, rfl⟩
        | cons type rest =>
            unfold writtenEach
            refine Course.bind (ih.1 parent amid) fun first r amidR _ wrote => ?_
            refine Course.bind (ih.2 parent amidR) fun others t amidT _ found => ?_
            obtain ⟨adds, written, answers⟩ := found
            have same : t.site first = r.site first :=
              adds.site first (inside_of_answered wrote.answer)
            refine Course.pure amidT ⟨wrote.adds.trans adds, ?_, ?_⟩
            · intro site member
              rcases List.mem_cons.mp member with rfl | member
              · rw [same, wrote.written]
              · exact written site member
            · rw [List.map_cons, List.map_cons, answers, same, wrote.answer]

theorem spells_writtenType (amid : p.Amid q) (type : Option TypeId) (parent : Option SiteId) :
    (spelling p).Keeps q (writtenType type parent) fun r site => q.Wrote r type site :=
  Course.get_bind ((spells_written _).1 parent amid)

end Build

end TypeAtlas
