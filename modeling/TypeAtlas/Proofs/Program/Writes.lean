import TypeAtlas.Proofs.Program.Keeps

/-!
The writes of a building step: new records, changed records and answers of the checker. A write keeps
the program fitting when the record it leaves behind fits.
-/

namespace TypeAtlas

variable {manner : Manner} {ages : Ages} {now : Nat} {p q : Program}

namespace Program

theorem before_addSite (p : Program) (site : Site) : p.Before (p.addSite site).2 where
  sites := by simp [addSite]
  symbols := Nat.le_refl _
  types := Nat.le_refl _
  signatures := Nat.le_refl _
  indexes := Nat.le_refl _
  site id inside := by
    rw [site_addSite, if_neg (Nat.ne_of_lt inside)]
    exact Site.Stays.refl _
  symbol _ _ := Symbol.Stays.refl _
  type _ _ := TypeInfo.Stays.refl _

theorem before_addSymbol (p : Program) (symbol : Symbol) : p.Before (p.addSymbol symbol).2 where
  sites := Nat.le_refl _
  symbols := by simp [addSymbol, addNumberedSymbol]
  types := Nat.le_refl _
  signatures := Nat.le_refl _
  indexes := Nat.le_refl _
  site _ _ := Site.Stays.refl _
  symbol id inside := by
    rw [symbol_addSymbol, if_neg (Nat.ne_of_lt inside)]
    exact Symbol.Stays.refl _
  type _ _ := TypeInfo.Stays.refl _

theorem before_addType (p : Program) (type : TypeInfo) : p.Before (p.addType type).2 where
  sites := Nat.le_refl _
  symbols := Nat.le_refl _
  types := by simp [addType, addNumberedType]
  signatures := Nat.le_refl _
  indexes := Nat.le_refl _
  site _ _ := Site.Stays.refl _
  symbol _ _ := Symbol.Stays.refl _
  type id inside := by
    rw [type_addType, if_neg (Nat.ne_of_lt inside)]
    exact TypeInfo.Stays.refl _

theorem before_addSignature (p : Program) (signature : Signature) :
    p.Before (p.addSignature signature).2 where
  sites := Nat.le_refl _
  symbols := Nat.le_refl _
  types := Nat.le_refl _
  signatures := by simp [addSignature]
  indexes := Nat.le_refl _
  site _ _ := Site.Stays.refl _
  symbol _ _ := Symbol.Stays.refl _
  type _ _ := TypeInfo.Stays.refl _

theorem before_addIndexInfo (p : Program) (info : IndexInfo) : p.Before (p.addIndexInfo info).2 where
  sites := Nat.le_refl _
  symbols := Nat.le_refl _
  types := Nat.le_refl _
  signatures := Nat.le_refl _
  indexes := by simp [addIndexInfo]
  site _ _ := Site.Stays.refl _
  symbol _ _ := Symbol.Stays.refl _
  type _ _ := TypeInfo.Stays.refl _

theorem before_modifySite {id : SiteId} {f : Site → Site} (stays : (p.site id).Stays (f (p.site id))) :
    p.Before (p.modifySite id f) where
  sites := by simp [modifySite]
  symbols := Nat.le_refl _
  types := Nat.le_refl _
  signatures := Nat.le_refl _
  indexes := Nat.le_refl _
  site other inside := by
    rw [site_modifySite]
    split
    · rename_i same
      rw [same.1]
      exact stays
    · exact Site.Stays.refl _
  symbol _ _ := Symbol.Stays.refl _
  type _ _ := TypeInfo.Stays.refl _

theorem before_modifySymbol {id : SymbolId} {f : Symbol → Symbol}
    (stays : (p.symbol id).Stays (f (p.symbol id))) : p.Before (p.modifySymbol id f) where
  sites := Nat.le_refl _
  symbols := by simp [modifySymbol]
  types := Nat.le_refl _
  signatures := Nat.le_refl _
  indexes := Nat.le_refl _
  site _ _ := Site.Stays.refl _
  symbol other inside := by
    rw [symbol_modifySymbol]
    split
    · rename_i same
      rw [same.1]
      exact stays
    · exact Symbol.Stays.refl _
  type _ _ := TypeInfo.Stays.refl _

theorem before_modifyType {id : TypeId} {f : TypeInfo → TypeInfo}
    (stays : (p.type id).Stays (f (p.type id))) : p.Before (p.modifyType id f) where
  sites := Nat.le_refl _
  symbols := Nat.le_refl _
  types := by simp [modifyType]
  signatures := Nat.le_refl _
  indexes := Nat.le_refl _
  site _ _ := Site.Stays.refl _
  symbol _ _ := Symbol.Stays.refl _
  type other inside := by
    rw [type_modifyType]
    split
    · rename_i same
      rw [same.1]
      exact stays
    · exact TypeInfo.Stays.refl _

theorem before_of_same (sites : q.sites = p.sites) (symbols : q.symbols = p.symbols)
    (types : q.types = p.types) (signatures : q.signatures = p.signatures)
    (indexes : q.indexes = p.indexes) : p.Before q where
  sites := Nat.le_of_eq (by rw [sites])
  symbols := Nat.le_of_eq (by rw [symbols])
  types := Nat.le_of_eq (by rw [types])
  signatures := Nat.le_of_eq (by rw [signatures])
  indexes := Nat.le_of_eq (by rw [indexes])
  site id _ := by
    have same : q.site id = p.site id := by rw [Program.site, sites, Program.site]
    rw [same]
    exact Site.Stays.refl _
  symbol id _ := by
    have same : q.symbol id = p.symbol id := by rw [Program.symbol, symbols, Program.symbol]
    rw [same]
    exact Symbol.Stays.refl _
  type id _ := by
    have same : q.type id = p.type id := by rw [Program.type, types, Program.type]
    rw [same]
    exact TypeInfo.Stays.refl _

namespace Live

theorem age_le (live : p.Live manner ages now) (id : SiteId) : ages.site id ≤ p.types.size :=
  Nat.le_trans (live.site id) live.bound

/-- Records that were not written fit as before. -/
theorem rebuild (live : p.Live manner ages now) (before : p.Before q)
    (sites : ∀ id, q.site id = p.site id ∨ SiteFits manner ages q (ages.site id) (q.site id))
    (symbols : ∀ id, q.symbol id = p.symbol id ∨ SymbolFits ages q (ages.symbol id) (q.symbol id))
    (types : ∀ id, q.type id = p.type id ∨ TypeFits manner ages q id.index (q.type id))
    (signatures : ∀ id, q.signature id = p.signature id ∨
      SignatureFits manner ages q (ages.signature id) (q.signature id))
    (indexes : ∀ id, q.indexInfo id = p.indexInfo id ∨
      IndexFits (ages.index id) (q.indexInfo id))
    (inferred : ∀ type ∈ q.inferred, (p.type type).isTypeParameter = true)
    (nowhere : q.answersNowhere = p.answersNowhere) : q.Live manner ages now where
  sites id := by
    rcases sites id with same | fits
    · rw [same]
      exact (live.sites id).stay before (live.age_le id)
    · exact fits
  symbols id := by
    rcases symbols id with same | fits
    · rw [same]
      exact (live.symbols id).stay before
    · exact fits
  types id := by
    rcases types id with same | fits
    · rw [same]
      exact (live.types id).stay before
    · exact fits
  signatures id := by
    rcases signatures id with same | fits
    · rw [same]
      exact (live.signatures id).stay before
    · exact fits
  indexes id := by
    rcases indexes id with same | fits
    · rw [same]
      exact live.indexes id
    · exact fits
  inferred type member := before.isTypeParameter (inferred type member)
  nowhere := by
    rw [nowhere]
    exact live.nowhere
  founded := live.founded
  bound := Nat.le_trans live.bound before.types
  site := live.site
  symbol := live.symbol
  signature := live.signature
  index := live.index
  siteNow id outside := live.siteNow id (Nat.le_trans before.sites outside)
  symbolNow id outside := live.symbolNow id (Nat.le_trans before.symbols outside)
  signatureNow id outside := live.signatureNow id (Nat.le_trans before.signatures outside)
  indexNow id outside := live.indexNow id (Nat.le_trans before.indexes outside)
  ordered := live.ordered

variable (live : p.Live manner ages now)
include live

theorem addSite {site : Site} (fits : SiteFits manner ages p now site) :
    (p.addSite site).2.Live manner ages now := by
  have before := p.before_addSite site
  refine live.rebuild before ?_ (fun _ => .inl rfl) (fun _ => .inl rfl) (fun _ => .inl rfl)
    (fun _ => .inl rfl) live.inferred rfl
  intro id
  by_cases last : id.index = p.sites.size
  · right
    rw [site_addSite, if_pos last, live.siteNow id (Nat.le_of_eq last.symm)]
    exact fits.stay before live.bound
  · left
    rw [site_addSite, if_neg last]

theorem addSymbol {symbol : Symbol} (fits : ∀ id, SymbolFits ages p now { symbol with id }) :
    (p.addSymbol symbol).2.Live manner ages now := by
  have before := p.before_addSymbol symbol
  refine live.rebuild before (fun _ => .inl rfl) ?_ (fun _ => .inl rfl) (fun _ => .inl rfl)
    (fun _ => .inl rfl) live.inferred rfl
  intro id
  by_cases last : id.index = p.symbols.size
  · right
    rw [symbol_addSymbol, if_pos last, live.symbolNow id (Nat.le_of_eq last.symm)]
    exact (fits _).stay before
  · left
    rw [symbol_addSymbol, if_neg last]

theorem addType {type : TypeInfo}
    (fits : ∀ id, TypeFits manner ages p p.types.size { type with id }) :
    (p.addType type).2.Live manner ages now := by
  have before := p.before_addType type
  refine live.rebuild before (fun _ => .inl rfl) (fun _ => .inl rfl) ?_ (fun _ => .inl rfl)
    (fun _ => .inl rfl) live.inferred rfl
  intro id
  by_cases last : id.index = p.types.size
  · right
    rw [type_addType, if_pos last, last]
    exact (fits _).stay before
  · left
    rw [type_addType, if_neg last]

theorem addSignature {signature : Signature} (fits : SignatureFits manner ages p now signature) :
    (p.addSignature signature).2.Live manner ages now := by
  have before := p.before_addSignature signature
  refine live.rebuild before (fun _ => .inl rfl) (fun _ => .inl rfl) (fun _ => .inl rfl) ?_
    (fun _ => .inl rfl) live.inferred rfl
  intro id
  by_cases last : id.index = p.signatures.size
  · right
    rw [signature_addSignature, if_pos last, live.signatureNow id (Nat.le_of_eq last.symm)]
    exact fits.stay before
  · left
    rw [signature_addSignature, if_neg last]

theorem addIndexInfo {info : IndexInfo} (fits : IndexFits now info) :
    (p.addIndexInfo info).2.Live manner ages now := by
  refine live.rebuild (p.before_addIndexInfo info) (fun _ => .inl rfl) (fun _ => .inl rfl)
    (fun _ => .inl rfl) (fun _ => .inl rfl) ?_ live.inferred rfl
  intro id
  by_cases last : id.index = p.indexes.size
  · right
    rw [indexInfo_addIndexInfo, if_pos last, live.indexNow id (Nat.le_of_eq last.symm)]
    exact fits
  · left
    rw [indexInfo_addIndexInfo, if_neg last]

theorem modifySite {id : SiteId} {f : Site → Site} (stays : (p.site id).Stays (f (p.site id)))
    (fits : SiteFits manner ages p (ages.site id) (f (p.site id))) :
    (p.modifySite id f).Live manner ages now := by
  have before := before_modifySite stays
  refine live.rebuild before ?_ (fun _ => .inl rfl) (fun _ => .inl rfl) (fun _ => .inl rfl)
    (fun _ => .inl rfl) live.inferred rfl
  intro other
  by_cases same : other = id ∧ other.index < p.sites.size
  · right
    rw [site_modifySite, if_pos same, same.1]
    exact fits.stay before (live.age_le id)
  · left
    rw [site_modifySite, if_neg same]

theorem modifySymbol {id : SymbolId} {f : Symbol → Symbol}
    (stays : (p.symbol id).Stays (f (p.symbol id)))
    (fits : SymbolFits ages p (ages.symbol id) (f (p.symbol id))) :
    (p.modifySymbol id f).Live manner ages now := by
  have before := before_modifySymbol stays
  refine live.rebuild before (fun _ => .inl rfl) ?_ (fun _ => .inl rfl) (fun _ => .inl rfl)
    (fun _ => .inl rfl) live.inferred rfl
  intro other
  by_cases same : other = id ∧ other.index < p.symbols.size
  · right
    rw [symbol_modifySymbol, if_pos same, same.1]
    exact fits.stay before
  · left
    rw [symbol_modifySymbol, if_neg same]

theorem modifyType {id : TypeId} {f : TypeInfo → TypeInfo}
    (stays : (p.type id).Stays (f (p.type id)))
    (fits : TypeFits manner ages p id.index (f (p.type id))) :
    (p.modifyType id f).Live manner ages now := by
  have before := before_modifyType stays
  refine live.rebuild before (fun _ => .inl rfl) (fun _ => .inl rfl) ?_ (fun _ => .inl rfl)
    (fun _ => .inl rfl) live.inferred rfl
  intro other
  by_cases same : other = id ∧ other.index < p.types.size
  · right
    rw [type_modifyType, if_pos same, same.1]
    exact fits.stay before
  · left
    rw [type_modifyType, if_neg same]

end Live

end Program

namespace Build

section Steps

variable (live : p.Live manner ages now)
include live

theorem keeps_newSite {site : Site} (fits : SiteFits manner ages p now site) :
    Keeps manner ages now p (newSite site) fun q id =>
      id.index < q.sites.size ∧ ages.site id = now ∧ q.site id = site ∧
        ∀ other : SiteId, other.index < p.sites.size → q.site other = p.site other := by
  refine ⟨live.addSite fits, p.before_addSite site, ?_⟩
  intro id after ran
  cases ran
  refine ⟨?_, live.siteNow _ (Nat.le_refl _), (p.site_addSite site _).trans (if_pos rfl), ?_⟩
  · change p.sites.size < (p.sites.push site).size
    rw [Array.size_push]
    exact Nat.lt_succ_self _
  · intro other inside
    exact (p.site_addSite site other).trans (if_neg (Nat.ne_of_lt inside))

theorem keeps_newSymbol {symbol : Symbol} (fits : ∀ id, SymbolFits ages p now { symbol with id }) :
    Keeps manner ages now p (newSymbol symbol) fun q id =>
      id.index < q.symbols.size ∧ ages.symbol id = now ∧
        q.symbol id = { symbol with id := p.lastId + 1 } := by
  refine ⟨live.addSymbol fits, p.before_addSymbol symbol, ?_⟩
  intro id after ran
  cases ran
  refine ⟨?_, live.symbolNow _ (Nat.le_refl _), ?_⟩
  · change p.symbols.size < (p.symbols.push _).size
    rw [Array.size_push]
    exact Nat.lt_succ_self _
  · exact (p.symbol_addSymbol symbol _).trans (if_pos rfl)

theorem keeps_newType {type : TypeInfo}
    (fits : ∀ id, TypeFits manner ages p p.types.size { type with id }) :
    Keeps manner ages now p (newType type) fun q id =>
      id.index < q.types.size ∧ now ≤ id.index ∧
        q.type id = { type with id := p.lastId + 1 } := by
  refine ⟨live.addType fits, p.before_addType type, ?_⟩
  intro id after ran
  cases ran
  refine ⟨?_, live.bound, ?_⟩
  · change p.types.size < (p.types.push _).size
    rw [Array.size_push]
    exact Nat.lt_succ_self _
  · exact (p.type_addType type _).trans (if_pos rfl)

theorem keeps_newSignature {signature : Signature}
    (fits : SignatureFits manner ages p now signature) :
    Keeps manner ages now p (newSignature signature) fun q id => ages.SignatureBy q now id := by
  refine ⟨live.addSignature fits, p.before_addSignature signature, ?_⟩
  intro id after ran
  cases ran
  refine ⟨?_, live.signature _⟩
  change p.signatures.size < (p.signatures.push signature).size
  rw [Array.size_push]
  exact Nat.lt_succ_self _

theorem keeps_newIndexInfo {info : IndexInfo} (fits : IndexFits now info) :
    Keeps manner ages now p (newIndexInfo info) fun q id => ages.IndexBy q now id := by
  refine ⟨live.addIndexInfo fits, p.before_addIndexInfo info, ?_⟩
  intro id after ran
  cases ran
  refine ⟨?_, live.index _⟩
  change p.indexes.size < (p.indexes.push info).size
  rw [Array.size_push]
  exact Nat.lt_succ_self _

theorem keeps_setSite {id : SiteId} {f : Site → Site} (stays : (p.site id).Stays (f (p.site id)))
    (fits : SiteFits manner ages p (ages.site id) (f (p.site id))) :
    Keeps manner ages now p (setSite id f) fun q _ =>
      id.index < p.sites.size → q.site id = f (p.site id) := by
  refine ⟨live.modifySite stays fits, Program.before_modifySite stays, ?_⟩
  intro value after ran inside
  cases ran
  exact (p.site_modifySite id id f).trans (if_pos ⟨rfl, inside⟩)

theorem keeps_setSymbol {id : SymbolId} {f : Symbol → Symbol}
    (stays : (p.symbol id).Stays (f (p.symbol id)))
    (fits : SymbolFits ages p (ages.symbol id) (f (p.symbol id))) :
    Keeps manner ages now p (setSymbol id f) fun _ _ => True :=
  ⟨live.modifySymbol stays fits, Program.before_modifySymbol stays, fun _ _ _ => trivial⟩

theorem keeps_setType {id : TypeId} {f : TypeInfo → TypeInfo}
    (stays : (p.type id).Stays (f (p.type id)))
    (fits : TypeFits manner ages p id.index (f (p.type id))) :
    Keeps manner ages now p (setType id f) fun _ _ => True :=
  ⟨live.modifyType stays fits, Program.before_modifyType stays, fun _ _ _ => trivial⟩

/-- The checker's answers do not change what a record is. -/
theorem keeps_bindSite {id : SiteId} {type : Option TypeId}
    (fits : SiteFits manner ages p (ages.site id)
      { p.site id with answers := { (p.site id).answers with type := some type } }) :
    Keeps manner ages now p (bindSite (some id) type) fun _ _ => True := by
  have stays : (p.site id).Stays
      { p.site id with answers := { (p.site id).answers with type := some type } } :=
    ⟨rfl, rfl, fun _ _ held => held⟩
  exact ⟨live.modifySite stays fits, Program.before_modifySite stays, fun _ _ _ => trivial⟩

theorem keeps_bindSignature {id : SiteId} {signature : SignatureId}
    (made : ages.SignatureBy p (ages.site id) signature) :
    Keeps manner ages now p (bindSignature (some id) (some signature)) fun _ _ => True := by
  have stays : (p.site id).Stays { p.site id with
      answers := { (p.site id).answers with signature := some (some signature) } } :=
    ⟨rfl, rfl, fun _ _ held => held⟩
  have fits : SiteFits manner ages p (ages.site id) { p.site id with
      answers := { (p.site id).answers with signature := some (some signature) } } :=
    { live.sites id with
      signature := by
        intro other held
        cases held
        exact made }
  exact ⟨live.modifySite stays fits, Program.before_modifySite stays, fun _ _ _ => trivial⟩

theorem keeps_bindSymbol {id : SymbolId} {type : Option TypeId}
    (older : (p.symbol id).hasFlag .property = true → ∀ value, type = some value →
      value.index < ages.symbol id) :
    Keeps manner ages now p (bindSymbol (some id) type) fun _ _ => True := by
  have stays : (p.symbol id).Stays { p.symbol id with
      answers := { (p.symbol id).answers with value := some type } } :=
    ⟨rfl, rfl, fun _ _ held => held⟩
  have fits : SymbolFits ages p (ages.symbol id) { p.symbol id with
      answers := { (p.symbol id).answers with value := some type } } :=
    { live.symbols id with
      value := by
        intro flagged value held
        cases held
        exact older flagged value rfl }
  exact ⟨live.modifySymbol stays fits, Program.before_modifySymbol stays, fun _ _ _ => trivial⟩

theorem keeps_bindDeclared {id : SymbolId} {type : TypeId}
    (aliased : (p.symbol id).hasFlag .typeAlias = true → type.index < ages.symbol id)
    (nominal : (p.symbol id).isNominal = true → (p.type type).isNominal = true)
    (parameter : (p.symbol id).hasFlag .typeParameter = true →
      (p.type type).isTypeParameter = true)
    (declares : (p.symbol id).isTypeSymbol = true → p.Declares type (p.symbol id).name) :
    Keeps manner ages now p (bindDeclared (some id) (some type)) fun _ _ => True := by
  have stays : (p.symbol id).Stays { p.symbol id with
      answers := { (p.symbol id).answers with declared := some (some type) } } :=
    ⟨rfl, rfl, fun _ _ held => held⟩
  have fits : SymbolFits ages p (ages.symbol id) { p.symbol id with
      answers := { (p.symbol id).answers with declared := some (some type) } } :=
    { live.symbols id with
      aliased := by
        intro flagged value held
        cases held
        exact aliased flagged
      nominal := by
        intro flagged value held
        cases held
        exact nominal flagged
      parameterType := by
        intro flagged value held
        cases held
        exact parameter flagged
      declares := by
        intro flagged value held
        cases held
        exact declares flagged }
  exact ⟨live.modifySymbol stays fits, Program.before_modifySymbol stays, fun _ _ _ => trivial⟩

theorem keeps_modify {f : Program → Program} (sites : (f p).sites = p.sites)
    (symbols : (f p).symbols = p.symbols) (types : (f p).types = p.types)
    (signatures : (f p).signatures = p.signatures) (indexes : (f p).indexes = p.indexes)
    (inferred : ∀ type ∈ (f p).inferred, (p.type type).isTypeParameter = true)
    (nowhere : (f p).answersNowhere = p.answersNowhere) :
    Keeps manner ages now p (modify f) fun _ _ => True := by
  have before : p.Before (f p) := Program.before_of_same sites symbols types signatures indexes
  refine ⟨live.rebuild before ?_ ?_ ?_ ?_ ?_ inferred nowhere, before, fun _ _ _ => trivial⟩
  · intro id
    left
    change (f p).site id = p.site id
    rw [Program.site, Program.site, sites]
  · intro id
    left
    change (f p).symbol id = p.symbol id
    rw [Program.symbol, Program.symbol, symbols]
  · intro id
    left
    change (f p).type id = p.type id
    rw [Program.type, Program.type, types]
  · intro id
    left
    change (f p).signature id = p.signature id
    rw [Program.signature, Program.signature, signatures]
  · intro id
    left
    change (f p).indexInfo id = p.indexInfo id
    rw [Program.indexInfo, Program.indexInfo, indexes]

end Steps

end Build

end TypeAtlas
