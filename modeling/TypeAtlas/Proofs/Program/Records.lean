import TypeAtlas.Program.Basic

/-!
Reading records back: what was added last stands under the next handle, and a change is seen under
one handle only. No record stands under a handle that is not in use yet.
-/

namespace TypeAtlas

section Arrays

variable {α : Type} [Inhabited α]

theorem getD_push (items : Array α) (item : α) (i : Nat) :
    (items.push item).getD i default = if i = items.size then item else items.getD i default := by
  simp only [Array.getD_eq_getD_getElem?, Array.getElem?_push]
  split <;> rfl

theorem getD_modify (items : Array α) (at_ i : Nat) (f : α → α) :
    (items.modify at_ f).getD i default =
      if i = at_ ∧ i < items.size then f (items.getD i default) else items.getD i default := by
  simp only [Array.getD_eq_getD_getElem?, Array.getElem?_modify]
  by_cases same : at_ = i
  · subst same
    by_cases inside : at_ < items.size
    · simp [inside]
    · simp [inside]
  · simp [same, Ne.symm same]

theorem getD_of_size_le (items : Array α) {i : Nat} (outside : items.size ≤ i) :
    items.getD i default = default := by
  simp [Array.getD_eq_getD_getElem?, outside]

theorem getD_mem (items : Array α) (i : Nat) :
    items.getD i default = default ∨ items.getD i default ∈ items.toList := by
  by_cases inside : i < items.size
  · right
    rw [Array.getD_eq_getD_getElem?, Array.getElem?_eq_getElem inside, Option.getD_some,
      Array.mem_toList_iff]
    exact Array.getElem_mem inside
  · exact Or.inl (getD_of_size_le items (Nat.le_of_not_lt inside))

end Arrays

namespace Program

variable (p : Program)

theorem site_of_size_le {id : SiteId} (outside : p.sites.size ≤ id.index) : p.site id = default :=
  getD_of_size_le p.sites outside

theorem symbol_of_size_le {id : SymbolId} (outside : p.symbols.size ≤ id.index) :
    p.symbol id = default :=
  getD_of_size_le p.symbols outside

theorem type_of_size_le {id : TypeId} (outside : p.types.size ≤ id.index) : p.type id = default :=
  getD_of_size_le p.types outside

theorem site_of_forall (holds : Site → Prop) (none : holds default)
    (each : ∀ s ∈ p.sites.toList, holds s) (id : SiteId) : holds (p.site id) := by
  rcases getD_mem p.sites id.index with absent | there
  · rwa [site, absent]
  · exact each _ there

theorem symbol_of_forall (holds : Symbol → Prop) (none : holds default)
    (each : ∀ s ∈ p.symbols.toList, holds s) (id : SymbolId) : holds (p.symbol id) := by
  rcases getD_mem p.symbols id.index with absent | there
  · rwa [symbol, absent]
  · exact each _ there

theorem type_of_forall (holds : TypeInfo → Prop) (none : holds default)
    (each : ∀ t ∈ p.types.toList, holds t) (id : TypeId) : holds (p.type id) := by
  rcases getD_mem p.types id.index with absent | there
  · rwa [type, absent]
  · exact each _ there

theorem site_addSite (site : Site) (id : SiteId) :
    (p.addSite site).2.site id = if id.index = p.sites.size then site else p.site id :=
  getD_push p.sites site id.index

theorem symbol_addSymbol (symbol : Symbol) (id : SymbolId) :
    (p.addSymbol symbol).2.symbol id =
      if id.index = p.symbols.size then { symbol with id := p.lastId + 1 } else p.symbol id :=
  getD_push p.symbols _ id.index

theorem type_addType (type : TypeInfo) (id : TypeId) :
    (p.addType type).2.type id =
      if id.index = p.types.size then { type with id := p.lastId + 1 } else p.type id :=
  getD_push p.types _ id.index

theorem signature_addSignature (signature : Signature) (id : SignatureId) :
    (p.addSignature signature).2.signature id =
      if id.index = p.signatures.size then signature else p.signature id :=
  getD_push p.signatures signature id.index

theorem indexInfo_addIndexInfo (info : IndexInfo) (id : IndexId) :
    (p.addIndexInfo info).2.indexInfo id =
      if id.index = p.indexes.size then info else p.indexInfo id :=
  getD_push p.indexes info id.index

theorem site_modifySite (at_ id : SiteId) (f : Site → Site) :
    (p.modifySite at_ f).site id =
      if id = at_ ∧ id.index < p.sites.size then f (p.site id) else p.site id := by
  cases at_
  cases id
  simp only [site, modifySite, getD_modify, SiteId.mk.injEq]

theorem symbol_modifySymbol (at_ id : SymbolId) (f : Symbol → Symbol) :
    (p.modifySymbol at_ f).symbol id =
      if id = at_ ∧ id.index < p.symbols.size then f (p.symbol id) else p.symbol id := by
  cases at_
  cases id
  simp only [symbol, modifySymbol, getD_modify, SymbolId.mk.injEq]

theorem type_modifyType (at_ id : TypeId) (f : TypeInfo → TypeInfo) :
    (p.modifyType at_ f).type id =
      if id = at_ ∧ id.index < p.types.size then f (p.type id) else p.type id := by
  cases at_
  cases id
  simp only [type, modifyType, getD_modify, TypeId.mk.injEq]

end Program

end TypeAtlas
