import TypeAtlas.Node.Reader
import TypeAtlas.Proofs.Node.Erased

/-!
Nodes are read back from what they are written as. The reader goes down as far as the data is deep,
so that each part of a node is read with levels to spare.
-/

namespace TypeAtlas

namespace Data

theorem depth_pos (data : Data) : 0 < data.depth := by
  cases data <;> simp only [depth] <;> omega

theorem depth_lt_list {item : Data} {items : List Data} (member : item ∈ items) :
    item.depth < (list items).depth := by
  have bound : item.depth ≤ depthOfItems items := by
    induction items with
    | nil => cases member
    | cons first rest ih =>
        rw [depthOfItems]
        rcases List.mem_cons.mp member with rfl | later
        · exact Nat.le_max_left _ _
        · exact Nat.le_trans (ih later) (Nat.le_max_right _ _)
  rw [depth]
  omega

theorem depth_lt_map {name : String} {value : Data} {fields : List (String × Data)}
    (member : (name, value) ∈ fields) : value.depth < (map fields).depth := by
  have bound : value.depth ≤ depthOfFields fields := by
    induction fields with
    | nil => cases member
    | cons first rest ih =>
        rw [depthOfFields]
        rcases List.mem_cons.mp member with rfl | later
        · exact Nat.le_max_left _ _
        · exact Nat.le_trans (ih later) (Nat.le_max_right _ _)
  rw [depth]
  omega

end Data

namespace Node

theorem depth_lt_of_mem_children {node child : Node} (below : child ∈ node.children) :
    child.toData.depth < node.toData.depth := by
  obtain ⟨⟨name, slot⟩, held, inside⟩ := List.mem_flatMap.mp below
  have field : (name, slot.toData) ∈
      ("kind", Data.text node.kind) :: node.fields.map fun field => (field.1, field.2.toData) :=
    List.mem_cons_of_mem _ (List.mem_map.mpr ⟨(name, slot), held, rfl⟩)
  have shallower := Data.depth_lt_map field
  rw [← toData_eq] at shallower
  refine Nat.lt_of_le_of_lt ?_ shallower
  cases slot with
  | one only =>
      obtain rfl : child = only := List.mem_singleton.mp inside
      exact Nat.le_refl _
  | many nodes =>
      have listed : child.toData ∈ nodes.attach.map fun child => child.1.toData :=
        List.mem_map.mpr ⟨⟨child, inside⟩, List.mem_attach _ _, rfl⟩
      exact Nat.le_of_lt (Data.depth_lt_list listed)
  | _ => cases inside

end Node

namespace Checked

variable {α β : Type}

@[simp] theorem map_ok (f : α → β) (value : α) : f <$> Checked.ok value = .ok (f value) := rfl

@[simp] theorem seq_ok (f : α → β) (value : α) : Checked.ok f <*> Checked.ok value = .ok (f value) :=
  rfl

@[simp] theorem seqRight_ok (first : α) (second : Checked β) : Checked.ok first *> second = second := by
  cases second <;> rfl

@[simp] theorem under_ok (step : Step) (value : α) : (Checked.ok value).under step = .ok value := rfl

theorem each_eq {read : Data → Checked β} {write : α → Data} {become : α → β} {items : List α}
    (reads : ∀ item ∈ items, read (write item) = .ok (become item)) :
    each read (items.map write) = .ok (items.map become) := by
  have from_ (index : Nat) : eachFrom read index (items.map write) = .ok (items.map become) := by
    induction items generalizing index with
    | nil => rfl
    | cons item rest ih =>
        have others := ih (fun later member => reads later (List.mem_cons_of_mem _ member)) (index + 1)
        rw [List.map_cons, eachFrom, reads item (List.mem_cons_self ..), others]
        rfl
  exact from_ 0

end Checked

namespace Node

open Read

def written (node : Node) : Fields :=
  ("kind", .text node.kind) :: node.fields.map fun field => (field.1, field.2.toData)

theorem toData_eq_written (node : Node) : node.toData = .map node.written := toData_eq node

def ReadsUnder (read : Data → Checked Node) (node : Node) : Prop :=
  ∀ other : Node, other.toData.depth < node.toData.depth → read other.toData = .ok other.erased

section Parts

variable {read : Data → Checked Node} {node : Node}

theorem ReadsUnder.child (reads : ReadsUnder read node) {child : Node}
    (below : child ∈ node.children) : read child.toData = .ok child.erased :=
  reads child (depth_lt_of_mem_children below)

theorem ReadsUnder.below (reads : ReadsUnder read node) {child : Node}
    (below : child ∈ node.children) : ReadsUnder read child :=
  fun other shallower => reads other (Nat.lt_trans shallower (depth_lt_of_mem_children below))

theorem nullable_text (value : String) : nullable Read.text (.text value) = .ok (some value) := rfl

theorem nullable_int (value : Int) : nullable Read.int (.int value) = .ok (some value) := rfl

theorem nullable_toData {α : Type} {read : Data → Checked α} (node : Node) :
    nullable read node.toData = some <$> read node.toData := by
  rw [toData_eq]
  rfl

attribute [local simp] children fields textField nodeField numberField typesField parametersField
  mappedField Slot.nodes Slot.toData Slot.write Table.get? find? required Read.optional Read.text
  Read.bool Read.int Read.list readComment kind written oneOf nullable_text nullable_int
  nullable_toData

theorem ofFields_toData {α : Type} (model : String) (node : Node) {part : Fields → Checked α}
    {value : α} (reads : part node.written = .ok value) :
    ofFields model (fun fields => fixedKind node.kind fields *> part fields) node.toData =
      .ok value := by
  rw [toData_eq_written, ofFields, reads]
  simp [fixedKind]

theorem readNodes_each (nodes : List Node) (reads : ReadsUnder read node)
    (below : ∀ child ∈ nodes, child ∈ node.children) :
    Checked.each read (nodes.map toData) = .ok (erasedEach nodes) := by
  rw [erasedEach_eq]
  exact Checked.each_eq fun child held => reads.child (below child held)

theorem readRef_written {r : Ref Node} (reads : ReadsUnder read (ref r)) :
    readRef read (ref r).written = .ok (erasedRef r) := by
  obtain ⟨name, types, live⟩ := r
  have each := readNodes_each types reads (by simp)
  simp [readRef, each, erasedRef]

theorem readMember_written {m : Member Node} (reads : ReadsUnder read (member m)) :
    readMember read (member m).written = .ok (erasedMember m) := by
  obtain ⟨name, value, comment⟩ := m
  have inner : read value.toData = .ok value.erased := reads.child (by simp)
  cases comment <;> simp [readMember, inner, erasedMember]

theorem readTypeParameter_written {p : TypeParameter Node}
    (reads : ReadsUnder read (typeParameter p)) :
    readTypeParameter read (typeParameter p).written = .ok (erasedTypeParameter p) := by
  obtain ⟨declared, constraint, default⟩ := p
  have name := ofFields_toData "RefModel" (ref declared)
    (readRef_written (reads.below (by simp)))
  have constrained (bound : Node) (given : constraint = some bound) :
      read bound.toData = .ok bound.erased := reads.child (by simp [given])
  have defaulted (other : Node) (given : default = some other) :
      read other.toData = .ok other.erased := reads.child (by simp [given])
  cases constraint <;> cases default <;>
    simp_all [readTypeParameter, erasedTypeParameter, erasedPart]

theorem readParameter_written {p : Parameter Node} (reads : ReadsUnder read (parameter p)) :
    readParameter read (parameter p).written = .ok (erasedParameter p) := by
  obtain ⟨name, modifiers, spread, optional, value⟩ := p
  have inner : read value.toData = .ok value.erased := reads.child (by simp)
  simp [readParameter, inner, erasedParameter]

theorem readProperty_written {p : Property Node} (reads : ReadsUnder read (prop p)) :
    readProperty read (prop p).written = .ok (erasedProperty p) := by
  obtain ⟨name, modifiers, id, optional, comment, value⟩ := p
  have inner : read value.toData = .ok value.erased := reads.child (by simp)
  cases id <;> cases comment <;> simp [readProperty, inner, erasedProperty]

theorem readMapped_written {m : Mapped Node} (reads : ReadsUnder read (mapped m)) :
    readMapped read (mapped m).written = .ok (erasedMapped m) := by
  obtain ⟨name, constraint, optional, value⟩ := m
  have inner : read value.toData = .ok value.erased := reads.child (by simp)
  have constrained (bound : Node) (given : constraint = some bound) :
      read bound.toData = .ok bound.erased := reads.child (by simp [given])
  cases constraint <;> simp_all [readMapped, erasedMapped, erasedPart]

theorem readTypeParameters_each (types : List (TypeParameter Node)) (reads : ReadsUnder read node)
    (below : ∀ p ∈ types, typeParameter p ∈ node.children) :
    Checked.each (ofFields "TypeParameterModel" fun part =>
        fixedKind "typeParameter" part *> readTypeParameter read part)
      (types.map fun p => (typeParameter p).toData) = .ok (erasedTypeParameters types) := by
  rw [erasedTypeParameters_eq]
  exact Checked.each_eq fun p member =>
    ofFields_toData _ (typeParameter p) (readTypeParameter_written (reads.below (below p member)))

theorem readParameters_each (parameters : List (Parameter Node)) (reads : ReadsUnder read node)
    (below : ∀ p ∈ parameters, parameter p ∈ node.children) :
    Checked.each (ofFields "ParameterModel" fun part =>
        fixedKind "parameter" part *> readParameter read part)
      (parameters.map fun p => (parameter p).toData) = .ok (erasedParameters parameters) := by
  rw [erasedParameters_eq]
  exact Checked.each_eq fun p member =>
    ofFields_toData _ (parameter p) (readParameter_written (reads.below (below p member)))

theorem readMembers_each (values : List (Member Node)) (reads : ReadsUnder read node)
    (below : ∀ m ∈ values, member m ∈ node.children) :
    Checked.each (ofFields "MemberModel" fun part =>
        fixedKind "member" part *> readMember read part)
      (values.map fun m => (member m).toData) = .ok (erasedMembers values) := by
  rw [erasedMembers_eq]
  exact Checked.each_eq fun m held =>
    ofFields_toData _ (.member m) (readMember_written (reads.below (below m held)))

theorem readCallable_written {c : Callable Node} (callable : node = function c ∨ node = construct c)
    (reads : ReadsUnder read node) : readCallable read node.written = .ok (erasedCallable c) := by
  obtain ⟨types, parameters, returns, comment⟩ := c
  have below {child : Node} (held : child ∈ (function ⟨types, parameters, returns, comment⟩).children) :
      child ∈ node.children := by
    rcases callable with rfl | rfl <;> exact held
  have each := readTypeParameters_each types reads fun p held => below (by simp [held])
  have each' := readParameters_each parameters reads fun p held =>
    below (by simp [held])
  have result : read returns.toData = .ok returns.erased := reads.child (below (by simp))
  rcases callable with rfl | rfl <;> cases comment <;>
    simp [readCallable, readTypeParameters, readParameters, each, each', result, erasedCallable,
      Function.comp_def]

theorem readMappedField_written (range : Option (Mapped Node)) (reads : ReadsUnder read node)
    (below : ∀ m, range = some m → mapped m ∈ node.children)
    (found : find? node.written "mapped" = range.map fun m => (mapped m).toData) :
    readMappedField read node.written = .ok (erasedMappedPart range) := by
  rw [readMappedField, Read.optional, found]
  cases range with
  | none => rfl
  | some m =>
      have inner := ofFields_toData "MappedModel" (mapped m) (readMapped_written (reads.below (below m rfl)))
      simp_all [erasedMappedPart]

theorem ofText?_text (kind : Primitive) : Primitive.ofText? kind.text = some kind := by
  cases kind <;> decide

theorem ofText?_scope (scope : ImportScope) : ImportScope.ofText? scope.text = some scope := by
  cases scope <;> decide

theorem readLiteral_toData (value : Literal) : readLiteral value.toData = .ok value := by
  cases value <;> rfl

theorem readKind?_written (reads : ReadsUnder read node) :
    readKind? read node.written node.kind = some (.ok node.erased) := by
  cases node with
  | primitive kind =>
    unfold readKind?
    rw [show (primitive kind).kind = kind.text from rfl, ofText?_text, erased]
  | nonPrimitive name =>
    refine congrArg some (?_ : _ <$> optional _ _ _ _ = _)
    cases name <;> rfl
  | unidentified => rfl
  | literal value =>
    refine congrArg some (?_ : _ <$> required _ _ _ = _)
    simp [readLiteral_toData, erased]
  | bigintLiteral digits => rfl
  | member m =>
    refine congrArg some (?_ : _ <$> readMember read _ = _)
    rw [readMember_written reads, Checked.map_ok, erased]
  | enumeration values comment =>
    have each := readMembers_each values reads (by simp +contextual)
    refine congrArg some (?_ : _ <$> readMembers read _ <*> readComment _ = _)
    cases comment <;> simp [readMembers, each, Function.comp_def, erased]
  | enumLiteral values isConst comment =>
    have each := readMembers_each values reads (by simp +contextual)
    refine congrArg some (?_ : _ <$> readMembers read _ <*> optional _ _ _ _ <*> readComment _ = _)
    cases comment <;> simp [readMembers, each, Function.comp_def, erased]
  | tuple types =>
    have each := readNodes_each types reads (by simp)
    refine congrArg some (?_ : _ <$> readNodes read _ _ = _)
    simp [readNodes, each, erased]
  | union types =>
    have each := readNodes_each types reads (by simp)
    refine congrArg some (?_ : _ <$> readNodes read _ _ = _)
    simp [readNodes, each, erased]
  | intersection types =>
    have each := readNodes_each types reads (by simp)
    refine congrArg some (?_ : _ <$> readNodes read _ _ = _)
    simp [readNodes, each, erased]
  | indexedAccess key holder =>
    refine congrArg some (?_ : _ <$> optional _ _ _ _ <*> optional _ _ _ _ = _)
    have left (part : Node) (given : key = some part) : read part.toData = .ok part.erased :=
      reads.child (by simp [given])
    have right (part : Node) (given : holder = some part) : read part.toData = .ok part.erased :=
      reads.child (by simp [given])
    cases key <;> cases holder <;> simp_all [erased, erasedPart]
  | prefixed operator value =>
    have inner : read value.toData = .ok value.erased := reads.child (by simp)
    refine congrArg some (?_ : _ <$> optional _ _ _ _ <*> required _ _ _ = _)
    simp [inner, erased]
  | conditional check extended primary alternate =>
    have first : read check.toData = .ok check.erased := reads.child (by simp)
    have second : read extended.toData = .ok extended.erased := reads.child (by simp)
    have third : read primary.toData = .ok primary.erased := reads.child (by simp)
    have fourth : read alternate.toData = .ok alternate.erased := reads.child (by simp)
    refine congrArg some
      (?_ : _ <$> required _ _ _ <*> required _ _ _ <*> required _ _ _ <*> required _ _ _ = _)
    simp [first, second, third, fourth, erased]
  | substitution base =>
    have inner : read base.toData = .ok base.erased := reads.child (by simp)
    refine congrArg some (?_ : _ <$> required _ _ _ = _)
    simp [inner, erased]
  | infer declared =>
    have inner : read declared.toData = .ok declared.erased := reads.child (by simp)
    refine congrArg some (?_ : _ <$> required _ _ _ = _)
    simp [inner, erased]
  | typeParameter p =>
    refine congrArg some (?_ : _ <$> readTypeParameter read _ = _)
    rw [readTypeParameter_written reads, Checked.map_ok, erased]
  | parameter p =>
    refine congrArg some (?_ : _ <$> readParameter read _ = _)
    rw [readParameter_written reads, Checked.map_ok, erased]
  | prop p =>
    refine congrArg some (?_ : _ <$> readProperty read _ = _)
    rw [readProperty_written reads, Checked.map_ok, erased]
  | index parameters optional value =>
    have each := readParameters_each parameters reads (by simp +contextual)
    have inner : read value.toData = .ok value.erased := reads.child (by simp)
    refine congrArg some (?_ : _ <$> readParameters read _ <*> Read.optional _ _ _ _ <*> required _ _ _ = _)
    simp [readParameters, each, Function.comp_def, inner, erased]
  | function c =>
    refine congrArg some (?_ : _ <$> readCallable read _ = _)
    rw [readCallable_written (.inl rfl) reads, Checked.map_ok, erased]
  | construct c =>
    refine congrArg some (?_ : _ <$> readCallable read _ = _)
    rw [readCallable_written (.inr rfl) reads, Checked.map_ok, erased]
  | mapped m =>
    refine congrArg some (?_ : _ <$> readMapped read _ = _)
    rw [readMapped_written reads, Checked.map_ok, erased]
  | interface s =>
    obtain ⟨bases, props, types, range, comment⟩ := s
    have based := readNodes_each bases reads (by simp +contextual)
    have owned := readNodes_each props reads (by simp +contextual)
    have each := readTypeParameters_each types reads (by simp +contextual)
    have ranged := readMappedField_written range reads (by rintro m rfl; simp)
      (by cases range <;> cases comment <;> simp)
    refine congrArg some (?_ : _ <$> readNodes read _ _ <*> readNodes read _ _ <*>
      readTypeParameters read _ <*> readMappedField read _ <*> readComment _ = _)
    rw [ranged]
    cases range <;> cases comment <;>
      simp [readNodes, readTypeParameters, based, owned, each, Function.comp_def, erased, erasedShape]
  | classShape s implemented =>
    obtain ⟨bases, props, types, range, comment⟩ := s
    have based := readNodes_each bases reads (by simp +contextual)
    have fulfilled := readNodes_each implemented reads (by simp +contextual)
    have owned := readNodes_each props reads (by simp +contextual)
    have each := readTypeParameters_each types reads (by simp +contextual)
    have ranged := readMappedField_written range reads (by rintro m rfl; simp)
      (by cases range <;> cases comment <;> simp)
    refine congrArg some (?_ : _ <$> readNodes read _ _ <*> readNodes read _ _ <*>
      readNodes read _ _ <*> readTypeParameters read _ <*> readMappedField read _ <*>
      readComment _ = _)
    rw [ranged]
    cases range <;> cases comment <;>
      simp [readNodes, readTypeParameters, based, fulfilled, owned, each, Function.comp_def, erased,
        erasedShape]
  | aliasOf types child comment =>
    have each := readTypeParameters_each types reads (by simp +contextual)
    have inner : read child.toData = .ok child.erased := reads.child (by simp)
    refine congrArg some
      (?_ : _ <$> readTypeParameters read _ <*> required _ _ _ <*> readComment _ = _)
    cases comment <;> simp [readTypeParameters, each, Function.comp_def, inner, erased]
  | const value comment =>
    have inner : read value.toData = .ok value.erased := reads.child (by simp)
    refine congrArg some (?_ : _ <$> required _ _ _ <*> readComment _ = _)
    cases comment <;> simp [inner, erased]
  | defaultExport value comment =>
    have inner : read value.toData = .ok value.erased := reads.child (by simp)
    refine congrArg some (?_ : _ <$> required _ _ _ <*> readComment _ = _)
    cases comment <;> simp [inner, erased]
  | ref r =>
    refine congrArg some (?_ : _ <$> readRef read _ = _)
    rw [readRef_written reads, Checked.map_ok, erased]
  | imported name home scope =>
    refine congrArg some (?_ : _ <$> required _ _ _ <*> optional _ _ _ _ <*> required _ _ _ = _)
    cases home <;> simp [ofText?_scope, erased]

end Parts

theorem ofDataFrom_toData {levels : Nat} {node : Node} (deep : node.toData.depth ≤ levels) :
    ofDataFrom levels node.toData = .ok node.erased := by
  induction levels generalizing node with
  | zero => exact absurd deep (Nat.not_le.mpr (Data.depth_pos _))
  | succ levels ih =>
      have reads : ReadsUnder (ofDataFrom levels) node := fun other shallower => ih (by omega)
      have tag : Table.get? node.written "kind" = some (.text node.kind) := by
        simp [written, Table.get?]
      rw [toData_eq_written, ofDataFrom]
      simp only [tag, readKind?_written reads, Checked.under_ok]

theorem Slot.toData_many (nodes : List Node) :
    (Slot.many nodes).toData = .list (nodes.map Node.toData) := by
  simp [Slot.toData, Slot.write]

/-- What a node is written as does not tell the live types of its references. -/
theorem toData_erased (node : Node) : node.erased.toData = node.toData := by
  have each : ∀ field ∈ node.fields, field.2.erased.toData = field.2.toData := by
    rintro ⟨name, slot⟩ held
    have below (child : Node) (inside : child ∈ slot.nodes) : child.erased.toData = child.toData :=
      have := sizeOf_lt_of_mem_fields held inside
      toData_erased child
    cases slot with
    | one child => exact below child (List.mem_singleton.mpr rfl)
    | many children =>
        rw [Slot.erased_many, Slot.toData_many, Slot.toData_many, List.map_map]
        exact congrArg Data.list (List.map_congr_left below)
    | _ => rfl
  rw [toData_eq, toData_eq, kind_erased, fields_erased, List.map_map]
  exact congrArg (fun rest => Data.map (("kind", .text node.kind) :: rest))
    (List.map_congr_left fun field held => congrArg (Prod.mk field.1) (each field held))
termination_by sizeOf node

/-- A node that is written is read back as it was, but for the live types of its references; so nodes
that differ elsewhere are written differently. -/
theorem ofData_toData (node : Node) :
    ofData node.toData = .ok node.erased ∧
      ∀ other : Node, node.toData = other.toData ↔ node.erased = other.erased := by
  have back (any : Node) : ofData any.toData = .ok any.erased :=
    ofDataFrom_toData (Nat.le_succ _)
  refine ⟨back node, fun other => ⟨fun same => ?_, fun same => ?_⟩⟩
  · have twice := back node
    rw [same, back other] at twice
    exact (Checked.ok.inj twice).symm
  · rw [← toData_erased node, same, toData_erased]

end Node

end TypeAtlas
