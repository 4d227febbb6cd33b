import TypeAtlas.Proofs.Node.Mention

/-!
The names that a node binds: those of the type parameters it describes, of the keys of mapped types
and of the variables to infer. What it mentions without binding it is open.
-/

namespace TypeAtlas.Node

def ownBinders : Node → List String
  | typeParameter p => [p.parameter.name]
  | mapped m => [m.name]
  | infer (ref r) => [r.name]
  | _ => []

/-- The name is bound somewhere in the node. -/
inductive Binds (name : String) : Node → Prop
  | own {node : Node} (held : name ∈ node.ownBinders) : Binds name node
  | inner {node child : Node} (inside : child ∈ node.children) (binds : Binds name child) :
      Binds name node

def binders (node : Node) : List String :=
  node.ownBinders ++ node.children.attach.flatMap fun child =>
    have := sizeOf_lt_of_mem_children child.2
    binders child.1
termination_by sizeOf node

theorem mem_binders {name : String} {node : Node} : name ∈ node.binders ↔ node.Binds name := by
  constructor
  · intro held
    induction node using binders.induct with
    | case1 node ih =>
      rw [binders, List.mem_append, List.mem_flatMap] at held
      rcases held with own | ⟨child, -, held⟩
      · exact .own own
      · exact .inner child.2 (ih child held)
  · intro binds
    induction binds with
    | own held =>
      rw [binders]
      exact List.mem_append_left _ held
    | inner inside _ ih =>
      rw [binders]
      exact List.mem_append_right _ (List.mem_flatMap.mpr ⟨⟨_, inside⟩, List.mem_attach _ _, ih⟩)

/-- The name is mentioned in the node and bound nowhere in it. -/
def Open (node : Node) (name : String) : Prop := name ∈ node.mentions ∧ ¬ node.Binds name

def OpenAll (nodes : List Node) (name : String) : Prop := ∃ node ∈ nodes, node.Open name

@[simp] theorem openAll_nil (name : String) : ¬ OpenAll [] name := nofun

@[simp] theorem openAll_cons {node : Node} {rest : List Node} {name : String} :
    OpenAll (node :: rest) name ↔ node.Open name ∨ OpenAll rest name := by
  simp [OpenAll]

@[simp] theorem openAll_append {first second : List Node} {name : String} :
    OpenAll (first ++ second) name ↔ OpenAll first name ∨ OpenAll second name := by
  simp only [OpenAll, List.mem_append, or_and_right, exists_or]

theorem openAll_of_subset {some all : List Node} (subset : some ⊆ all) {name : String}
    (opened : OpenAll some name) : OpenAll all name := by
  obtain ⟨node, held, opened⟩ := opened
  exact ⟨node, subset held, opened⟩

variable {name : String}

/-- A name that is open in a node that is no reference is open in a node below. -/
theorem Open.below {node : Node} (opened : node.Open name) (nameless : node.ownRef = []) :
    OpenAll node.children name := by
  obtain ⟨mentioned, unbound⟩ := opened
  rw [mentions_of_ownRef_eq_nil nameless] at mentioned
  obtain ⟨child, inside, mentioned⟩ := List.mem_flatMap.mp mentioned
  exact ⟨child, inside, mentioned, fun binds => unbound (.inner inside binds)⟩

theorem Open.not_mem_ownBinders {node : Node} (opened : node.Open name) : name ∉ node.ownBinders :=
  fun held => opened.2 (.own held)

/-- What a node below binds is not open. -/
theorem Open.not_mem_below {node child : Node} (opened : node.Open name)
    (inside : child ∈ node.children) : name ∉ child.ownBinders :=
  fun held => opened.2 (.inner inside (.own held))

theorem open_ref {r : Ref Node} (opened : (ref r).Open name) : name = r.name ∨ OpenAll r.types name := by
  obtain ⟨mentioned, unbound⟩ := opened
  rw [mentions_ref, List.mem_cons] at mentioned
  refine mentioned.imp_right fun mentioned => ?_
  obtain ⟨child, inside, mentioned⟩ := List.mem_flatMap.mp mentioned
  refine ⟨child, inside, mentioned, fun binds => unbound (.inner ?_ binds)⟩
  simpa [children, fields, Slot.nodes] using inside

/-- A node without references mentions nothing. -/
theorem not_open_of_mentions {node : Node} (silent : node.mentions = []) : ¬ node.Open name := by
  rintro ⟨mentioned, -⟩
  rw [silent] at mentioned
  cases mentioned

section Kinds

theorem open_member {m : Member Node} (opened : (member m).Open name) : m.value.Open name := by
  simpa [children, fields, Slot.nodes] using opened.below rfl

theorem open_enumeration {values : List (Member Node)} {comment : Option String}
    (opened : (enumeration values comment).Open name) : OpenAll (values.map member) name := by
  simpa [children, fields, Slot.nodes] using opened.below rfl

theorem open_enumLiteral {values : List (Member Node)} {isConst : Bool} {comment : Option String}
    (opened : (enumLiteral values isConst comment).Open name) :
    OpenAll (values.map member) name := by
  simpa [children, fields, Slot.nodes] using opened.below rfl

theorem open_tuple {types : List Node} (opened : (tuple types).Open name) : OpenAll types name := by
  simpa [children, fields, Slot.nodes] using opened.below rfl

theorem open_union {types : List Node} (opened : (union types).Open name) : OpenAll types name := by
  simpa [children, fields, Slot.nodes] using opened.below rfl

theorem open_intersection {types : List Node} (opened : (intersection types).Open name) :
    OpenAll types name := by
  simpa [children, fields, Slot.nodes] using opened.below rfl

theorem open_indexedAccess {key holder : Option Node}
    (opened : (indexedAccess key holder).Open name) :
    OpenAll key.toList name ∨ OpenAll holder.toList name := by
  simpa [children, fields] using opened.below rfl

theorem open_prefixed {operator : String} {value : Node} (opened : (prefixed operator value).Open name) :
    value.Open name := by
  simpa [children, fields, Slot.nodes] using opened.below rfl

theorem open_conditional {check extended primary alternate : Node}
    (opened : (conditional check extended primary alternate).Open name) :
    check.Open name ∨ extended.Open name ∨ primary.Open name ∨ alternate.Open name := by
  simpa [children, fields, Slot.nodes] using opened.below rfl

theorem open_substitution {base : Node} (opened : (substitution base).Open name) :
    base.Open name := by
  simpa [children, fields, Slot.nodes] using opened.below rfl

theorem open_infer {child : Node} (opened : (infer child).Open name) : child.Open name := by
  simpa [children, fields, Slot.nodes] using opened.below rfl

/-- A described type parameter is not open in its description. -/
theorem open_typeParameter {p : TypeParameter Node} (opened : (typeParameter p).Open name) :
    name ≠ p.parameter.name ∧ (OpenAll p.parameter.types name ∨
      OpenAll p.constraint.toList name ∨ OpenAll p.default.toList name) := by
  have distinct : name ≠ p.parameter.name := by
    simpa [ownBinders] using opened.not_mem_ownBinders
  refine ⟨distinct, ?_⟩
  have below : (ref p.parameter).Open name ∨ OpenAll p.constraint.toList name ∨
      OpenAll p.default.toList name := by
    simpa [children, fields, Slot.nodes] using opened.below rfl
  exact below.imp_left fun parameter => (open_ref parameter).resolve_left distinct

theorem open_parameter {p : Parameter Node} (opened : (parameter p).Open name) : p.value.Open name := by
  simpa [children, fields, Slot.nodes] using opened.below rfl

theorem open_prop {p : Property Node} (opened : (prop p).Open name) : p.value.Open name := by
  simpa [children, fields, Slot.nodes] using opened.below rfl

theorem open_index {parameters : List (Parameter Node)} {optional : Bool} {value : Node}
    (opened : (index parameters optional value).Open name) :
    OpenAll (parameters.map parameter) name ∨ value.Open name := by
  simpa [children, fields, parametersField, Slot.nodes] using opened.below rfl

theorem open_mapped {m : Mapped Node} (opened : (mapped m).Open name) :
    name ≠ m.name ∧ (OpenAll m.constraint.toList name ∨ m.value.Open name) := by
  refine ⟨by simpa [ownBinders] using opened.not_mem_ownBinders, ?_⟩
  simpa [children, fields, Slot.nodes] using opened.below rfl

/-- What a callable node binds by its type parameters and its parameters is not open in it. -/
theorem open_function {c : Callable Node} (opened : (function c).Open name) :
    (∀ p ∈ c.types, name ≠ p.parameter.name) ∧
      (∀ p ∈ c.parameters, ∀ r, p.value = .infer (.ref r) → name ≠ r.name) ∧
      (OpenAll (c.types.map typeParameter) name ∨ OpenAll (c.parameters.map parameter) name ∨
        c.returns.Open name) := by
  refine ⟨fun p held => ?_, fun p held r inferred same => ?_, ?_⟩
  · have inside : typeParameter p ∈ (function c).children := by
      simp [children, fields, typesField, parametersField, Slot.nodes, held]
    simpa [ownBinders] using opened.not_mem_below inside
  · have inside : parameter p ∈ (function c).children := by
      simp [children, fields, typesField, parametersField, Slot.nodes, held]
    have value : p.value ∈ (parameter p).children := by simp [children, fields, Slot.nodes]
    refine opened.2 (.inner inside (.inner value (.own ?_)))
    rw [inferred, same]
    exact List.mem_singleton_self _
  · simpa [children, fields, typesField, parametersField, Slot.nodes] using opened.below rfl

theorem open_construct {c : Callable Node} (opened : (construct c).Open name) :
    (function c).Open name := by
  refine ⟨by rw [← mentions_construct]; exact opened.1, fun binds => opened.2 ?_⟩
  cases binds with
  | own held => cases held
  | inner inside binds => exact .inner inside binds

/-- What a shape binds by its type parameters is not open in it. -/
theorem open_interface {s : Shape Node} (opened : (interface s).Open name) :
    (∀ p ∈ s.types, name ≠ p.parameter.name) ∧
      (OpenAll s.bases name ∨ OpenAll s.props name ∨ OpenAll (s.types.map typeParameter) name ∨
        OpenAll (s.mapped.map mapped).toList name) := by
  refine ⟨fun p held => ?_, ?_⟩
  · have inside : typeParameter p ∈ (interface s).children := by
      simp [children, fields, typesField, mappedField, Slot.nodes, held]
    simpa [ownBinders] using opened.not_mem_below inside
  · simpa [children, fields, typesField, mappedField, Slot.nodes] using opened.below rfl

theorem open_classShape {s : Shape Node} {implemented : List Node}
    (opened : (classShape s implemented).Open name) :
    (∀ p ∈ s.types, name ≠ p.parameter.name) ∧
      (OpenAll s.bases name ∨ OpenAll implemented name ∨ OpenAll s.props name ∨
        OpenAll (s.types.map typeParameter) name ∨ OpenAll (s.mapped.map mapped).toList name) := by
  refine ⟨fun p held => ?_, ?_⟩
  · have inside : typeParameter p ∈ (classShape s implemented).children := by
      simp [children, fields, typesField, mappedField, Slot.nodes, held]
    simpa [ownBinders] using opened.not_mem_below inside
  · simpa [children, fields, typesField, mappedField, Slot.nodes] using opened.below rfl

theorem open_aliasOf {types : List (TypeParameter Node)} {child : Node} {comment : Option String}
    (opened : (aliasOf types child comment).Open name) :
    (∀ p ∈ types, name ≠ p.parameter.name) ∧ (∀ r, child = .infer (.ref r) → name ≠ r.name) ∧
      (OpenAll (types.map typeParameter) name ∨ child.Open name) := by
  refine ⟨fun p held => ?_, fun r inferred same => ?_, ?_⟩
  · have inside : typeParameter p ∈ (aliasOf types child comment).children := by
      simp [children, fields, typesField, Slot.nodes, held]
    simpa [ownBinders] using opened.not_mem_below inside
  · have inside : child ∈ (aliasOf types child comment).children := by
      simp [children, fields, typesField, Slot.nodes]
    refine opened.2 (.inner inside (.own ?_))
    rw [inferred, same]
    exact List.mem_singleton_self _
  · simpa [children, fields, typesField, Slot.nodes] using opened.below rfl

theorem open_const {value : Node} {comment : Option String} (opened : (const value comment).Open name) :
    value.Open name := by
  simpa [children, fields, Slot.nodes] using opened.below rfl

theorem open_defaultExport {value : Node} {comment : Option String}
    (opened : (defaultExport value comment).Open name) : value.Open name := by
  simpa [children, fields, Slot.nodes] using opened.below rfl

end Kinds

end TypeAtlas.Node
