import TypeAtlas.Node.Basic

/-!
Structural types as expressions, and their nodes. Each way of putting types together has a node of its
own, so that an expression can be read back from its node.
-/

namespace TypeAtlas

/-- Structural types: what is put together from terminal types and type parameters. -/
inductive TypeExpr where
  | primitive (kind : Primitive)
  | nonPrimitive
  | literal (value : Literal)
  | bigint (digits : String)
  | parameter (name : String)
  | union (types : List TypeExpr)
  | intersection (types : List TypeExpr)
  | tuple (types : List TypeExpr)
  | keyof (operand : TypeExpr)
  | indexedAccess (holder key : TypeExpr)
  | conditional (check extended primary alternate : TypeExpr)
  | substitution (base : TypeExpr)
deriving Inhabited

def TypeExpr.image : TypeExpr → Node
  | primitive kind => .primitive kind
  | nonPrimitive => .nonPrimitive (some "object")
  | literal value => .literal value
  | bigint digits => .bigintLiteral digits
  | parameter name => .ref { name }
  | union types => .union (types.map image)
  | intersection types => .intersection (types.map image)
  | tuple types => .tuple (types.map image)
  | keyof operand => .prefixed "keyof" operand.image
  | indexedAccess holder key => .indexedAccess (some key.image) (some holder.image)
  | conditional check extended primary alternate =>
    .conditional check.image extended.image primary.image alternate.image
  | substitution base => .substitution base.image

namespace Node

mutual

def expression? : Node → Option TypeExpr
  | .primitive kind => some (.primitive kind)
  | .nonPrimitive _ => some .nonPrimitive
  | .literal value => some (.literal value)
  | .bigintLiteral digits => some (.bigint digits)
  | .ref r => some (.parameter r.name)
  | .union types => do return .union (← expressions? types)
  | .intersection types => do return .intersection (← expressions? types)
  | .tuple types => do return .tuple (← expressions? types)
  | .prefixed _ operand => do return .keyof (← expression? operand)
  | .indexedAccess (some key) (some holder) => do
    return .indexedAccess (← expression? holder) (← expression? key)
  | .conditional check extended primary alternate => do
    return .conditional (← expression? check) (← expression? extended) (← expression? primary)
      (← expression? alternate)
  | .substitution base => do return .substitution (← expression? base)
  | _ => none

def expressions? : List Node → Option (List TypeExpr)
  | [] => some []
  | node :: rest => do return (← expression? node) :: (← expressions? rest)

end

theorem expressions?_map {xs : List TypeExpr} (each : ∀ x ∈ xs, x.image.expression? = some x) :
    expressions? (xs.map TypeExpr.image) = some xs := by
  induction xs with
  | nil => simp [expressions?]
  | cons x rest ih =>
      rw [List.forall_mem_cons] at each
      simp [expressions?, each.1, ih each.2]

theorem expression?_image (x : TypeExpr) : x.image.expression? = some x := by
  fun_induction TypeExpr.image x with
  | case1 | case2 | case3 | case4 | case5 => simp [expression?]
  | case6 types ih | case7 types ih | case8 types ih => simp [expression?, expressions?_map ih]
  | case9 operand ih | case12 operand ih => simp [expression?, ih]
  | case10 holder key first second => simp [expression?, first, second]
  | case11 check extended primary alternate first second third fourth =>
      simp [expression?, first, second, third, fourth]

end Node
end TypeAtlas
