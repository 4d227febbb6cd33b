/-!
Patterns for file names. A star stands for any text, a question mark for any character, and a set in
brackets for one of its characters or, behind an exclamation mark, for any other. Main statement:
the rows that are computed for a pattern say of each tail of a text whether the pattern accepts it.
-/

namespace TypeAtlas.Glob

inductive CharSet where
  | any
  | only (c : Char)
  | within (ranges : List (Char × Char))
  | outside (ranges : List (Char × Char))
deriving Repr

def inRanges (ranges : List (Char × Char)) (c : Char) : Bool :=
  ranges.any fun range => range.1 ≤ c && c ≤ range.2

def CharSet.holds : CharSet → Char → Bool
  | any, _ => true
  | only wanted, c => wanted == c
  | within ranges, c => inRanges ranges c
  | outside ranges, c => !inRanges ranges c

inductive Token where
  | star
  | one (set : CharSet)
deriving Repr

/-- Splits the inside of a bracket at the hyphens that join two characters. The first hyphen looked
at is behind the first character, each later one behind the character after a joined pair. -/
def chunksFrom : Nat → List Char → List Char → List (List Char)
  | 0, done, rest => [done ++ rest]
  | fuel + 1, done, rest =>
    match rest.takeWhile (· ≠ '-'), rest.dropWhile (· ≠ '-') with
    | before, '-' :: after =>
      let chunk := done ++ before
      match after with
      | [] => [chunk ++ ['-']]
      | _ => chunk :: chunksFrom fuel (after.take 2) (after.drop 2)
    | before, _ => [done ++ before]

def chunks (inside : List Char) : List (List Char) :=
  let held := if inside.head? == some '!' then 2 else 1
  chunksFrom inside.length (inside.take held) (inside.drop held)

def emptyJoin (left right : List Char) : Bool :=
  match left.getLast?, right.head? with
  | some low, some high => low > high
  | _, _ => false

/-- Drops the ends of joins that make empty ranges, from the last join to the first. -/
def dropEmptyJoins : List (List Char) → List (List Char)
  | [] => []
  | chunk :: rest =>
    match dropEmptyJoins rest with
    | [] => [chunk]
    | next :: others =>
      if emptyJoin chunk next then (chunk.dropLast ++ next.drop 1) :: others
      else chunk :: next :: others

def rangesOf : List (List Char) → List (Char × Char)
  | [] => []
  | [chunk] => chunk.map fun c => (c, c)
  | chunk :: next :: rest =>
    let own := chunk.dropLast.map fun c => (c, c)
    match chunk.getLast?, next with
    | some low, high :: more => own ++ (low, high) :: rangesOf (more :: rest)
    | _, _ => own ++ rangesOf (next :: rest)
termination_by chunks => chunks.length

/-- The set that the inside of a bracket denotes. An exclamation mark counts when it comes first
after empty ranges are gone. -/
def bracketSet (inside : List Char) : CharSet :=
  match dropEmptyJoins (chunks inside) with
  | [[]] => .within []
  | [['!']] => .any
  | ['!'] :: next :: rest => .outside (rangesOf (('-' :: next) :: rest))
  | ('!' :: first) :: rest => .outside (rangesOf (first :: rest))
  | parts => .within (rangesOf parts)

/-- The inside of a bracket and what follows it. A closing bracket in the first place, or right
behind the exclamation mark, belongs to the set. -/
def splitBracket (rest : List Char) : Option (List Char × List Char) :=
  let negation := if rest.head? == some '!' then 1 else 0
  let body := rest.drop negation
  let held := if body.head? == some ']' then 1 else 0
  let lead := rest.take (negation + held)
  let tail := rest.drop (negation + held)
  match tail.dropWhile (· ≠ ']') with
  | _ :: after => some (lead ++ tail.takeWhile (· ≠ ']'), after)
  | [] => none

def tokensFrom : Nat → List Char → List Token
  | 0, _ => []
  | _ + 1, [] => []
  | fuel + 1, c :: rest =>
    if c = '*' then .star :: tokensFrom fuel rest
    else if c = '?' then .one .any :: tokensFrom fuel rest
    else if c = '[' then
      match splitBracket rest with
      | some (inside, after) => .one (bracketSet inside) :: tokensFrom fuel after
      | none => .one (.only c) :: tokensFrom fuel rest
    else .one (.only c) :: tokensFrom fuel rest

def tokens (pattern : String) : List Token := tokensFrom (pattern.length + 1) pattern.toList

def tails : List Char → List (List Char)
  | [] => [[]]
  | c :: rest => (c :: rest) :: tails rest

def accepts : List Token → List Char → Bool
  | [], text => text.isEmpty
  | .star :: rest, text => (tails text).any (accepts rest)
  | .one _ :: _, [] => false
  | .one set :: rest, c :: text => set.holds c && accepts rest text

def anyFrom : List Bool → List Bool
  | [] => []
  | b :: rest =>
    let later := anyFrom rest
    (b || later.head?.getD false) :: later

def stepOver (set : CharSet) : List Char → List Bool → List Bool
  | c :: text, _ :: next :: rest => (set.holds c && next) :: stepOver set text (next :: rest)
  | _, _ => [false]

/-- For every tail of the text, whether the tokens account for it. The row of a pattern is made of
that of the pattern without its first token, so all rows together take as many steps as tokens times
characters. -/
def row : List Token → List Char → List Bool
  | [], text => (tails text).map List.isEmpty
  | .star :: rest, text => anyFrom (row rest text)
  | .one set :: rest, text => stepOver set text (row rest text)

def fits (pattern text : String) : Bool := (row (tokens pattern) text.toList).head?.getD false

theorem head?_tails (text : List Char) : (tails text).head? = some text := by
  cases text <;> rfl

theorem anyFrom_tails (test : List Char → Bool) (text : List Char) :
    anyFrom ((tails text).map test) = (tails text).map fun rest => (tails rest).any test := by
  induction text with
  | nil => simp [tails, anyFrom]
  | cons c text ih => simp [tails, anyFrom, ih, List.head?_map, head?_tails]

theorem stepOver_tails (set : CharSet) (rest : List Token) (text : List Char) :
    stepOver set text ((tails text).map (accepts rest)) =
      (tails text).map (accepts (.one set :: rest)) := by
  induction text with
  | nil => simp [tails, stepOver, accepts]
  | cons c text ih =>
      cases text with
      | nil => simp [tails, stepOver, accepts]
      | cons d text => simpa [tails, stepOver, accepts] using ih

theorem row_eq (pattern : List Token) (text : List Char) :
    row pattern text = (tails text).map (accepts pattern) := by
  induction pattern with
  | nil =>
      rw [row]
      exact List.map_congr_left fun rest _ => by simp [accepts]
  | cons token pattern ih =>
      cases token with
      | star =>
          rw [row, ih, anyFrom_tails]
          exact List.map_congr_left fun rest _ => by simp [accepts]
      | one set => rw [row, ih, stepOver_tails]

theorem fits_eq (pattern text : String) : fits pattern text = accepts (tokens pattern) text.toList := by
  simp [fits, row_eq, List.head?_map, head?_tails]

end TypeAtlas.Glob
