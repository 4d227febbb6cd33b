import TypeAtlas.Text.Blank
import TypeAtlas.Text.CharWidth

/-!
Texts on a terminal: how many cells a text takes, which characters make one picture, tab stops, and
words laid out on lines of a width.
-/

namespace TypeAtlas.Text.Cells

def joiner : Char := Char.ofNat 0x200d

def pictorial : Char := Char.ofNat 0xfe0f

def isWidened (last : Option Char) : Bool := last.any widened.has

/-- The cells of a text behind `last`, the last character that took a cell and was not widened. -/
def widthAfter : Option Char → List Char → Nat
  | _, [] => 0
  | last, c :: rest =>
    if c = joiner then
      match rest with
      | [] => 0
      | _ :: more => widthAfter last more
    else if c = pictorial then (if isWidened last then 1 else 0) + widthAfter none rest
    else
      match charWidth c with
      | 0 => widthAfter last rest
      | cells => cells + widthAfter (some c) rest

def width (cs : List Char) : Nat := widthAfter none cs

def spaces (n : Nat) : List Char := List.replicate n ' '

def padRight (limit : Nat) (cs : List Char) : List Char := cs ++ spaces (limit - width cs)

/-- Characters that are shown as one, with the cells that they take together. -/
structure Cluster where
  chars : List Char
  width : Nat
deriving Repr, Inhabited

def Cluster.grown (open? : Option Cluster) (chars : List Char) (more : Nat := 0) : Cluster :=
  match open? with
  | some cluster => { chars := cluster.chars ++ chars, width := cluster.width + more }
  | none => { chars, width := 0 }

def clustersAfter (open? : Option Cluster) (last : Option Char) : List Char → List Cluster
  | [] => open?.toList
  | c :: rest =>
    if c = joiner ∧ open?.isSome then
      match rest with
      | [] => [Cluster.grown open? [c]]
      | joined :: more => clustersAfter (some (Cluster.grown open? [c, joined])) last more
    else if c = pictorial ∧ isWidened last then
      clustersAfter (some (Cluster.grown open? [c] 1)) none rest
    else
      match charWidth c with
      | 0 => clustersAfter (some (Cluster.grown open? [c])) last rest
      | cells => open?.toList ++ clustersAfter (some { chars := [c], width := cells }) (some c) rest

def clusters (cs : List Char) : List Cluster := clustersAfter none none cs

def crop : Nat → List Cluster → List Char
  | _, [] => []
  | limit, cluster :: rest =>
    if limit = 0 then []
    else if cluster.width ≤ limit then cluster.chars ++ crop (limit - cluster.width) rest
    else [' ']

def chop (limit used : Nat) (line : List Char) : List Cluster → List (List Char)
  | [] => if used = 0 then [] else [line]
  | cluster :: rest =>
    if limit < used + cluster.width then
      line :: chop limit cluster.width cluster.chars rest
    else chop limit (used + cluster.width) (line ++ cluster.chars) rest

/-- Controls that a terminal would act on, other than tabs and line ends; they are not shown. -/
def isControl (c : Char) : Bool := c.toNat == 7 || c.toNat == 8 || (11 ≤ c.toNat && c.toNat ≤ 13)

/-- Fills tabs up to the next of the stops, which stand eight cells apart. `part` holds the
characters since the stop at `position`. -/
def expandTabs (position : Nat) (part : List Char) : List Char → List Char
  | [] => part
  | '\t' :: rest =>
    let stop := position + width (part ++ [' '])
    let filled := (8 - stop % 8) % 8
    part ++ ' ' :: spaces filled ++ expandTabs (stop + filled) [] rest
  | c :: rest => expandTabs position (part ++ [c]) rest

def withoutTabs (cs : List Char) : List Char :=
  if cs.contains '\t' then expandTabs 0 [] cs else cs

def splitLines (s : String) : List (List Char) :=
  ((String.ofList (s.toList.filter fun c => !isControl c)).splitOn "\n").map (·.toList)

def lines (s : String) : List String := (splitLines s).map fun cs => String.ofList (withoutTabs cs)

def endsLine (c : Char) : Bool :=
  c == '\n' || (0x1c ≤ c.toNat && c.toNat ≤ 0x1e) || c.toNat == 0x85 || c.toNat == 0x2028 ||
    c.toNat == 0x2029

/-- The width of the widest line, where `line` is the line begun, last character first. -/
def measureFrom (line : List Char) : List Char → Nat
  | [] => width line.reverse
  | c :: rest =>
    if endsLine c then max (width line.reverse) (measureFrom [] rest)
    else measureFrom (c :: line) rest

def measure (s : String) : Nat := measureFrom [] (s.toList.filter fun c => !isControl c)

/-- A line as words, each with the blanks after it; blanks in front go with the first word. `word`
is the word begun, and `solid` whether it has more than blanks. -/
def wordsFrom (word : List Char) (solid : Bool) : List Char → List (List Char)
  | [] => [word]
  | c :: rest =>
    if !isSpace c && solid && word.getLast?.any isSpace then word :: wordsFrom [c] true rest
    else wordsFrom (word ++ [c]) (solid || !isSpace c) rest

def words (cs : List Char) : List (List Char) := wordsFrom [] false cs

theorem flatten_wordsFrom (word : List Char) (solid : Bool) (cs : List Char) :
    (wordsFrom word solid cs).flatten = word ++ cs := by
  induction cs generalizing word solid with
  | nil => simp [wordsFrom]
  | cons c rest ih =>
      rw [wordsFrom]
      split <;> simp [ih]

/-- Words lose nothing of a line. -/
theorem flatten_words (cs : List Char) : (words cs).flatten = cs := by
  simp [words, flatten_wordsFrom]

def withoutBlanksAtEnd (cs : List Char) : List Char := (cs.reverse.dropWhile isSpace).reverse

/-- What becomes of a word that is too long for any line: it goes on over lines, or it is cut short
with a mark behind it. -/
inductive Overflow where
  | fold
  | ellipsis
deriving DecidableEq, Repr, Inhabited

/-- Lines filled with words. `current` is the line begun, and `used` the cells that it takes. A word
too long for any line starts a line of its own. -/
def fill (overflow : Overflow) (limit : Nat) (current : List Char) (used : Nat) :
    List (List Char) → List (List Char)
  | [] => [current]
  | word :: rest =>
    let needed := width (withoutBlanksAtEnd word)
    if used + needed ≤ limit then fill overflow limit (current ++ word) (used + width word) rest
    else
      let before := if current.isEmpty then [] else [current]
      match overflow, decide (limit < needed) with
      | .fold, true =>
        let pieces := chop limit 0 [] (clusters word)
        let last := pieces.getLast?.getD []
        before ++ pieces.dropLast ++ fill overflow limit last (width last) rest
      | _, _ => before ++ fill overflow limit word (width word) rest

def withoutExcessBlanks (limit : Nat) (cs : List Char) : List Char :=
  let blanks := cs.length - (withoutBlanksAtEnd cs).length
  cs.take (cs.length - min blanks (cs.length - limit))

def layOut (overflow : Overflow) (limit : Nat) (s : String) : List (List Char) :=
  (splitLines s).flatMap fun line =>
    (fill overflow limit [] 0 (words (withoutTabs line))).map (withoutExcessBlanks limit)

def truncated (overflow : Overflow) (limit : Nat) (cs : List Char) : List Char :=
  if width cs ≤ limit then cs
  else
    match overflow with
    | .fold => crop limit (clusters cs)
    | .ellipsis => crop (limit - 1) (clusters cs) ++ ['…']

def alignLeft (overflow : Overflow) (limit : Nat) (cs : List Char) : String :=
  String.ofList (padRight limit (truncated overflow limit cs))

def center (limit : Nat) (cs : List Char) : String :=
  let shown := truncated .fold limit (withoutBlanksAtEnd cs)
  String.ofList (padRight limit (spaces ((limit - width shown) / 2) ++ shown))

end TypeAtlas.Text.Cells
