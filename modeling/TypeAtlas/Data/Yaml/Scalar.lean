import TypeAtlas.Text.Printable

/-!
Scalars as they are written in YAML: plain, in quotation marks, or as a block of lines. Each reader
returns the text of the scalar and what follows it.
-/

namespace TypeAtlas.Yaml

def isBreak (c : Char) : Bool :=
  c == '\n' || c.toNat == 0x85 || c.toNat == 0x2028 || c.toNat == 0x2029

def isGap (c : Char) : Bool := c == ' ' || c == '\t' || isBreak c

def atGap : List Char → Bool
  | [] => true
  | c :: _ => isGap c

def atLineEnd : List Char → Bool
  | [] => true
  | c :: _ => isBreak c

def isFlowMark (c : Char) : Bool := ",[]\x7b\x7d".toList.contains c

def breakText (c : Char) : Char := if c.toNat == 0x2028 || c.toNat == 0x2029 then c else '\n'

/-- Whether a mark between documents stands here. At the start of a line it ends what comes before
it. -/
def atDocumentMark : List Char → Bool
  | '-' :: '-' :: '-' :: rest => atGap rest
  | '.' :: '.' :: '.' :: rest => atGap rest
  | _ => false

/-- One line end counts as a space; of several the first does not count. -/
def folded (first : Char) (more : List Char) : List Char :=
  if breakText first != '\n' then breakText first :: more
  else if more.isEmpty then [' '] else more

/-- What stands between the words of a plain scalar: the text that it counts as, and what follows.
Behind a line end, `column?` is the place of the next word in its line. -/
structure Gap where
  text : List Char
  rest : List Char
  column? : Option Nat := none

/-- The line ends behind a first one, with the spaces around them. A document mark leaves no gap. -/
def gapFrom (first : Char) (more : List Char) (column : Nat) : List Char → Gap
  | [] => { text := folded first more, rest := [], column? := some column }
  | c :: rest =>
    if column = 0 && atDocumentMark (c :: rest) then
      { text := [], rest := c :: rest, column? := some 0 }
    else if c == ' ' then gapFrom first more (column + 1) rest
    else if isBreak c then gapFrom first (more ++ [breakText c]) 0 rest
    else { text := folded first more, rest := c :: rest, column? := some column }

def gap (cs : List Char) : Gap :=
  let blanks := cs.takeWhile (· == ' ')
  match cs.dropWhile (· == ' ') with
  | c :: rest =>
    if isBreak c then gapFrom c [] 0 rest else { text := blanks, rest := c :: rest }
  | [] => { text := blanks, rest := [] }

/-- Whether a word of a plain scalar ends here. A colon ends it before a gap; within brackets, the
marks of brackets do, too. -/
def endsWord (flow : Bool) (c : Char) (rest : List Char) : Bool :=
  isGap c || (c == ':' && (atGap rest || (flow && rest.head?.any isFlowMark))) ||
    (flow && (isFlowMark c || c == '?'))

def word (flow : Bool) : List Char → List Char × List Char
  | [] => ([], [])
  | c :: rest =>
    if endsWord flow c rest then ([], c :: rest)
    else
      let (cs, after) := word flow rest
      (c :: cs, after)

/-- A scalar as read: its text, what follows it, and whether it ended behind a line end. -/
structure Read where
  text : List Char
  rest : List Char
  onNewLine : Bool := false

/-- The words of a plain scalar that goes on as long as lines start at `least` or further on. -/
def plainFrom (flow : Bool) (least : Nat) : Nat → List Char → List Char → Read
  | 0, done, cs => { text := done, rest := cs }
  | fuel + 1, done, cs =>
    let (first, after) := word flow cs
    if first.isEmpty || first.head? == some '#' then { text := done, rest := cs }
    else
      let gap := gap after
      let tooFarOut := !flow && gap.column?.any (· < least)
      let stop : Read :=
        { text := done ++ first, rest := gap.rest, onNewLine := gap.column?.isSome }
      if gap.text.isEmpty || gap.rest.head? == some '#' || tooFarOut then stop
      else
        let (next, _) := word flow gap.rest
        if next.isEmpty then stop
        else plainFrom flow least fuel (done ++ first ++ gap.text) gap.rest

def readPlain (flow : Bool) (least : Nat) (cs : List Char) : Read :=
  plainFrom flow least cs.length [] cs

def quotedEnds (atStart : Bool) (more : List Char) : List Char → Option (List Char × List Char)
  | [] => some (more, [])
  | c :: rest =>
    if atStart && atDocumentMark (c :: rest) then none
    else if isBreak c then quotedEnds true (more ++ [breakText c]) rest
    else if isGap c then quotedEnds false more rest
    else some (more, c :: rest)

def hexDigit? (c : Char) : Option Nat :=
  if '0' ≤ c ∧ c ≤ '9' then some (c.toNat - 48)
  else if 'a' ≤ c ∧ c ≤ 'f' then some (c.toNat - 87)
  else if 'A' ≤ c ∧ c ≤ 'F' then some (c.toNat - 55)
  else none

def hexChar? (digits : Nat) (cs : List Char) : Option (Char × List Char) := do
  if cs.length < digits then none
  let n ← (cs.take digits).foldlM (fun n c => (hexDigit? c).map (16 * n + ·)) 0
  if h : n.isValidChar then some (Char.ofNatAux n h, cs.drop digits) else none

def escapes : List (Char × Nat) :=
  [('0', 0), ('a', 7), ('b', 8), ('t', 9), ('\t', 9), ('n', 10), ('v', 11), ('f', 12), ('r', 13),
   ('e', 27), (' ', 32), (Text.double, 34), ('\\', 92), ('/', 47), ('N', 0x85), ('_', 0xa0),
   ('L', 0x2028), ('P', 0x2029)]

/-- What a backslash and the text behind it stand for, and what follows. At the end of a line it
joins the next line. -/
def readEscape? : List Char → Option (List Char × List Char)
  | [] => none
  | c :: rest =>
    if isBreak c then quotedEnds true [] rest
    else if c == 'x' then (hexChar? 2 rest).map fun (d, after) => ([d], after)
    else if c == 'u' then (hexChar? 4 rest).map fun (d, after) => ([d], after)
    else if c == 'U' then (hexChar? 8 rest).map fun (d, after) => ([d], after)
    else (escapes.find? (·.1 == c)).map fun (_, n) => ([Char.ofNat n], rest)

/-- A quotation behind its first mark. Blanks at line ends do not count; in single marks the mark
itself is written twice, and in double marks there are escapes. -/
def quotationFrom (mark : Char) : Nat → List Char → List Char → Option Read
  | 0, _, _ => none
  | _ + 1, _, [] => none
  | fuel + 1, done, c :: rest =>
    if c == mark then
      if mark == Text.single && rest.head? == some mark then
        quotationFrom mark fuel (done ++ [c]) (rest.drop 1)
      else some { text := done, rest }
    else if mark == Text.double && c == '\\' then
      match readEscape? rest with
      | some (cs, after) => quotationFrom mark fuel (done ++ cs) after
      | none => none
    else if isGap c then
      let blanks := (c :: rest).takeWhile fun d => d == ' ' || d == '\t'
      match (c :: rest).drop blanks.length with
      | d :: after =>
        if isBreak d then
          match quotedEnds true [] after with
          | some (more, following) => quotationFrom mark fuel (done ++ folded d more) following
          | none => none
        else quotationFrom mark fuel (done ++ blanks) (d :: after)
      | [] => none
    else quotationFrom mark fuel (done ++ [c]) rest

def readQuotation? : List Char → Option Read
  | mark :: rest => quotationFrom mark (rest.length + 1) [] rest
  | [] => none

inductive Chomping where
  | strip
  | clip
  | keep
deriving DecidableEq, Repr

def readHead? (cs : List Char) : Option (Chomping × Option Nat × List Char) := do
  let chomping? (c : Char) : Option Chomping :=
    if c == '+' then some .keep else if c == '-' then some .strip else none
  let depth? (c : Char) : Option Nat :=
    if '1' ≤ c ∧ c ≤ '9' then some (c.toNat - 48) else none
  let read : Chomping × Option Nat × List Char :=
    match cs with
    | c :: d :: rest =>
      match chomping? c, depth? d, depth? c, chomping? d with
      | some chomping, some depth, _, _ => (chomping, some depth, rest)
      | some chomping, none, _, _ => (chomping, none, d :: rest)
      | none, _, some depth, some chomping => (chomping, some depth, rest)
      | none, _, some depth, none => (.clip, some depth, d :: rest)
      | none, _, none, _ => (.clip, none, c :: d :: rest)
    | [c] =>
      match chomping? c, depth? c with
      | some chomping, _ => (chomping, none, [])
      | none, some depth => (.clip, some depth, [])
      | none, none => (.clip, none, [c])
    | [] => (.clip, none, [])
  let (chomping, depth, rest) := read
  let blanks := rest.takeWhile (· == ' ')
  let after := rest.drop blanks.length
  if blanks.isEmpty && !atLineEnd after then none
  let lines := if after.head? == some '#' then after.dropWhile (!isBreak ·) else after
  if atLineEnd lines then some (chomping, depth, lines.drop 1) else none

/-- Line ends before the first line of a block, and the widest of the spaces among them. -/
def leadingEnds (column widest : Nat) (ends : List Char) : List Char → List Char × Nat × List Char
  | [] => (ends, widest, [])
  | c :: rest =>
    if c == ' ' then leadingEnds (column + 1) (max widest (column + 1)) ends rest
    else if isBreak c then leadingEnds 0 widest (ends ++ [breakText c]) rest
    else (ends, widest, c :: rest)

def blockEnds (depth column : Nat) (ends : List Char) : List Char → List Char × Nat × List Char
  | [] => (ends, column, [])
  | c :: rest =>
    if column < depth && c == ' ' then blockEnds depth (column + 1) ends rest
    else if isBreak c then blockEnds depth 0 (ends ++ [breakText c]) rest
    else (ends, column, c :: rest)

def startsBlank (cs : List Char) : Bool := cs.head?.any fun c => c == ' ' || c == '\t'

/-- The lines of a block, the first of which is ahead at `column`, behind some line ends. In a folded
block a line end between two lines that do not start with a blank counts as a space. -/
def blockFrom (fold : Bool) (chomping : Chomping) (depth : Nat) :
    Nat → List Char → Option Char → List Char → Nat → List Char → List Char × List Char
  | 0, done, _, _, _, cs => (done, cs)
  | fuel + 1, done, last, ends, column, cs =>
    if column = depth && !cs.isEmpty then
      let line := cs.takeWhile (!isBreak ·)
      let after := cs.drop line.length
      let lineEnd := after.head?.map breakText
      let (more, nextColumn, next) := blockEnds depth 0 [] (after.drop 1)
      let grown := done ++ ends ++ line
      if nextColumn = depth && !next.isEmpty then
        let joint :=
          if fold && lineEnd == some '\n' && !startsBlank cs && !startsBlank next then
            if more.isEmpty then [' '] else []
          else lineEnd.toList
        blockFrom fold chomping depth fuel (grown ++ joint) none more nextColumn next
      else blockFrom fold chomping depth fuel grown lineEnd more nextColumn next
    else
      let tail := if chomping = .strip then [] else last.toList
      (done ++ tail ++ (if chomping = .keep then ends else []), cs)

def readBlock? (fold : Bool) (least : Nat) (cs : List Char) : Option Read := do
  let (chomping, depth?, lines) ← readHead? cs
  let first := max least 1
  let (ends, depth, column, body) :=
    match depth? with
    | some given =>
      let depth := first + given - 1
      let (ends, column, body) := blockEnds depth 0 [] lines
      (ends, depth, column, body)
    | none =>
      let (ends, widest, body) := leadingEnds 0 0 [] lines
      let depth := max first widest
      (ends, depth, ((lines.take (lines.length - body.length)).reverse.takeWhile (· == ' ')).length,
        body)
  let (text, rest) := blockFrom fold chomping depth (body.length + 1) [] none ends column body
  some { text, rest, onNewLine := true }

end TypeAtlas.Yaml
