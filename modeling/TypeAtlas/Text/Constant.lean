import TypeAtlas.Text.Printable

/-!
Constant expressions: numbers, quoted texts, named constants, and tuples, sets and maps of constants.
Only whether a text is one is of interest here.
-/

namespace TypeAtlas.Text.Constant

inductive Form where
  /-- A real number without a sign, which may have one. -/
  | real
  /-- A real number with a sign, to which an imaginary one may be added. -/
  | signed
  | imaginary
  /-- Anything else that may stand in a set. -/
  | fixed
  /-- A set or a map, which may not stand in a set. -/
  | mutable
deriving DecidableEq, Repr, Inhabited

def isNameChar (c : Char) : Bool := c.isAlphanum || c == '_' || 0x80 ≤ c.toNat

/-- Drops blanks, with what is noted behind a hash mark. Lines may end only within brackets, or
behind a note. -/
def skipFrom (within noted : Bool) : List Char → List Char
  | [] => []
  | c :: rest =>
    if noted then
      if c ≠ '\n' then skipFrom within true rest
      else if within then skipFrom within false rest
      else rest
    else if c = ' ' ∨ c = '\t' ∨ c.toNat = 12 ∨ (within ∧ c = '\n') then skipFrom within false rest
    else if c = '#' then skipFrom within true rest
    else c :: rest

def skip (within : Bool) (cs : List Char) : List Char := skipFrom within false cs

def digits (isDigit : Char → Bool) (cs : List Char) : Option (List Char × List Char) :=
  let run := cs.takeWhile fun c => isDigit c || c == '_'
  let doubled := (run.zip (run.drop 1)).any fun (a, b) => a == '_' && b == '_'
  if run.isEmpty || run.head? == some '_' || run.getLast? == some '_' || doubled then none
  else some (run, cs.drop run.length)

def isHexDigit (c : Char) : Bool :=
  c.isDigit || ('a' ≤ c && c ≤ 'f') || ('A' ≤ c && c ≤ 'F')

def based (isDigit : Char → Bool) (cs : List Char) : Option (Form × List Char) :=
  let body := if cs.head? == some '_' then cs.drop 1 else cs
  (digits isDigit body).map fun (_, rest) => (.real, rest)

def afterPower (cs : List Char) : Option (Bool × List Char) :=
  match cs with
  | c :: rest =>
    if c = 'e' ∨ c = 'E' then
      let body := if rest.head? == some '+' || rest.head? == some '-' then rest.drop 1 else rest
      (digits Char.isDigit body).map fun (_, more) => (true, more)
    else some (false, cs)
  | [] => some (false, [])

/-- A number in decimal, imaginary with a letter behind it. Without a point or a power of ten it may
not start with a zero. -/
def decimal (cs : List Char) : Option (Form × List Char) := do
  let (whole, rest) := (digits Char.isDigit cs).getD ([], cs)
  let (pointed, rest) ←
    match rest with
    | '.' :: more =>
      match digits Char.isDigit more with
      | some (_, after) => some (true, after)
      | none => if whole.isEmpty || more.head? == some '_' then none else some (true, more)
    | _ => if whole.isEmpty then none else some (false, rest)
  let (powered, rest) ← afterPower rest
  match rest with
  | c :: more =>
    if c = 'j' ∨ c = 'J' then some (.imaginary, more)
    else check whole (pointed || powered) rest
  | [] => check whole (pointed || powered) []
where
  check (whole : List Char) (isFloat : Bool) (rest : List Char) : Option (Form × List Char) :=
    let leadingZero := whole.head? == some '0' && whole.any fun c => c != '0' && c != '_'
    if leadingZero && !isFloat then none else some (.real, rest)

def number (cs : List Char) : Option (Form × List Char) := do
  let (form, rest) ←
    match cs with
    | '0' :: mark :: more =>
      if mark = 'x' ∨ mark = 'X' then based isHexDigit more
      else if mark = 'o' ∨ mark = 'O' then based (fun c => '0' ≤ c && c ≤ '7') more
      else if mark = 'b' ∨ mark = 'B' then based (fun c => c == '0' || c == '1') more
      else decimal cs
    | _ => decimal cs
  if (rest.head?).any isNameChar then none else some (form, rest)

structure QuoteStyle where
  raw : Bool := false
  bytes : Bool := false
deriving DecidableEq

def quoteStyle? (marks : String) : Option QuoteStyle :=
  match marks.toLower with
  | "" => some {}
  | "u" => some {}
  | "r" => some { raw := true }
  | "b" => some { bytes := true }
  | "br" => some { raw := true, bytes := true }
  | "rb" => some { raw := true, bytes := true }
  | _ => none

def isEscape (style : QuoteStyle) (cs : List Char) : Bool :=
  let hexed (n : Nat) (more : List Char) := more.length ≥ n && (more.take n).all isHexDigit
  match cs with
  | 'x' :: more => style.raw || hexed 2 more
  | 'u' :: more => style.raw || style.bytes || hexed 4 more
  | 'U' :: more => style.raw || style.bytes || (hexed 8 more && more.take 2 == ['0', '0'])
  | 'N' :: more => style.raw || style.bytes || more.head? == some '\x7b'
  | _ => !cs.isEmpty

/-- The text behind a quotation, from the first character in it on. Three marks in a row at its
start let it go on over lines, up to three marks. -/
def closing (style : QuoteStyle) (long : Bool) (mark : Char) : Nat → List Char → Option (List Char)
  | 0, _ => none
  | _ + 1, [] => none
  | fuel + 1, c :: rest =>
    if c = mark ∧ (!long ∨ rest.take 2 = [mark, mark]) then some (rest.drop (if long then 2 else 0))
    else if c = '\\' then
      if isEscape style rest then closing style long mark fuel (rest.drop 1) else none
    else if (c = '\n' ∧ !long) ∨ (style.bytes ∧ 0x80 ≤ c.toNat) then none
    else closing style long mark fuel rest

def isMark (c : Char) : Bool := c == single || c == double

def quotation (cs : List Char) : Option (QuoteStyle × List Char) := do
  let marks := cs.takeWhile fun c => !isMark c
  let style ← quoteStyle? (String.ofList marks)
  match cs.drop marks.length with
  | mark :: body =>
    let long := body.take 2 == [mark, mark]
    let rest ← closing style long mark (cs.length + 1) (if long then body.drop 2 else body)
    some (style, rest)
  | [] => none

def startsQuotation (cs : List Char) : Bool :=
  let marks := cs.takeWhile Char.isAlpha
  marks.length ≤ 2 && ((cs.drop marks.length).head?).any isMark

def quotations (within : Bool) (bytes : Bool) : Nat → List Char → Option (Form × List Char)
  | 0, _ => none
  | fuel + 1, cs => do
    let (style, rest) ← quotation cs
    if style.bytes != bytes then none
    else
      let next := skip within rest
      if startsQuotation next then quotations within bytes fuel next else some (.fixed, next)

def names : List String := ["True", "False", "None"]

def signedForm : Form → Option Form
  | .real => some .signed
  | .imaginary => some .fixed
  | _ => none

def allFixed (forms : List Form) : Bool := forms.all (· != .mutable)

def tupleForm (forms : List Form) : Form := if allFixed forms then .fixed else .mutable

mutual

def atom (within : Bool) : Nat → List Char → Option (Form × List Char)
  | 0, _ => none
  | fuel + 1, cs =>
    match cs with
    | '(' :: rest => do
      let (forms, comma, more) ← items fuel [] (skip true rest)
      match more with
      | ')' :: after =>
        match forms, comma with
        | [form], false => some (form, skip within after)
        | _, _ => some (tupleForm forms, skip within after)
      | _ => none
    | '\x7b' :: rest =>
      match skip true rest with
      | '\x7d' :: after => some (.mutable, skip within after)
      | body => do
        let after ← members fuel body
        some (.mutable, skip within after)
    | '.' :: '.' :: '.' :: rest => some (.fixed, skip within rest)
    | c :: _ =>
      if startsQuotation cs then do
        let (style, _) ← quotation cs
        quotations within style.bytes (cs.length + 1) cs
      else if c.isDigit || c == '.' then
        (number cs).map fun (form, rest) => (form, skip within rest)
      else
        let name := cs.takeWhile isNameChar
        let rest := skip within (cs.drop name.length)
        if names.contains (String.ofList name) then some (.fixed, rest)
        else if name = "set".toList then
          match rest with
          | '(' :: more =>
            match skip true more with
            | ')' :: after => some (.mutable, skip within after)
            | _ => none
          | _ => none
        else none
    | [] => none

def sum (within : Bool) : Nat → List Char → Option (Form × List Char)
  | 0, _ => none
  | fuel + 1, cs => do
    let isSign (c : Char) : Bool := c == '+' || c == '-'
    let (form, rest) ←
      match cs with
      | c :: more =>
        if isSign c then do
          let (form, rest) ← atom within fuel (skip within more)
          some (← signedForm form, rest)
        else atom within fuel cs
      | [] => none
    match rest with
    | c :: more =>
      if isSign c then
        match form, ← atom within fuel (skip within more) with
        | .real, (.imaginary, after) => some (.fixed, after)
        | .signed, (.imaginary, after) => some (.fixed, after)
        | _, _ => none
      else some (form, rest)
    | [] => some (form, [])

def items : Nat → List Form → List Char → Option (List Form × Bool × List Char)
  | 0, _, _ => none
  | fuel + 1, done, cs =>
    if cs.head? == some ')' then some (done, !done.isEmpty, cs)
    else do
      let (form, rest) ← sum true fuel cs
      let forms := done ++ [form]
      match rest with
      | ',' :: more => items fuel forms (skip true more)
      | _ => some (forms, !done.isEmpty, rest)

def members : Nat → List Char → Option (List Char)
  | 0, _ => none
  | fuel + 1, cs => do
    let (form, rest) ← sum true fuel cs
    if form = .mutable then none
    else
      match rest with
      | ':' :: more =>
        let (_, after) ← sum true fuel (skip true more)
        pairs fuel after
      | _ => others fuel rest

def others : Nat → List Char → Option (List Char)
  | 0, _ => none
  | fuel + 1, cs =>
    match cs with
    | '\x7d' :: after => some after
    | ',' :: more =>
      match skip true more with
      | '\x7d' :: after => some after
      | next => do
        let (form, rest) ← sum true fuel next
        if form = .mutable then none else others fuel rest
    | _ => none

def pairs : Nat → List Char → Option (List Char)
  | 0, _ => none
  | fuel + 1, cs =>
    match cs with
    | '\x7d' :: after => some after
    | ',' :: more =>
      match skip true more with
      | '\x7d' :: after => some after
      | next => do
        let (form, rest) ← sum true fuel next
        match rest with
        | ':' :: value =>
          let (_, after) ← sum true fuel (skip true value)
          if form = .mutable then none else pairs fuel after
        | _ => none
    | _ => none

end

def line : Nat → List Char → Bool
  | 0, _ => false
  | fuel + 1, cs =>
    match sum false (4 * cs.length + 8) cs with
    | some (_, rest) =>
      match rest with
      | [] => true
      | ',' :: more =>
        match skip false more with
        | [] => true
        | next => line fuel next
      | _ => false
    | none => false

def isConstant (cs : List Char) : Bool := line (cs.length + 1) (skip false cs)

end TypeAtlas.Text.Constant
