import TypeAtlas.Data.Yaml.Scalar

/-!
Tokens of YAML: marks, scalars, and where collections begin and end by their indentation. A key is
known as such only by the colon behind it, so a place where one may have begun is kept in mind, and
the mark of the key is put there later.
-/

namespace TypeAtlas.Yaml

inductive Token where
  | directive (name : String) (rest : List Char)
  | documentStart
  | documentEnd
  /-- Of a list or a map by indentation. -/
  | itemsStart
  | fieldsStart
  | blockEnd
  | openItems
  | closeItems
  | openFields
  | closeFields
  | comma
  | item
  | key
  | value
  | alias (name : String)
  | anchor (name : String)
  | tag (name : String)
  | scalar (text : String) (isPlain : Bool)
deriving DecidableEq, Repr, Inhabited

structure Place where
  rest : List Char
  index : Nat := 0
  line : Nat := 0
  column : Nat := 0

namespace Place

def step (place : Place) (c : Char) : Place :=
  if isBreak c then
    { rest := place.rest.drop 1, index := place.index + 1, line := place.line + 1 }
  else
    { place with
      rest := place.rest.drop 1, index := place.index + 1
      column := if c.toNat = 0xfeff then place.column else place.column + 1 }

def upTo (place : Place) (rest : List Char) : Place :=
  (place.rest.take (place.rest.length - rest.length)).foldl step place

end Place

/-- Where a key may have begun: before which token, and at which place. -/
structure PossibleKey where
  token : Nat
  index : Nat
  line : Nat
  column : Nat
  isRequired : Bool

structure Scan where
  place : Place
  /-- The tokens so far, the last first, and their number. -/
  tokens : List Token := []
  count : Nat := 0
  /-- The columns of the collections around, the inmost first. -/
  columns : List Nat := []
  /-- For every pair of brackets around, and for what is around all of them, where a key may have
  begun. -/
  keys : List (Option PossibleKey) := [none]
  mayStartKey : Bool := true

namespace Scan

def inFlow (s : Scan) : Bool := s.keys.length != 1

def least (s : Scan) : Nat :=
  match s.columns with
  | [] => 0
  | column :: _ => column + 1

def emit (s : Scan) (token : Token) : Scan :=
  { s with tokens := token :: s.tokens, count := s.count + 1 }

def insert (s : Scan) (before : Nat) (tokens : List Token) : Scan :=
  let later := s.count - before
  { s with
    tokens := s.tokens.take later ++ tokens ++ s.tokens.drop later
    count := s.count + tokens.length }

def upTo (s : Scan) (rest : List Char) : Scan := { s with place := s.place.upTo rest }

def forgetKey (s : Scan) : Option Scan :=
  match s.keys with
  | some key :: outer => if key.isRequired then none else some { s with keys := none :: outer }
  | _ => some s

def rememberKey (s : Scan) : Option Scan :=
  if s.mayStartKey then do
    let s ← s.forgetKey
    let isRequired := !s.inFlow && s.columns.head? == some s.place.column
    let key : PossibleKey :=
      { token := s.count, index := s.place.index, line := s.place.line, column := s.place.column
        isRequired }
    return { s with keys := some key :: s.keys.drop 1 }
  else some s

/-- A key does not go on over lines, and not over more than 1024 characters. -/
def dropStaleKeys (s : Scan) : Option Scan := do
  let kept ← s.keys.mapM fun
    | none => some none
    | some key =>
      if key.line != s.place.line || s.place.index - key.index > 1024 then
        if key.isRequired then none else some none
      else some (some key)
  return { s with keys := kept }

def unwindTo (column : Nat) : Nat → Scan → Scan
  | 0, s => s
  | fuel + 1, s =>
    match s.columns with
    | inmost :: outer =>
      if column < inmost then unwindTo column fuel ({ s with columns := outer }.emit .blockEnd)
      else s
    | [] => s

def unwind (s : Scan) (column : Nat) : Scan :=
  if s.inFlow then s else unwindTo column s.columns.length s

def unwindAll (s : Scan) : Scan :=
  if s.inFlow then s
  else { s with
    tokens := List.replicate s.columns.length Token.blockEnd ++ s.tokens
    count := s.count + s.columns.length
    columns := [] }

def isDeeper (s : Scan) (column : Nat) : Bool :=
  match s.columns with
  | [] => true
  | inmost :: _ => inmost < column

def skipFrom : Nat → Bool → List Char → List Char × Bool
  | 0, newLine, cs => (cs, newLine)
  | fuel + 1, newLine, cs =>
    let cs := cs.dropWhile (· == ' ')
    let cs := if cs.head? == some '#' then cs.dropWhile (!isBreak ·) else cs
    match cs with
    | c :: rest => if isBreak c then skipFrom fuel true rest else (cs, newLine)
    | [] => (cs, newLine)

def skip (s : Scan) : Scan :=
  let (rest, newLine) := skipFrom (s.place.rest.length + 1) false s.place.rest
  { s.upTo rest with mayStartKey := s.mayStartKey || (newLine && !s.inFlow) }

def mark (s : Scan) (token start : Token) : Option Scan := do
  let s ←
    if s.inFlow then some s
    else if !s.mayStartKey then none
    else if s.isDeeper s.place.column then
      some ({ s with columns := s.place.column :: s.columns }.emit start)
    else some s
  let s ← { s with mayStartKey := token == Token.item || !s.inFlow }.forgetKey
  return (s.upTo (s.place.rest.drop 1)).emit token

def colon (s : Scan) : Option Scan :=
  match s.keys with
  | some key :: outer =>
    let s := { s with keys := none :: outer, mayStartKey := false }
    let begins := !s.inFlow && s.isDeeper key.column
    let s := if begins then { s with columns := key.column :: s.columns } else s
    let s := s.insert key.token (if begins then [.key, .fieldsStart] else [.key])
    some ((s.upTo (s.place.rest.drop 1)).emit .value)
  | _ => s.mark .value .fieldsStart

def openBracket (s : Scan) (token : Token) : Option Scan := do
  let s ← s.rememberKey
  return ({ s with keys := none :: s.keys, mayStartKey := true }.upTo (s.place.rest.drop 1)).emit token

def closeBracket (s : Scan) (token : Token) : Option Scan := do
  let s ← s.forgetKey
  match s.keys with
  | _ :: next :: outer =>
    let s := { s with keys := next :: outer, mayStartKey := false }
    return (s.upTo (s.place.rest.drop 1)).emit token
  | _ => none

def documentMark (s : Scan) (token : Token) : Option Scan := do
  let s ← s.unwindAll.forgetKey
  return ({ s with mayStartKey := false }.upTo (s.place.rest.drop 3)).emit token

def directive (s : Scan) : Option Scan := do
  let s ← s.unwindAll.forgetKey
  let line := s.place.rest.takeWhile (!isBreak ·)
  let name := (line.drop 1).takeWhile (!isGap ·)
  let s := { s with mayStartKey := false }.upTo (s.place.rest.drop line.length)
  return s.emit (.directive (String.ofList name) (line.drop (name.length + 1)))

def isNameChar (c : Char) : Bool := c.isAlphanum || c == '-' || c == '_'

def named (s : Scan) (token : String → Token) : Option Scan := do
  let s ← s.rememberKey
  let name := (s.place.rest.drop 1).takeWhile isNameChar
  let rest := s.place.rest.drop (name.length + 1)
  if name.isEmpty || !(atGap rest || rest.head?.any "?:,]\x7d%@".toList.contains ||
      rest.head?.any fun c => c.toNat == 96) then none
  return ({ s with mayStartKey := false }.upTo rest).emit (token (String.ofList name))

def tagged (s : Scan) : Option Scan := do
  let s ← s.rememberKey
  let ends (c : Char) : Bool := isGap c || (s.inFlow && isFlowMark c)
  let name := s.place.rest.takeWhile (!ends ·)
  let rest := s.place.rest.drop name.length
  return ({ s with mayStartKey := false }.upTo rest).emit (.tag (String.ofList name))

def scalar (s : Scan) (read : Read) (isPlain : Bool) : Scan :=
  ({ s with mayStartKey := read.onNewLine }.upTo read.rest).emit
    (.scalar (String.ofList read.text) isPlain)

def block (s : Scan) (fold : Bool) : Option Scan := do
  let s ← s.forgetKey
  return s.scalar (← readBlock? fold s.least (s.place.rest.drop 1)) false

def quotation (s : Scan) : Option Scan := do
  let s ← s.rememberKey
  return s.scalar (← readQuotation? s.place.rest) false

def startsPlain (s : Scan) (c : Char) (rest : List Char) : Bool :=
  if isGap c then false
  else if c == '-' then !atGap rest
  else if c == '?' || c == ':' then !s.inFlow && !atGap rest
  else !",[]\x7b\x7d#&*!|>%@".toList.contains c && c != Text.single && c != Text.double &&
    c.toNat != 96

def plain (s : Scan) : Option Scan := do
  let s ← s.rememberKey
  return s.scalar (readPlain s.inFlow s.least s.place.rest) true

def next (s : Scan) (c : Char) (rest : List Char) : Option Scan :=
  let atStart := s.place.column = 0
  if atStart && c == '%' then s.directive
  else if atStart && c == '-' && atDocumentMark s.place.rest then s.documentMark .documentStart
  else if atStart && c == '.' && atDocumentMark s.place.rest then s.documentMark .documentEnd
  else if c == '[' then s.openBracket .openItems
  else if c == '\x7b' then s.openBracket .openFields
  else if c == ']' then s.closeBracket .closeItems
  else if c == '\x7d' then s.closeBracket .closeFields
  else if c == ',' then do
    let s ← s.forgetKey
    return ({ s with mayStartKey := true }.upTo rest).emit .comma
  else if c == '-' && atGap rest then s.mark .item .itemsStart
  else if c == '?' && (s.inFlow || atGap rest) then s.mark .key .fieldsStart
  else if c == ':' && (s.inFlow || atGap rest) then s.colon
  else if c == '*' then s.named .alias
  else if c == '&' then s.named .anchor
  else if c == '!' then s.tagged
  else if (c == '|' || c == '>') && !s.inFlow then s.block (c == '>')
  else if c == Text.single || c == Text.double then s.quotation
  else if s.startsPlain c rest then s.plain
  else none

def all : Nat → Scan → Option (List Token)
  | 0, _ => none
  | fuel + 1, s => do
    let s ← s.skip.dropStaleKeys
    match s.place.rest with
    | [] =>
      let s ← s.unwindAll.forgetKey
      return s.tokens.reverse
    | c :: rest => all fuel (← (s.unwind s.place.column).next c rest)

end Scan

def isAllowed (c : Char) : Bool :=
  let n := c.toNat
  n == 9 || n == 10 || (0x20 ≤ n && n ≤ 0x7e) || n == 0x85 || (0xa0 ≤ n && n ≤ 0xfffd) ||
    0x10000 ≤ n

def withLineFeeds : List Char → List Char
  | '\r' :: '\n' :: rest => '\n' :: withLineFeeds rest
  | '\r' :: rest => '\n' :: withLineFeeds rest
  | c :: rest => c :: withLineFeeds rest
  | [] => []

/-- The tokens of a text; nothing when it is not well formed. A byte order mark may come first. -/
def tokens? (s : String) : Option (List Token) :=
  let cs := withLineFeeds s.toList
  if cs.all isAllowed then
    let cs := if cs.head?.any (·.toNat == 0xfeff) then cs.drop 1 else cs
    Scan.all (cs.length + 2) { place := { rest := cs } }
  else none

end TypeAtlas.Yaml
