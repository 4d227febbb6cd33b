import TypeAtlas.Data.Basic
import TypeAtlas.Text.Printable

/-!
Reading JSON text into plain data. Numbers with a fraction or an exponent are floats, all others
integers of any size; the names `NaN`, `Infinity` and `-Infinity` are read as floats.
-/

namespace TypeAtlas.Data

def isBlank (c : Char) : Bool := c == ' ' || c == '\n' || c == '\r' || c == '\t'

def skipBlanks (cs : List Char) : List Char := cs.dropWhile isBlank

def digitsValue (cs : List Char) : Nat := cs.foldl (fun n c => 10 * n + (c.toNat - 48)) 0

def hexValue? (c : Char) : Option Nat :=
  if '0' ≤ c ∧ c ≤ '9' then some (c.toNat - 48)
  else if 'a' ≤ c ∧ c ≤ 'f' then some (c.toNat - 87)
  else if 'A' ≤ c ∧ c ≤ 'F' then some (c.toNat - 55)
  else none

def readUnit : List Char → Option (Nat × List Char)
  | a :: b :: c :: d :: rest => do
    let high := 16 * (← hexValue? a) + (← hexValue? b)
    let low := 16 * (← hexValue? c) + (← hexValue? d)
    some (256 * high + low, rest)
  | _ => none

def isHighUnit (n : Nat) : Bool := 0xd800 ≤ n && n < 0xdc00

def isLowUnit (n : Nat) : Bool := 0xdc00 ≤ n && n < 0xe000

/-- A character from its UTF-16 units; a unit without its partner becomes the replacement
character. -/
def readEscapedChar (cs : List Char) : Option (Char × List Char) := do
  let (first, rest) ← readUnit cs
  if isHighUnit first then
    match rest with
    | '\\' :: 'u' :: more =>
      match readUnit more with
      | some (second, rest') =>
        if isLowUnit second then
          some (Char.ofNat (0x10000 + (first - 0xd800) * 0x400 + (second - 0xdc00)), rest')
        else some (Char.ofNat 0xfffd, rest)
      | none => none
    | _ => some (Char.ofNat 0xfffd, rest)
  else if isLowUnit first then some (Char.ofNat 0xfffd, rest)
  else some (Char.ofNat first, rest)

def simpleEscape? (c : Char) : Option Char :=
  if c = Text.double ∨ c = '\\' ∨ c = '/' then some c
  else if c = 'n' then some '\n'
  else if c = 'r' then some '\r'
  else if c = 't' then some '\t'
  else if c = 'b' then some (Char.ofNat 8)
  else if c = 'f' then some (Char.ofNat 12)
  else none

def readTextFrom : Nat → List Char → List Char → Option (String × List Char)
  | 0, _, _ => none
  | _ + 1, _, [] => none
  | fuel + 1, done, c :: rest =>
    if c = Text.double then some (String.ofList done.reverse, rest)
    else if c = '\\' then
      match rest with
      | 'u' :: more => do
        let (read, rest') ← readEscapedChar more
        readTextFrom fuel (read :: done) rest'
      | mark :: more => do
        let read ← simpleEscape? mark
        readTextFrom fuel (read :: done) more
      | [] => none
    else if c.toNat < 32 then none
    else readTextFrom fuel (c :: done) rest

def readText (cs : List Char) : Option (String × List Char) := readTextFrom (cs.length + 1) [] cs

def dropName (name : String) (cs : List Char) : Option (List Char) :=
  if name.toList.isPrefixOf cs then some (cs.drop name.length) else none

def readExponent (cs : List Char) : Option (Int × List Char) :=
  match cs with
  | e :: rest =>
    if e = 'e' ∨ e = 'E' then
      let (negative, digits) :=
        match rest with
        | '-' :: more => (true, more)
        | '+' :: more => (false, more)
        | more => (false, more)
      let power := digits.takeWhile Char.isDigit
      if power.isEmpty then none
      else
        let value : Int := digitsValue power
        some (if negative then -value else value, digits.dropWhile Char.isDigit)
    else none
  | [] => none

def readMagnitude (negative : Bool) (cs : List Char) : Option (Data × List Char) := do
  let whole := cs.takeWhile Char.isDigit
  let rest := cs.dropWhile Char.isDigit
  match whole with
  | [] => none
  | '0' :: _ :: _ =>
    -- a leading zero is a number of its own
    some (.int 0, cs.drop 1)
  | _ =>
    let (fraction, afterFraction) :=
      match rest with
      | '.' :: more =>
        let digits := more.takeWhile Char.isDigit
        if digits.isEmpty then ([], rest) else (digits, more.dropWhile Char.isDigit)
      | _ => ([], rest)
    match readExponent afterFraction with
    | some (power, afterExponent) =>
      some (.float (.ofDecimal negative (digitsValue (whole ++ fraction)) (power - fraction.length)),
        afterExponent)
    | none =>
      if fraction.isEmpty then
        let value : Int := digitsValue whole
        some (.int (if negative then -value else value), rest)
      else
        some (.float (.ofDecimal negative (digitsValue (whole ++ fraction)) (-fraction.length)),
          afterFraction)

def readNumber (cs : List Char) : Option (Data × List Char) :=
  match cs with
  | '-' :: rest =>
    match dropName "Infinity" rest with
    | some after => some (.float (.infinity true), after)
    | none => readMagnitude true rest
  | _ => readMagnitude false cs

mutual

def readValue : Nat → List Char → Option (Data × List Char)
  | 0, _ => none
  | fuel + 1, cs =>
    match skipBlanks cs with
    | [] => none
    | c :: rest =>
      if c = Text.double then (readText rest).map fun (s, after) => (.text s, after)
      else if c = '[' then
        match skipBlanks rest with
        | ']' :: after => some (.list [], after)
        | items => readItems fuel [] items
      else if c = '\x7b' then
        match skipBlanks rest with
        | '\x7d' :: after => some (.map [], after)
        | fields => readFields fuel [] fields
      else if c = 'n' then (dropName "null" (c :: rest)).map fun after => (.null, after)
      else if c = 't' then (dropName "true" (c :: rest)).map fun after => (.bool true, after)
      else if c = 'f' then (dropName "false" (c :: rest)).map fun after => (.bool false, after)
      else if c = 'N' then (dropName "NaN" (c :: rest)).map fun after => (.float .nan, after)
      else if c = 'I' then
        (dropName "Infinity" (c :: rest)).map fun after => (.float (.infinity false), after)
      else readNumber (c :: rest)

def readItems : Nat → List Data → List Char → Option (Data × List Char)
  | 0, _, _ => none
  | fuel + 1, done, cs => do
    let (item, after) ← readValue fuel cs
    match skipBlanks after with
    | ',' :: more => readItems fuel (item :: done) more
    | ']' :: more => some (.list (item :: done).reverse, more)
    | _ => none

def readFields : Nat → Table String Data → List Char → Option (Data × List Char)
  | 0, _, _ => none
  | fuel + 1, done, cs => do
    match skipBlanks cs with
    | c :: rest =>
      if c = Text.double then
        let (name, afterName) ← readText rest
        match skipBlanks afterName with
        | ':' :: body =>
          let (value, after) ← readValue fuel body
          match skipBlanks after with
          | ',' :: more => readFields fuel (Table.put done name value) more
          | '\x7d' :: more => some (.map (Table.put done name value), more)
          | _ => none
        | _ => none
      else none
    | [] => none

end

def ofJson? (s : String) : Option Data := do
  let cs := s.toList
  let (value, rest) ← readValue (2 * cs.length + 2) cs
  if (skipBlanks rest).isEmpty then some value else none

end TypeAtlas.Data
