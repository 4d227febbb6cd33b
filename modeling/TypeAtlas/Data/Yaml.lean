import TypeAtlas.Data.Merge
import TypeAtlas.Data.Yaml.Moment
import TypeAtlas.Data.Yaml.Tree

/-!
Plain data from YAML. What a plain scalar stands for goes by its form: null, a truth value, a whole
number in one of several bases, a number with a point, a day or a moment, or just its text.
-/

namespace TypeAtlas.Yaml

/-- Why a text gives no data. -/
inductive Problem where
  /-- It is not well formed, or asks for what there is not. -/
  | malformed
  /-- A scalar has the form of a number or a moment and is none. -/
  | unsuitable (message : String)
deriving DecidableEq, Repr

def digitValue (c : Char) : Nat := (hexDigit? c).getD 0

def natOf (base : Nat) (digits : List Char) : Nat :=
  digits.foldl (fun n c => base * n + digitValue c) 0

def signOf : List Char → Bool × List Char
  | '-' :: rest => (true, rest)
  | '+' :: rest => (false, rest)
  | rest => (false, rest)

def areDigits (isDigit : Char → Bool) (cs : List Char) : Bool :=
  !cs.isEmpty && cs.all fun c => isDigit c || c == '_'

def isPositive (cs : List Char) : Bool :=
  areDigits Char.isDigit cs && cs.head?.any fun c => '1' ≤ c && c ≤ '9'

def isSixtieth : List Char → Bool
  | [c] => c.isDigit
  | [c, d] => '0' ≤ c && c ≤ '5' && d.isDigit
  | _ => false

def colonParts (cs : List Char) : List (List Char) :=
  ((String.ofList cs).splitOn ":").map (·.toList)

def mostDigits : Nat := 4300

def number (base : Nat) (cs : List Char) : Except Problem Nat :=
  let digits := cs.filter (· ≠ '_')
  if digits.isEmpty then
    .error (.unsuitable ("invalid literal for int() with base " ++ toString base ++ ": ''"))
  else if base = 10 && mostDigits < digits.length then
    .error (.unsuitable ("Exceeds the limit (" ++ toString mostDigits ++
      " digits) for integer string conversion: value has " ++ toString digits.length ++
      " digits; use sys.set_int_max_str_digits() to increase the limit"))
  else .ok (natOf base digits)

/-- Whole numbers: binary after `0b`, hexadecimal after `0x`, octal after `0`, with colons by sixties,
else decimal. -/
def magnitude? (cs : List Char) : Option (Except Problem Nat) :=
  let isOctal (c : Char) : Bool := '0' ≤ c && c ≤ '7'
  match cs with
  | ['0'] => some (.ok 0)
  | '0' :: 'b' :: digits =>
    if areDigits (fun c => c == '0' || c == '1') digits then some (number 2 digits) else none
  | '0' :: 'x' :: digits =>
    if areDigits (fun c => (hexDigit? c).isSome) digits then some (number 16 digits) else none
  | '0' :: digits => if areDigits isOctal digits then some (number 8 ('0' :: digits)) else none
  | digits =>
    match colonParts digits with
    | first :: parts =>
      if isPositive first && parts.all isSixtieth then
        some ((first :: parts).foldlM (fun n part => do return 60 * n + (← number 10 part)) 0)
      else none
    | [] => none

def int? (cs : List Char) : Option (Except Problem Int) :=
  let (negative, body) := signOf cs
  (magnitude? body).map fun read => read.map fun n => if negative then -(n : Int) else n

/-- The power of ten that ends a number: `e`, a sign and digits, or nothing. -/
def exponent? : List Char → Option Int
  | [] => some 0
  | e :: sign :: digits =>
    if (e = 'e' ∨ e = 'E') ∧ (sign = '+' ∨ sign = '-') ∧ !digits.isEmpty ∧ digits.all Char.isDigit
    then some (if sign = '-' then -(natOf 10 digits : Int) else natOf 10 digits)
    else none
  | _ => none

/-- Numbers with a point. One that starts with the point has no sign; with colons, a number goes by
sixties and has no power. -/
def float? (cs : List Char) : Option Binary64 :=
  let (negative, body) := signOf cs
  let isPart (c : Char) : Bool := c.isDigit || c == '_'
  let digitsOf (part : List Char) : List Char := part.filter (· ≠ '_')
  let whole := body.takeWhile (· ≠ '.')
  match body.drop whole.length with
  | '.' :: rest =>
    let fraction := rest.takeWhile isPart
    let startsDigit := whole.head?.any Char.isDigit
    if [".inf", ".Inf", ".INF"].contains (String.ofList body) then some (.infinity negative)
    else if [".nan", ".NaN", ".NAN"].contains (String.ofList cs) then some .nan
    else if whole.contains ':' then
      match colonParts whole with
      | first :: parts =>
        if startsDigit && first.all isPart && parts.all isSixtieth &&
            fraction.length == rest.length then
          let units := (first :: parts).foldl (fun n part => 60 * n + natOf 10 (digitsOf part)) 0
          let places := (digitsOf fraction).length
          let digits := units * Nat.pow 10 places + natOf 10 (digitsOf fraction)
          some (.ofDecimal negative digits (-(places : Int)))
        else none
      | [] => none
    else do
      let power ← exponent? (rest.drop fraction.length)
      let isNumber :=
        if whole.isEmpty then cs.head? == some '.' && fraction.head?.any Char.isDigit
        else startsDigit && whole.all isPart
      if !isNumber then none
      let digits := digitsOf (whole ++ fraction)
      some (.ofDecimal negative (natOf 10 digits) (power - (digitsOf fraction).length))
  | _ => none

def nullTexts : List String := ["", "~", "null", "Null", "NULL"]

def trueTexts : List String :=
  ["true", "True", "TRUE", "yes", "Yes", "YES", "on", "On", "ON"]

def falseTexts : List String :=
  ["false", "False", "FALSE", "no", "No", "NO", "off", "Off", "OFF"]

def Moment.data (m : Moment) : Except Problem Data :=
  match m.complaint? with
  | some message => .error (.unsuitable message)
  | none => .ok (.moment m.text m.shown)

/-- What a plain scalar stands for. Two marks of their own stand for nothing outside of maps. -/
def plainScalar (s : String) : Except Problem Data :=
  let cs := s.toList
  if nullTexts.contains s then .ok .null
  else if trueTexts.contains s then .ok (.bool true)
  else if falseTexts.contains s then .ok (.bool false)
  else if s == "=" || s == "<<" then .error .malformed
  else
    match float? cs, int? cs, Moment.read? cs with
    | some x, _, _ => .ok (.float x)
    | none, some read, _ => read.map .int
    | none, none, some moment => moment.data
    | none, none, none => .ok (.text s)

def taggedScalar (tag text : String) : Except Problem Data :=
  match tag with
  | "!" => plainScalar text
  | "!!str" => .ok (.text text)
  | "!!null" => .ok .null
  | _ => do
    match tag, ← plainScalar text with
    | "!!int", .int n => .ok (.int n)
    | "!!float", .float x => .ok (.float x)
    | "!!float", .int n => .ok (.float (.ofDecimal (n < 0) n.natAbs 0))
    | "!!bool", .bool b => .ok (.bool b)
    | "!!timestamp", .moment written shown => .ok (.moment written shown)
    | _, _ => .error .malformed

def scalarData (tag : Option String) (text : String) (isPlain : Bool) : Except Problem Data :=
  match tag with
  | some tag => taggedScalar tag text
  | none => if isPlain then plainScalar text else .ok (.text text)

def isMerge : Tree → Bool
  | .scalar none text isPlain => isPlain && text == "<<"
  | _ => false

def suits (tag : Option String) (own : String) : Bool :=
  tag.all fun name => name == "!" || name == own

mutual

def fieldsOf : Tree → Except Problem (List (Tree × Tree))
  | .fields _ fields => do
    let (merged, own) ← splitFields fields
    return merged ++ own
  | _ => .error .malformed

def splitFields : List (Tree × Tree) → Except Problem (List (Tree × Tree) × List (Tree × Tree))
  | [] => .ok ([], [])
  | (name, held) :: rest => do
    let brought ← if isMerge name then mergedBy held else .ok []
    let (merged, own) ← splitFields rest
    return if isMerge name then (brought ++ merged, own) else (merged, (name, held) :: own)

/-- The fields of a map, or of all maps of a list, of which the first has the last word. -/
def mergedBy : Tree → Except Problem (List (Tree × Tree))
  | .fields _ fields => do
    let (merged, own) ← splitFields fields
    return merged ++ own
  | .items _ items => do return (← mergedItems items).reverse.flatten
  | .scalar _ _ _ => .error .malformed

def mergedItems : List Tree → Except Problem (List (List (Tree × Tree)))
  | [] => .ok []
  | item :: rest => do return (← fieldsOf item) :: (← mergedItems rest)

end

def isKey : Data → Bool
  | .list _ => false
  | .map _ => false
  | .keyed _ => false
  | _ => true

def keyData (data : Tree → Except Problem Data) : Tree → Except Problem Data
  | .scalar none "=" true => .ok (.text "=")
  | key => data key

def dataFrom : Nat → Tree → Except Problem Data
  | 0, _ => .error .malformed
  | _ + 1, .scalar tag text isPlain => scalarData tag text isPlain
  | fuel + 1, .items tag items =>
    if suits tag "!!seq" then do return .list (← items.mapM (dataFrom fuel)) else .error .malformed
  | fuel + 1, .fields tag fields =>
    if suits tag "!!map" then do
      let all ← fieldsOf (.fields tag fields)
      let entries ← all.foldlM
        (fun entries (name, held) => do
          let key ← keyData (dataFrom fuel) name
          if !isKey key then throw .malformed
          return Data.putEntry entries key (← dataFrom fuel held))
        []
      return Data.ofEntries entries
    else .error .malformed

mutual

def Tree.depth : Tree → Nat
  | .scalar _ _ _ => 1
  | .items _ items => 1 + depthOfItems items
  | .fields _ fields => 1 + depthOfFields fields

def depthOfItems : List Tree → Nat
  | [] => 0
  | item :: rest => max (Tree.depth item) (depthOfItems rest)

def depthOfFields : List (Tree × Tree) → Nat
  | [] => 0
  | (name, held) :: rest => max (max (Tree.depth name) (Tree.depth held)) (depthOfFields rest)

end

def read (s : String) : Except Problem Data :=
  match tree? s with
  | none => .error .malformed
  | some none => .ok .null
  | some (some tree) => dataFrom tree.depth tree

end TypeAtlas.Yaml
