import TypeAtlas.Text.Blank
import TypeAtlas.Violation

/-!
Readers of plain data for single values: texts, truth values, integers, lists and the fields of a
map. Truth values and integers are also read from their usual texts.
-/

namespace TypeAtlas.Read

variable {α : Type}

def text : Data → Checked String
  | .text value => .ok value
  | input => .fail .string input

def list (read : Data → Checked α) : Data → Checked (List α)
  | .list items => .each read items
  | input => .fail .list input

def nullable (read : Data → Checked α) : Data → Checked (Option α)
  | .null => .ok none
  | input => some <$> read input

def truthTexts : List (String × Bool) :=
  [("0", false), ("off", false), ("f", false), ("false", false), ("n", false), ("no", false),
   ("1", true), ("on", true), ("t", true), ("true", true), ("y", true), ("yes", true)]

def fits64 (n : Int) : Bool := -0x8000000000000000 ≤ n && n < 0x8000000000000000

/-- A number as a truth value. Numbers of more than 64 bits are not even looked at. -/
def truthOf (input : Data) (n : Int) : Checked Bool :=
  if n = 0 then .ok false
  else if n = 1 then .ok true
  else if fits64 n then .fail .boolText input
  else .fail .bool input

def bool : Data → Checked Bool
  | .bool value => .ok value
  | input@(.int value) => truthOf input value
  | input@(.float value) =>
    match value.toInt? with
    | some whole => truthOf input whole
    | none => .fail .bool input
  | input@(.text value) =>
    match Table.get? truthTexts value.toLower with
    | some truth => .ok truth
    | none => .fail .boolText input
  | input => .fail .bool input

/-- Drops zeros and underscores from a number that starts with a zero; the last character stays where
nothing else is left. -/
def withoutLeadingZeros : List Char → Option (List Char)
  | '0' :: rest =>
    let body := rest.dropWhile fun c => c == '0' || c == '_'
    match body with
    | [] => some [rest.getLast?.getD (Char.ofNat 48)]
    | c :: _ =>
      if ('1' ≤ c && c ≤ '9') || c == '-' then some body
      else if c == '.' then
        some ((('0' :: rest).take (rest.length - body.length + 1)).getLast?.toList ++ body)
      else none
  | cs => some cs

def withoutZeroFraction (cs : List Char) : List Char :=
  let whole := cs.takeWhile (· ≠ '.')
  match cs.drop whole.length with
  | '.' :: zeros => if !zeros.isEmpty && zeros.all (· == '0') then whole else cs
  | _ => cs

def withoutUnderscores (cs : List Char) : Option (List Char) :=
  let doubled := (cs.zip (cs.drop 1)).any fun (a, b) => a == '_' && b == '_'
  if cs.head? == some '_' || cs.getLast? == some '_' || doubled then none
  else some (cs.filter (· ≠ '_'))

/-- A number in its plain form: perhaps a minus sign, and digits that do not start with a zero. -/
def plainNumber? (cs : List Char) : Option Int :=
  let negative := cs.head? == some '-'
  let digits := if negative then cs.drop 1 else cs
  if digits == ['0'] || (!digits.isEmpty && digits.all Char.isDigit && digits.head? != some '0') then
    let n : Nat := digits.foldl (fun n c => 10 * n + (c.toNat - 48)) 0
    some (if negative then -(n : Int) else n)
  else none

def mostDigits : Nat := 4300

/-- A whole number in decimal, with blanks around it, a sign, zeros in front, single underscores and
a fraction of zeros. -/
def wholeNumber (s : String) : Except Rule Int :=
  let cs := Text.trimList Text.isWhiteSpace s.toList
  let body? : Option (List Char) :=
    match cs with
    | '+' :: '-' :: _ => none
    | '+' :: rest => some rest
    | _ => some cs
  let plain? := do
    withoutUnderscores (withoutZeroFraction (← withoutLeadingZeros (← body?)))
  match plain? with
  | none => .error .intText
  | some plain =>
    if mostDigits < plain.length then .error .intRange
    else
      match plainNumber? plain with
      | some n => .ok n
      | none => .error .intText

def int : Data → Checked Int
  | .int value => .ok value
  | .bool value => .ok (if value then 1 else 0)
  | input@(.float value) =>
    if value.isNaN || value.isInfinite then .fail .finite input
    else
      match value.toInt? with
      | none => .fail .intWhole input
      | some whole => if whole.natAbs < 0x8000000000000000 then .ok whole else .fail .intRange input
  | input@(.text value) =>
    match wholeNumber value with
    | .ok whole => .ok whole
    | .error rule => .fail rule input
  | input => .fail .int input

def oneOf (ofText? : String → Option α) (expected : String) : Data → Checked α
  | input@(.text value) =>
    match ofText? value with
    | some choice => .ok choice
    | none => .fail (.oneOf expected) input
  | input => .fail (.oneOf expected) input

/-- A field is found under its name or under its other name; violations give the first. -/
structure FieldName where
  name : String
  other : String

instance : Coe String FieldName := ⟨fun name => ⟨name, name⟩⟩

def find? (fields : Table String Data) (field : FieldName) : Option Data :=
  match Table.get? fields field.name with
  | some value => some value
  | none => Table.get? fields field.other

def required (fields : Table String Data) (field : FieldName) (read : Data → Checked α) :
    Checked α :=
  match find? fields field with
  | some value => (read value).under (.key field.name)
  | none => (Checked.fail .required (.map fields)).under (.key field.name)

def optional (fields : Table String Data) (field : FieldName) (fallback : α)
    (read : Data → Checked α) : Checked α :=
  match find? fields field with
  | some value => (read value).under (.key field.name)
  | none => .ok fallback

end TypeAtlas.Read
