import TypeAtlas.Data.Basic

/-!
Days and moments as YAML writes them: `2001-12-31`, or with a time of day and an offset.
-/

namespace TypeAtlas.Yaml

/-- An offset from universal time: minutes, or none at all for its own mark. -/
structure Offset where
  negative : Bool := false
  minutes : Nat := 0

structure Clock where
  hour : Nat
  minute : Nat
  second : Nat
  fraction : Nat := 0
  offset : Option Offset := none

structure Moment where
  year : Nat
  month : Nat
  day : Nat
  clock : Option Clock := none

namespace Moment

def digits? (least most : Nat) (cs : List Char) : Option (Nat × List Char) :=
  let taken := (cs.take most).takeWhile Char.isDigit
  if taken.length < least then none
  else some (taken.foldl (fun n c => 10 * n + (c.toNat - 48)) 0, cs.drop taken.length)

def after? (mark : Char) : List Char → Option (List Char)
  | c :: rest => if c = mark then some rest else none
  | [] => none

/-- Millionths of a second by the digits behind the point; more than six do not count. -/
def fractionOf (digits : List Char) : Nat :=
  let six := (digits ++ List.replicate 6 '0').take 6
  six.foldl (fun n c => 10 * n + (c.toNat - 48)) 0

def offset? (cs : List Char) : Option (Option Offset) := do
  match cs.dropWhile fun c => c == ' ' || c == '\t' with
  | [] => if cs.isEmpty then some none else none
  | ['Z'] => some (some {})
  | sign :: rest =>
    if sign != '+' && sign != '-' then none
    let (hours, rest) ← digits? 1 2 rest
    let minutes ←
      match rest with
      | [] => some 0
      | _ => do
        let (minutes, rest) ← digits? 2 2 (← after? ':' rest)
        if rest.isEmpty then some minutes else none
    some (some { negative := sign == '-', minutes := 60 * hours + minutes })

def clock? (cs : List Char) : Option Clock := do
  let (hour, rest) ← digits? 1 2 cs
  let (minute, rest) ← digits? 2 2 (← after? ':' rest)
  let (second, rest) ← digits? 2 2 (← after? ':' rest)
  let (fraction, rest) :=
    match rest with
    | '.' :: more => (more.takeWhile Char.isDigit, more.dropWhile Char.isDigit)
    | more => ([], more)
  some { hour, minute, second, fraction := fractionOf fraction, offset := ← offset? rest }

def read? (cs : List Char) : Option Moment := do
  let (year, rest) ← digits? 4 4 cs
  let monthDigits ← after? '-' rest
  let (month, rest) ← digits? 1 2 monthDigits
  let dayDigits ← after? '-' rest
  let (day, rest) ← digits? 1 2 dayDigits
  match rest with
  | [] => if cs.length = 10 then some { year, month, day } else none
  | c :: more =>
    let blanks := more.takeWhile fun d => d == ' ' || d == '\t'
    if c == 'T' || c == 't' then some { year, month, day, clock := some (← clock? more) }
    else if c == ' ' || c == '\t' then
      some { year, month, day, clock := some (← clock? (more.drop blanks.length)) }
    else none

def isLeap (year : Nat) : Bool := year % 4 == 0 && (year % 100 != 0 || year % 400 == 0)

def daysIn (year month : Nat) : Nat :=
  if month = 2 then (if isLeap year then 29 else 28)
  else if [4, 6, 9, 11].contains month then 30
  else 31

def complaint? (m : Moment) : Option String :=
  if m.year = 0 then some "year 0 is out of range"
  else if m.month = 0 || 12 < m.month then some "month must be in 1..12"
  else if m.day = 0 || daysIn m.year m.month < m.day then some "day is out of range for month"
  else
    match m.clock with
    | none => none
    | some clock =>
      if 23 < clock.hour then some "hour must be in 0..23"
      else if 59 < clock.minute then some "minute must be in 0..59"
      else if 59 < clock.second then some "second must be in 0..59"
      else none

def padded (width n : Nat) : String :=
  let digits := toString n
  String.ofList (List.replicate (width - digits.length) '0') ++ digits

def Offset.text (o : Offset) : String :=
  (if o.negative && o.minutes != 0 then "-" else "+") ++ padded 2 (o.minutes / 60) ++ ":" ++
    padded 2 (o.minutes % 60)

def Clock.text (c : Clock) : String :=
  padded 2 c.hour ++ ":" ++ padded 2 c.minute ++ ":" ++ padded 2 c.second ++
    (if c.fraction = 0 then "" else "." ++ padded 6 c.fraction) ++
    ((c.offset.map Offset.text).getD "")

def text (m : Moment) : String :=
  padded 4 m.year ++ "-" ++ padded 2 m.month ++ "-" ++ padded 2 m.day ++
    ((m.clock.map fun clock => " " ++ Clock.text clock).getD "")

def Offset.shown (o : Offset) : String :=
  let seconds := 60 * o.minutes
  if seconds = 0 then "datetime.timezone.utc"
  else
    let parts :=
      if o.negative then "days=-1, seconds=" ++ toString (86400 - seconds)
      else "seconds=" ++ toString seconds
    "datetime.timezone(datetime.timedelta(" ++ parts ++ "))"

def shown (m : Moment) : String :=
  let day := [m.year, m.month, m.day]
  match m.clock with
  | none => "datetime.date(" ++ ", ".intercalate (day.map toString) ++ ")"
  | some c =>
    let seconds :=
      if c.fraction != 0 then [c.second, c.fraction]
      else if c.second != 0 then [c.second]
      else []
    let zone := (c.offset.map fun o => ["tzinfo=" ++ Offset.shown o]).getD []
    "datetime.datetime(" ++
      ", ".intercalate ((day ++ [c.hour, c.minute] ++ seconds).map toString ++ zone) ++ ")"

end Moment

end TypeAtlas.Yaml
