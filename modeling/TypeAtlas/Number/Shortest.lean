

/-!
Binary64 numbers by their bits, and the fewest decimal digits that read back as a given one, with their
layout as text.
-/

namespace TypeAtlas

/-- A binary64 number. Holding the bits makes equality mean identity: signed zeros differ, and a
not-a-number equals itself. -/
structure Binary64 where
  bits : UInt64
deriving DecidableEq, Repr, Inhabited

namespace Binary64

def negative (x : Binary64) : Bool := x.bits >>> 63 == 1

def exponentField (x : Binary64) : Nat := ((x.bits >>> 52) &&& 0x7ff).toNat

def fractionField (x : Binary64) : Nat := (x.bits &&& 0xfffffffffffff).toNat

def isNaN (x : Binary64) : Bool := x.exponentField == 2047 && x.fractionField != 0

def isInfinite (x : Binary64) : Bool := x.exponentField == 2047 && x.fractionField == 0

def isZero (x : Binary64) : Bool := x.exponentField == 0 && x.fractionField == 0

def mantissa (x : Binary64) : Nat :=
  if x.exponentField = 0 then x.fractionField else x.fractionField + Nat.pow 2 52

def scale (x : Binary64) : Int :=
  if x.exponentField = 0 then -1074 else (x.exponentField : Int) - 1075

def toInt? (x : Binary64) : Option Int :=
  if x.exponentField = 2047 then none
  else
    let magnitude? : Option Nat :=
      match x.scale with
      | .ofNat up => some (x.mantissa * Nat.pow 2 up)
      | .negSucc down =>
        let part := Nat.pow 2 (down + 1)
        if x.mantissa % part = 0 then some (x.mantissa / part) else none
    magnitude?.map fun magnitude => if x.negative then -(magnitude : Int) else magnitude

/-- Equality of values: the two zeros are equal and a not-a-number equals nothing. -/
def sameValue (x y : Binary64) : Bool :=
  !x.isNaN && !y.isNaN && (x == y || (x.isZero && y.isZero))

def infinity (negative : Bool) : Binary64 :=
  ⟨if negative then 0xfff0000000000000 else 0x7ff0000000000000⟩

def nan : Binary64 := ⟨0x7ff8000000000000⟩

def withSign (negative : Bool) (bits : UInt64) : Binary64 :=
  ⟨if negative then bits ||| 0x8000000000000000 else bits⟩

/-- The number nearest to `digits * 10 ^ power`, with ties to the even mantissa. Powers far outside
the range of the format are settled without raising ten to them. -/
def ofDecimal (negative : Bool) (digits : Nat) (power : Int) : Binary64 :=
  if digits = 0 then withSign negative 0
  else if power ≥ 400 then infinity negative
  else if 10 * (digits.log2 : Int) + 33 * power < -11100 then withSign negative 0
  else
    let magnitude := Float.ofScientific digits (power < 0) power.natAbs
    withSign negative magnitude.toBits

end Binary64

structure Decimal where
  digits : Nat
  power : Int
deriving DecidableEq, Repr, Inhabited

namespace Binary64

/-- A positive real `top / bottom` between the ends of the interval that rounds to it. All three
share the denominator; the ends belong to the interval when the mantissa is even. -/
structure Rounding where
  low : Nat
  centre : Nat
  high : Nat
  bottom : Nat
  closed : Bool
deriving Repr

def rounding (x : Binary64) : Rounding :=
  let mantissa := x.mantissa
  let below := if mantissa = Nat.pow 2 52 ∧ x.exponentField > 1 then 1 else 2
  let quarter := x.scale - 2
  let up := Nat.pow 2 quarter.toNat
  { low := (4 * mantissa - below) * up
    centre := 4 * mantissa * up
    high := (4 * mantissa + 2) * up
    bottom := Nat.pow 2 (-quarter).toNat
    closed := mantissa % 2 = 0 }

def Rounding.holds (r : Rounding) (power : Int) (grid : Nat) : Bool :=
  let point := grid * Nat.pow 10 power.toNat * r.bottom
  let shrink := Nat.pow 10 (-power).toNat
  if r.closed then r.low * shrink ≤ point && point ≤ r.high * shrink
  else r.low * shrink < point && point < r.high * shrink

/-- The point of the grid of multiples of `10 ^ power` that rounds to the number and lies nearest,
an exact tie going to the even multiple. -/
def Rounding.nearest? (r : Rounding) (power : Int) : Option Nat :=
  let unit := Nat.pow 10 power.toNat * r.bottom
  let target := r.centre * Nat.pow 10 (-power).toNat
  let below := target / unit
  let above := below + 1
  match r.holds power below, r.holds power above with
  | true, true =>
    let gapBelow := target - below * unit
    let gapAbove := above * unit - target
    some (if gapBelow < gapAbove ∨ (gapBelow = gapAbove ∧ below % 2 = 0) then below else above)
  | true, false => some below
  | false, true => some above
  | false, false => none

def digitCountFrom : Nat → Nat → Nat
  | 0, _ => 0
  | fuel + 1, n => if n < 10 then 1 else 1 + digitCountFrom fuel (n / 10)

def digitCount (n : Nat) : Nat := digitCountFrom (n.log2 + 1) n

/-- How often a fraction below one is multiplied by ten before it reaches one. -/
def raisesFrom (bottom : Nat) : Nat → Nat → Nat
  | 0, _ => 0
  | fuel + 1, top => if top ≥ bottom then 0 else 1 + raisesFrom bottom fuel (top * 10)

def Rounding.leadingPower (r : Rounding) : Int :=
  if r.centre ≥ r.bottom then (digitCount (r.centre / r.bottom) : Int) - 1
  else -(raisesFrom r.bottom 400 r.centre : Int)

def dropZerosFrom : Nat → Decimal → Decimal
  | 0, d => d
  | fuel + 1, d =>
    if d.digits % 10 = 0 ∧ d.digits ≠ 0 then dropZerosFrom fuel ⟨d.digits / 10, d.power + 1⟩ else d

def shortestFrom (r : Rounding) (leading : Int) : Nat → Nat → Decimal
  | 0, _ => ⟨0, 0⟩
  | fuel + 1, count =>
    let power := leading - count
    match r.nearest? power with
    | some grid => dropZerosFrom 20 ⟨grid, power⟩
    | none => shortestFrom r leading fuel (count + 1)

def shortest (x : Binary64) : Decimal :=
  if x.isZero then ⟨0, 0⟩
  else
    let r := x.rounding
    shortestFrom r r.leadingPower 18 0

/-- How numbers are laid out: plain notation for leading powers from `plainFrom` up to but excluding
`plainBelow`, else an exponent of at least `exponentWidth` digits with its sign. -/
structure Layout where
  plainFrom : Int := -4
  plainBelow : Int := 16
  exponentWidth : Nat := 2
  notANumber : String := "nan"
  infinite : String := "inf"

def zeros (count : Nat) : String := String.ofList (List.replicate count '0')

def Layout.exponent (layout : Layout) (power : Int) : String :=
  let digits := toString power.natAbs
  "e" ++ (if power < 0 then "-" else "+") ++ zeros (layout.exponentWidth - digits.length) ++ digits

def Layout.decimal (layout : Layout) (d : Decimal) : String :=
  let digits := toString d.digits
  let count := digits.length
  let leading := d.power + count - 1
  if layout.plainFrom ≤ leading ∧ leading < layout.plainBelow then
    if d.power ≥ 0 then digits ++ zeros d.power.toNat ++ ".0"
    else if leading ≥ 0 then
      let whole := leading.toNat + 1
      String.ofList (digits.toList.take whole) ++ "." ++ String.ofList (digits.toList.drop whole)
    else "0." ++ zeros (-leading - 1).toNat ++ digits
  else
    let mantissa :=
      match digits.toList with
      | [] => ""
      | [digit] => String.singleton digit
      | digit :: rest => String.singleton digit ++ "." ++ String.ofList rest
    mantissa ++ layout.exponent leading

def Layout.render (layout : Layout) (x : Binary64) : String :=
  if x.isNaN then layout.notANumber
  else
    let sign := if x.negative then "-" else ""
    if x.isInfinite then sign ++ layout.infinite else sign ++ layout.decimal x.shortest

end Binary64

end TypeAtlas
