import PrintFarm.Decimal.Literal

/-!
# Numbers in JSON

A number is kept as it is written. Who asks for a double gets one that is found in two steps: the
digits that fit in 64 bits are rounded to a double, and this is multiplied or divided by powers of
ten. So the number is rounded more than once, and what comes out need not be the double nearest to
it, which is the value of its `literal`.
-/

namespace PrintFarm.Json

/-- A number as it is written: its sign, the digits before and after the point, and its exponent,
if it has one. -/
structure Numeral where
  negative : Bool
  whole : List Char
  fraction : List Char
  exponent : Option Int
  deriving DecidableEq, Repr

/-- Appends digits to `n`, up to the first one with which it takes more than 64 bits: the number,
and how many digits are left over. -/
def appendDigits (n : Nat) : List Char → Nat × Nat
  | [] => (n, 0)
  | c :: cs =>
    if Decimal.withDigit n c < Nat.pow 2 64 then appendDigits (Decimal.withDigit n c) cs
    else (n, cs.length + 1)

/-- A power of ten as a double. -/
def powerOfTen (n : Nat) : Float := Float.ofScientific 1 false n

/-- The last power of ten that is finite as a double. -/
def lastPower : Nat := 308

/-- `x` divided so many times by the last power of ten, until nothing is left of it. -/
def dividedByLastPower (x : Float) : Nat → Float
  | 0 => x
  | times + 1 => if x == 0.0 then x else dividedByLastPower (x / powerOfTen lastPower) times

/-- `x` divided by a power of ten: at most by the last one at a time. -/
def shrunk (x : Float) (places : Nat) : Float :=
  let times := (places - 1) / lastPower
  dividedByLastPower x times / powerOfTen (places - lastPower * times)

/-- `x` multiplied by a power of ten. Beyond the last one all but zero is infinite. -/
def grown (x : Float) (places : Nat) : Float :=
  if places ≤ lastPower then x * powerOfTen places
  else if x == 0.0 then x
  else 1.0 / 0.0

namespace Numeral

/-- Whether the number has neither point nor exponent. -/
def integral (n : Numeral) : Bool :=
  n.fraction.isEmpty && n.exponent.isNone

/-- The number that is written. -/
def literal (n : Numeral) : Decimal.Literal where
  negative := n.negative
  digits := Decimal.digitsValue (n.whole ++ n.fraction)
  exponent := n.exponent.getD 0 - n.fraction.length

/-- What is kept of the number. A digit that is left over counts as a zero before the point, and
as none behind it. Digits behind the point may still fit where one before it was left over. -/
def kept (n : Numeral) : Decimal.Literal :=
  let (whole, dropped) := appendDigits 0 n.whole
  let (digits, ignored) := appendDigits whole n.fraction
  { negative := n.negative
    digits := digits
    exponent := n.exponent.getD 0 + dropped - (n.fraction.length - ignored : Nat) }

/-- The double that the number is read as. -/
def real (n : Numeral) : Float :=
  let digits := n.kept.digits.toUInt64.toFloat
  let places := n.kept.exponent.natAbs
  let size := if n.kept.exponent < 0 then shrunk digits places else grown digits places
  if n.negative then -size else size

/-- Whether the number is too large for a double. -/
def overflows (n : Numeral) : Bool := n.real.isInf

/-- The whole number that is written: it must be written as one, be no negative zero, and fit in
64 bits. -/
def whole? (n : Numeral) : Option Int :=
  if !n.integral then none
  else if n.negative then
    if n.literal.digits = 0 || Nat.pow 2 63 < n.literal.digits then none
    else some (-(n.literal.digits : Int))
  else if n.literal.digits < Nat.pow 2 64 then some n.literal.digits
  else none

end Numeral

end PrintFarm.Json
