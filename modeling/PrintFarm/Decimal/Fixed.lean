import PrintFarm.Decimal.Binary
import PrintFarm.Text.Column

/-!
# Numbers with a fixed count of places

The exact value of a double is rounded to the wanted place, a half going to the even neighbour.
-/

namespace PrintFarm.Decimal

/-- The whole number nearest to `num / den`; of two equally near ones the even one. -/
def roundDiv (num den : Nat) : Nat :=
  let low := num / den
  let twice := 2 * (num % den)
  if twice < den then low
  else if den < twice then low + 1
  else if low % 2 = 0 then low else low + 1

/-- Digits with a point before the last `places` of them. -/
def withPlaces (places n : Nat) : String :=
  if places = 0 then Text.zeroPadded 1 n
  else
    Text.zeroPadded 1 (n / Nat.pow 10 places) ++ "." ++
      Text.zeroPadded places (n % Nat.pow 10 places)

/-- How the sign of a number is written. -/
inductive SignRule
  | minusOnly
  | always
  deriving DecidableEq, Repr

/-- The sign in front of a number; zero keeps the one it has. -/
def SignRule.text : SignRule → Bool → String
  | _, true => "-"
  | .minusOnly, false => ""
  | .always, false => "+"

/-- `x` rounded to `places` places. What is not a number has no sign. -/
def fixed (sign : SignRule) (places : Nat) (x : Float) : String :=
  match magnitude x with
  | .notANumber => "NaN"
  | .infinite negative => sign.text negative ++ "inf"
  | .finite b =>
    let (num, den) := b.quotient
    sign.text b.negative ++ withPlaces places (roundDiv (num * Nat.pow 10 places) den)

end PrintFarm.Decimal
