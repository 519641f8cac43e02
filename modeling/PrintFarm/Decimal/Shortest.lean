import PrintFarm.Decimal.Binary

/-!
# The shortest decimal of a double

Every double is the nearest one to a whole interval of real numbers. Its shortest decimal is the
number in that interval with the fewest digits, and of those the one nearest to the double.

With `k` digits the candidates lie on a grid, and if any point of the grid is in the interval, one
of the two neighbours of the double is. So `shortest` looks at two points for each `k`.
-/

namespace PrintFarm.Decimal

/-- The number `digits * 10 ^ exponent`, without a sign. -/
structure Scaled where
  digits : Nat
  exponent : Int
  deriving DecidableEq, Repr

/-- How many decimal digits `n` has. -/
def digitCount (n : Nat) : Nat :=
  (Nat.toDigits 10 n).length

/-- The `e` with `10 ^ (e - 1) ≤ num / den < 10 ^ e`, for a positive quotient. -/
def leadingPlace (num den : Nat) : Int :=
  if den ≤ num then digitCount (num / den)
  else
    let steps := digitCount (den / num)
    if den ≤ num * Nat.pow 10 (steps - 1) then 2 - (steps : Int) else 1 - (steps : Int)

/-- The numbers that are read back as one double: those between two quotients over the common
denominator `den`, the ends belonging to them if `closed`. -/
structure Basin where
  low : Nat
  mid : Nat
  high : Nat
  den : Nat
  closed : Bool

/-- Half the gap to the next double on either side; below the first number of a binade the gap is
half as wide. All three ends are given in quarters of the last place. -/
def Binary.basin (b : Binary) : Basin :=
  let below := if b.significand = hiddenBit ∧ lowestExponent < b.exponent then 1 else 2
  let scaleUp := if 0 ≤ b.exponent then Nat.pow 2 b.exponent.toNat else 1
  let scaleDown := if 0 ≤ b.exponent then 1 else Nat.pow 2 (-b.exponent).toNat
  { low := (4 * b.significand - below) * scaleUp
    mid := 4 * b.significand * scaleUp
    high := (4 * b.significand + 2) * scaleUp
    den := 4 * scaleDown
    closed := b.significand % 2 == 0 }

/-- Whether `num / den` lies in the interval. -/
def Basin.contains (i : Basin) (num den : Nat) : Bool :=
  let n := num * i.den
  if i.closed then i.low * den ≤ n && n ≤ i.high * den
  else i.low * den < n && n < i.high * den

/-- The quotient that the decimal stands for. -/
def Scaled.quotient (s : Scaled) : Nat × Nat :=
  if 0 ≤ s.exponent then (s.digits * Nat.pow 10 s.exponent.toNat, 1)
  else (s.digits, Nat.pow 10 (-s.exponent).toNat)

/-- The neighbour of the double, on the grid of multiples of `10 ^ exponent`, that lies in the
interval: the nearer one if both do, and the even one if they are equally near. -/
def Basin.onGrid? (i : Basin) (exponent : Int) : Option Scaled :=
  let (up, down) := if 0 ≤ exponent then (1, Nat.pow 10 exponent.toNat)
    else (Nat.pow 10 (-exponent).toNat, 1)
  let num := i.mid * up
  let den := i.den * down
  let floor : Scaled := ⟨num / den, exponent⟩
  let ceiling : Scaled := ⟨num / den + 1, exponent⟩
  let holds (s : Scaled) : Bool := i.contains s.quotient.1 s.quotient.2
  match holds floor, holds ceiling with
  | true, false => some floor
  | false, true => some ceiling
  | false, false => none
  | true, true =>
    let twice := 2 * (num % den)
    if twice < den then some floor
    else if den < twice then some ceiling
    else if floor.digits % 2 = 0 then some floor else some ceiling

/-- Seventeen digits always suffice for a double. -/
def mostDigits : Nat := 17

/-- The shortest decimal of a finite double, zero being `0 * 10 ^ 0`. -/
def shortest (b : Binary) : Scaled :=
  if b.significand = 0 then ⟨0, 0⟩
  else
    let basin := b.basin
    let place := leadingPlace basin.mid basin.den
    let grids := (List.range mostDigits).map fun k : Nat => place - 1 - (k : Int)
    (grids.findSome? basin.onGrid?).getD ⟨b.significand, 0⟩

end PrintFarm.Decimal
