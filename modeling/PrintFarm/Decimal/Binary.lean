/-!
# Doubles as exact numbers

A finite double is a whole number times a power of two. `magnitude` reads both off the bits;
every text of a number is then found in exact arithmetic on natural numbers.
-/

namespace PrintFarm.Decimal

/-- The number `± significand * 2 ^ exponent`. The sign is kept for zero too. -/
structure Binary where
  negative : Bool
  significand : Nat
  exponent : Int
  deriving DecidableEq, Repr

/-- What a double stands for. -/
inductive Magnitude
  | notANumber
  | infinite (negative : Bool)
  | finite (value : Binary)
  deriving DecidableEq, Repr

/-- The significand of the smallest normal number of a binade. -/
def hiddenBit : Nat := Nat.pow 2 52

/-- The exponent of the numbers below all normal ones. -/
def lowestExponent : Int := -1074

/-- Reads sign, exponent and fraction off the bits of a double. -/
def magnitude (x : Float) : Magnitude :=
  let bits := x.toBits.toNat
  let negative := bits / Nat.pow 2 63 == 1
  let biased := bits / Nat.pow 2 52 % 2048
  let fraction := bits % Nat.pow 2 52
  if biased = 2047 then
    if fraction = 0 then .infinite negative else .notANumber
  else if biased = 0 then
    .finite ⟨negative, fraction, lowestExponent⟩
  else
    .finite ⟨negative, fraction + hiddenBit, lowestExponent + (biased - 1 : Nat)⟩

/-- The absolute value as a quotient of two natural numbers. -/
def Binary.quotient (b : Binary) : Nat × Nat :=
  if 0 ≤ b.exponent then (b.significand * Nat.pow 2 b.exponent.toNat, 1)
  else (b.significand, Nat.pow 2 (-b.exponent).toNat)

end PrintFarm.Decimal
