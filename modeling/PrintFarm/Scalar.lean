/-!
# The arithmetic of weights, prices and hours

Rules about weights, prices and hours use only the operations of the class `Scalar`. The program
computes with `Float`. The instance for `Rat` is the exact reading of the same rules: sums do not
round, nothing is infinite, and zero has no sign.
-/

namespace PrintFarm

/-- A kind of number to compute with. Comparisons are decided, so that rules can be run.
`ofInt` gives the number nearest to a whole number, and `emptySum` is what a sum starts from. -/
class Scalar (α : Type) extends Add α, Sub α, Mul α, Div α where
  ofInt : Int → α
  emptySum : α
  lt : α → α → Bool
  le : α → α → Bool
  eq : α → α → Bool
  isFinite : α → Bool
  isNaN : α → Bool

instance : Scalar Float where
  ofInt := Float.ofInt
  emptySum := -0.0
  lt x y := x < y
  le x y := x ≤ y
  eq x y := x == y
  isFinite := Float.isFinite
  isNaN := Float.isNaN

instance : Scalar Rat where
  ofInt := Rat.ofInt
  emptySum := 0
  lt x y := decide (x < y)
  le x y := decide (x ≤ y)
  eq x y := decide (x = y)
  isFinite _ := true
  isNaN _ := false

namespace Scalar

variable {α : Type} [Scalar α]

def zero : α := ofInt 0

/-- Whether `x` is a number from zero up. -/
def isNonNegative (x : α) : Bool :=
  isFinite x && !lt x zero

/-- Whether `x` is a number above zero. -/
def isPositive (x : α) : Bool :=
  isFinite x && lt zero x

/-- `x`, but zero for what is not above zero. -/
def positivePart (x : α) : α :=
  if lt zero x then x else zero

/-- The sum from left to right. -/
def sum (xs : List α) : α :=
  xs.foldl (· + ·) emptySum

/-- How far `actual` is from `planned`, in percent of `planned`. -/
def deviation (planned actual : α) : α :=
  (actual - planned) / planned * ofInt 100

/-- A column of numbers holds nothing where the value is not a number. -/
def stored? (x : α) : Option α :=
  if isNaN x then none else some x

end Scalar

end PrintFarm
