import PrintFarm.Decimal.Fixed
import PrintFarm.Decimal.Shortest

/-!
# Notations for the shortest decimal

Two notations are in use. Messages write numbers positionally, whatever their size; documents
write very large and very small ones with an exponent and mark every other number as a fraction.
-/

namespace PrintFarm.Decimal

/-- The decisions in which notations differ. A number is written positionally if the place of its
leading digit is from `smallest` to `largest` (`1` for numbers from 1 below 10, `0` from 0.1). -/
structure Notation where
  smallest : Option Int
  largest : Option Int
  pointZero : Bool
  deriving DecidableEq, Repr

/-- Numbers in messages: always positional, whole numbers without a point. -/
def Notation.message : Notation := ⟨none, none, false⟩

/-- Numbers in documents: positional from `1e-5` below `1e16`, whole numbers end in `.0`. -/
def Notation.document : Notation := ⟨some (-4), some 16, true⟩

/-- Whether a number with its leading digit at `place` is written positionally. -/
def Notation.isPositional (n : Notation) (place : Int) : Bool :=
  (n.smallest.all fun s => s ≤ place) && (n.largest.all fun l => place ≤ l)

/-- The digits with a point after the first `place` of them, filled up with zeros. -/
def positional (pointZero : Bool) (digits : List Char) (place : Int) : List Char :=
  if place ≤ 0 then
    '0' :: '.' :: List.replicate (-place).toNat '0' ++ digits
  else if digits.length ≤ place.toNat then
    digits ++ List.replicate (place.toNat - digits.length) '0' ++
      (if pointZero then ['.', '0'] else [])
  else
    digits.take place.toNat ++ '.' :: digits.drop place.toNat

/-- One digit before the point, and an exponent that always has a sign. -/
def scientific (digits : List Char) (place : Int) : List Char :=
  let exponent := place - 1
  let fraction := digits.drop 1
  digits.take 1 ++ (if fraction.isEmpty then [] else '.' :: fraction) ++
    'e' :: (if exponent < 0 then '-' else '+') :: Nat.toDigits 10 exponent.natAbs

/-- The digits of a decimal without zeros at the end, and the place of the leading one. -/
def Scaled.normal (s : Scaled) : List Char × Int :=
  let digits := Nat.toDigits 10 s.digits
  let kept := (digits.reverse.dropWhile (· == '0')).reverse
  if kept.isEmpty then (['0'], 1) else (kept, digits.length + s.exponent)

/-- The absolute value of a finite double in notation `n`. -/
def Notation.digits (n : Notation) (b : Binary) : List Char :=
  let (digits, place) := (shortest b).normal
  if n.isPositional place then positional n.pointZero digits place else scientific digits place

/-- A finite double in notation `n`; zero keeps its sign. -/
def Notation.finite (n : Notation) (b : Binary) : String :=
  String.ofList ((if b.negative then ['-'] else []) ++ n.digits b)

/-- A double in notation `n`, with words for what is not a finite number. -/
def Notation.text (n : Notation) (x : Float) : String :=
  match magnitude x with
  | .notANumber => "NaN"
  | .infinite true => "-inf"
  | .infinite false => "inf"
  | .finite b => n.finite b

end PrintFarm.Decimal
