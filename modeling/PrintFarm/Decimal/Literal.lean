/-!
# Decimal literals

A literal is a sign, digits with an optional point, and an optional exponent. `Literal.value` is
the double nearest to it. `readAmount?` is the grammar of amounts that people type.
-/

namespace PrintFarm.Decimal

/-- The number `± digits * 10 ^ exponent`. -/
structure Literal where
  negative : Bool
  digits : Nat
  exponent : Int
  deriving DecidableEq, Repr

/-- The number with one more digit at its end. -/
def withDigit (n : Nat) (c : Char) : Nat :=
  n * 10 + (c.toNat - '0'.toNat)

/-- The value of the digits in `cs`. -/
def digitsValue (cs : List Char) : Nat :=
  cs.foldl withDigit 0

/-- Magnitudes beyond this power of ten are infinite, and below its inverse zero. -/
def widestPower : Int := 400

/-- The double nearest to the literal; too large ones are infinite, and zero keeps its sign. The
exponent is looked at first, so that its power of ten is never larger than needed. -/
def Literal.value (l : Literal) : Float :=
  let place := (Nat.toDigits 10 l.digits).length + l.exponent
  let size : Float :=
    if l.digits = 0 then 0.0
    else if widestPower < place then 1.0 / 0.0
    else if place < -widestPower then 0.0
    else Float.ofScientific l.digits (l.exponent < 0) l.exponent.natAbs
  if l.negative then -size else size

/-- Takes a sign off the front: whether it is a minus, and the rest. -/
def takeSign : List Char → Bool × List Char
  | '-' :: rest => (true, rest)
  | '+' :: rest => (false, rest)
  | rest => (false, rest)

/-- An exponent mark with a whole number after it, or nothing at all. -/
def readExponent? : List Char → Option Int
  | [] => some 0
  | c :: rest =>
    if c = 'e' || c = 'E' then
      let (negative, digits) := takeSign rest
      if digits.isEmpty || !digits.all Char.isDigit then none
      else
        let n : Int := digitsValue digits
        some (if negative then -n else n)
    else none

/-- Digits with an optional point among or beside them, then an optional exponent. -/
def readNumber? (negative : Bool) (cs : List Char) : Option Literal := do
  let whole := cs.takeWhile Char.isDigit
  let afterWhole := cs.dropWhile Char.isDigit
  let (fraction, rest) := match afterWhole with
    | '.' :: r => (r.takeWhile Char.isDigit, r.dropWhile Char.isDigit)
    | r => ([], r)
  if whole.isEmpty && fraction.isEmpty then none
  else
    let exponent ← readExponent? rest
    some ⟨negative, digitsValue (whole ++ fraction), exponent - fraction.length⟩

/-- Reads an amount: a literal with an optional sign, or a word for infinity or no number, in any
letter case. -/
def readAmount? (s : String) : Option Float :=
  let (negative, cs) := takeSign s.toList
  let word := String.ofList (cs.map Char.toLower)
  if word = "inf" || word = "infinity" then some (if negative then -1.0 / 0.0 else 1.0 / 0.0)
  else if word = "nan" then some (0.0 / 0.0)
  else (readNumber? negative cs).map Literal.value

/-- Reads a whole number with an optional plus sign, at most `most`. -/
def readNatural? (most : Nat) (s : String) : Option Nat :=
  let digits := match s.toList with
    | '+' :: rest => rest
    | cs => cs
  if digits.isEmpty || !digits.all Char.isDigit then none
  else
    let n := digitsValue digits
    if n ≤ most then some n else none

end PrintFarm.Decimal
