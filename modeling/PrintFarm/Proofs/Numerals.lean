import Mathlib
import PrintFarm.Json.Decoder

/-!
# What numbers are read as

A number is read as a double that was rounded more than once, and its `literal` tells the double
that is nearest to it.  The two are the same for short numbers, and all that people type is short:
up to 15 digits, the last of which stands at most 22 places behind the point.

* `appendDigits_eq` and `Numeral.kept_eq_literal`: nothing is left over of digits that fit in 64
  bits.
* `Numeral.real_eq_value`: a short number is read as the double nearest to it.  Its digits are a
  double and so is the power of ten, which leaves one rounding.
* `Numeral.eq_of_whole?_eq_some`: a whole number is read as the number that is written.
* `Document.numerals` lists the numbers in a document.
-/

namespace PrintFarm.Json

open Decimal (withDigit)

/-! ## Digits -/

theorem le_foldl_withDigit (cs : List Char) (n : Nat) : n ≤ cs.foldl withDigit n := by
  induction cs generalizing n with
  | nil => exact Nat.le_refl n
  | cons c cs ih =>
    have hlonger : n ≤ withDigit n c := by
      unfold withDigit
      omega
    exact Nat.le_trans hlonger (ih (withDigit n c))

/-- Digits that fit are all appended. -/
theorem appendDigits_eq {cs : List Char} {n : Nat} (h : cs.foldl withDigit n < 2 ^ 64) :
    appendDigits n cs = (cs.foldl withDigit n, 0) := by
  induction cs generalizing n with
  | nil => rfl
  | cons c cs ih =>
    have hfits : withDigit n c < Nat.pow 2 64 :=
      Nat.lt_of_le_of_lt (le_foldl_withDigit cs (withDigit n c)) h
    rw [appendDigits, if_pos hfits, ih h, List.foldl_cons]

/-- Nothing is left over of a number whose digits fit in 64 bits. -/
theorem Numeral.kept_eq_literal {n : Numeral} (h : n.literal.digits < 2 ^ 64) :
    n.kept = n.literal := by
  have hdigits : n.literal.digits = n.fraction.foldl withDigit (n.whole.foldl withDigit 0) := by
    rw [literal, Decimal.digitsValue, List.foldl_append]
  rw [hdigits] at h
  have hwhole := appendDigits_eq (Nat.lt_of_le_of_lt (le_foldl_withDigit n.fraction _) h)
  have hfraction := appendDigits_eq h
  simp only [kept, hwhole, hfraction, ← hdigits]
  simp [literal]

/-! ## Doubles -/

/-- The digits of a literal as a double, divided or multiplied by the power of ten. -/
def scaled (l : Decimal.Literal) : Float :=
  let digits := l.digits.toUInt64.toFloat
  let power := powerOfTen l.exponent.natAbs
  let size := if l.exponent < 0 then digits / power else digits * power
  if l.negative then -size else size

/-- A number is scaled by one power of ten, unless that is none of a double. -/
theorem Numeral.real_eq_scaled {n : Numeral} (h : n.kept.exponent.natAbs ≤ lastPower) :
    n.real = scaled n.kept := by
  have htimes : (n.kept.exponent.natAbs - 1) / lastPower = 0 := by
    unfold lastPower at h ⊢
    omega
  unfold real shrunk grown scaled
  dsimp only
  rw [if_pos h, htimes, Nat.mul_zero, Nat.sub_zero]
  rfl

/-- The digits of the literal are a double, and so is the power of ten. -/
def IsShort (l : Decimal.Literal) : Prop :=
  l.digits < 2 ^ 53 ∧ l.exponent.natAbs ≤ 22

instance (l : Decimal.Literal) : Decidable (IsShort l) :=
  inferInstanceAs (Decidable (_ ∧ _))

theorem powerOfTen_eq {places : Nat} (h : places < Float.exactlyRepresentablePowersOfTen.size) :
    powerOfTen places = Float.exactlyRepresentablePowersOfTen[places] := by
  have hall : ∀ places : Fin 23,
      powerOfTen places = Float.exactlyRepresentablePowersOfTen[places] := by decide +kernel
  exact hall ⟨places, h⟩

/-- Zero is scaled to zero. -/
theorem scaled_zero {places : Nat} (h : places ≤ 22) :
    (0 : Nat).toUInt64.toFloat / powerOfTen places = 0.0 ∧
      (0 : Nat).toUInt64.toFloat * powerOfTen places = 0.0 := by
  have hall : ∀ places : Fin 23, (0 : Nat).toUInt64.toFloat / powerOfTen places = 0.0 ∧
      (0 : Nat).toUInt64.toFloat * powerOfTen places = 0.0 := by decide +kernel
  exact hall ⟨places, Nat.lt_succ_of_le h⟩

/-- So the double nearest to a number of few digits takes one division or multiplication. -/
theorem ofScientific_eq {digits places : Nat} (hdigits : digits < 2 ^ 53) (hplaces : places ≤ 22)
    (small : Bool) : Float.ofScientific digits small places =
      if small then digits.toUInt64.toFloat / powerOfTen places
      else digits.toUInt64.toFloat * powerOfTen places := by
  rw [Float.ofScientific, dif_pos ⟨hdigits, hplaces⟩, powerOfTen_eq (Nat.lt_succ_of_le hplaces)]
  rfl

/-- Scaling gives the double nearest to a short literal. -/
theorem value_eq_scaled {l : Decimal.Literal} (h : IsShort l) : l.value = scaled l := by
  obtain ⟨hdigits, hplaces⟩ := h
  have hlength : (Nat.toDigits 10 l.digits).length ≤ 16 :=
    Nat.toDigits_length 10 _ 16 (by decide) (by omega)
  have hwide : Decimal.widestPower = 400 := rfl
  unfold Decimal.Literal.value scaled
  dsimp only
  rw [if_neg (c := Decimal.widestPower < _) (by omega),
    if_neg (c := _ < -Decimal.widestPower) (by omega), ofScientific_eq hdigits hplaces]
  by_cases hzero : l.digits = 0
  · obtain ⟨hdivided, hmultiplied⟩ := scaled_zero hplaces
    rw [hzero, hdivided, hmultiplied, if_pos rfl, ite_self]
  · rw [if_neg hzero]
    by_cases hsmall : l.exponent < 0
    · rw [decide_eq_true hsmall, if_pos rfl, if_pos hsmall]
    · rw [decide_eq_false hsmall, if_neg Bool.false_ne_true, if_neg hsmall]

/-- A short number is read as the double nearest to it. -/
theorem Numeral.real_eq_value {n : Numeral} (h : IsShort n.literal) : n.real = n.literal.value := by
  have hkept := kept_eq_literal (Nat.lt_trans h.1 (by decide))
  rw [value_eq_scaled h, ← hkept]
  exact real_eq_scaled (hkept ▸ Nat.le_trans h.2 (by decide))

/-! ## Whole numbers -/

/-- A whole number is read as the number that is written. -/
theorem Numeral.eq_of_whole?_eq_some {n : Numeral} {i : Int} (h : n.whole? = some i) :
    n.literal.exponent = 0 ∧
      i = if n.negative then -(n.literal.digits : Int) else n.literal.digits := by
  obtain ⟨negative, whole, fraction, exponent⟩ := n
  cases fraction with
  | cons c cs => exact nomatch h
  | nil =>
    cases exponent with
    | some e => exact nomatch h
    | none =>
      refine ⟨rfl, ?_⟩
      simp only [whole?, integral] at h
      grind

/-! ## Documents -/

mutual

/-- The numbers in a document. -/
def Document.numerals : Document → List Numeral
  | .number n => [n]
  | .list items _ => itemsNumerals items
  | .record fields _ => fieldsNumerals fields
  | _ => []

def itemsNumerals : List Document → List Numeral
  | [] => []
  | d :: ds => d.numerals ++ itemsNumerals ds

def fieldsNumerals : List (Document × Document) → List Numeral
  | [] => []
  | (_, d) :: fields => d.numerals ++ fieldsNumerals fields

end

end PrintFarm.Json
