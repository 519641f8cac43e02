import Mathlib
import PrintFarm.Scalar

/-!
# Laws of arithmetic

The rules about weights hold for every kind of number that obeys `LawfulScalar`: what is not below
is above or equal, nothing is lost where an amount is added to zero, and amounts add up to amounts.
An amount is a value that is a number and not below zero.

Exact numbers obey the laws, and so do the numbers the program computes with.  For these the laws
are proved from the words that they are kept as.

* A word is a sign, an exponent and a mantissa (`Word.exists_word`), and `Word.read_word` says what
  it stands for.
* A number survives being read and written again (`Word.write_read`).
* What is not below is above or equal (`Word.le_of_not_lt`).
* A sum of amounts is rounded to an amount (`Word.amount_add`, `Word.amount_read_write`).
-/

namespace PrintFarm

namespace Scalar

variable {α : Type} [Scalar α]

/-- A value that is a number and not below zero. -/
structure IsAmount (x : α) : Prop where
  isNumber : isNaN x = false
  notBelow : lt x zero = false

end Scalar

open Scalar (IsAmount)

/-- What the rules about weights need of the numbers that are computed with. -/
class LawfulScalar (α : Type) [Scalar α] : Prop where
  le_of_not_lt (x y : α) : Scalar.isNaN x = false → Scalar.isNaN y = false →
    Scalar.lt y x = false → Scalar.le x y = true
  zero_add (x : α) : Scalar.lt Scalar.zero x = true → Scalar.zero + x = x
  isAmount_of_positive (x : α) : Scalar.lt Scalar.zero x = true → IsAmount x
  isAmount_emptySum : IsAmount (Scalar.emptySum : α)
  isAmount_add (x y : α) : IsAmount x → IsAmount y → IsAmount (x + y)

/-- A sum of amounts is an amount. -/
theorem Scalar.isAmount_sum {α : Type} [Scalar α] [LawfulScalar α] {xs : List α}
    (h : ∀ x ∈ xs, IsAmount x) : IsAmount (Scalar.sum xs) := by
  have hfold : ∀ (xs : List α) (start : α), IsAmount start → (∀ x ∈ xs, IsAmount x) →
      IsAmount (xs.foldl (· + ·) start) := by
    intro xs
    induction xs with
    | nil =>
      intro start hstart _
      exact hstart
    | cons x xs ih =>
      intro start hstart hxs
      have hx := LawfulScalar.isAmount_add start x hstart (hxs x List.mem_cons_self)
      exact ih _ hx fun y hy => hxs y (List.mem_cons_of_mem _ hy)
  exact hfold xs _ LawfulScalar.isAmount_emptySum h

/-! ## Exact numbers -/

instance : LawfulScalar Rat where
  le_of_not_lt x y _ _ h := by
    have hlt : ¬y < x := of_decide_eq_false h
    exact decide_eq_true (Rat.not_lt.mp hlt)
  zero_add x _ := Rat.zero_add x
  isAmount_of_positive x h := by
    have hpos : (0 : Rat) < x := of_decide_eq_true h
    exact ⟨rfl, decide_eq_false (Rat.not_lt.mpr (Rat.le_of_lt hpos))⟩
  isAmount_emptySum := ⟨rfl, by decide⟩
  isAmount_add x y hx hy := by
    have hx : (0 : Rat) ≤ x := Rat.not_lt.mp (of_decide_eq_false hx.notBelow)
    have hy : (0 : Rat) ≤ y := Rat.not_lt.mp (of_decide_eq_false hy.notBelow)
    exact ⟨rfl, decide_eq_false (Rat.not_lt.mpr (Rat.add_nonneg hx hy))⟩

/-! ## Numbers as words -/

namespace Word

open Float.Model (UnpackedFloat Format)
open Float.Model.UnpackedFloat

/-- The word with these fields. -/
abbrev word (s : Sign) (e : BitVec 11) (m : BitVec 52) : BitVec Format.binary64.numBits :=
  packComponents Format.binary64 s e m

/-- What a word stands for. -/
abbrev read (b : BitVec Format.binary64.numBits) : UnpackedFloat :=
  unpack Format.binary64 b

/-- The word for a number that is rounded. -/
abbrev write (x : UnpackedFloat) : BitVec Format.binary64.numBits :=
  pack Format.binary64 x

/-! ### Fields -/

theorem ofBitVec_toBitVec (s : Sign) : Sign.ofBitVec s.toBitVec = s := by
  cases s <;> rfl

theorem unpackSign_word {s : Sign} {e : BitVec 11} {m : BitVec 52} :
    unpackSign (word s e m) = s.toBitVec := by
  refine BitVec.eq_of_getLsbD_eq fun i hi => ?_
  obtain rfl : i = 0 := by omega
  simp only [word, unpackSign, packComponents, BitVec.getLsbD_append, BitVec.getLsbD_cast,
    BitVec.getLsbD_extractLsb]
  simp

/-- A word is made of its fields. -/
theorem exists_word (b : BitVec 64) :
    ∃ s e m, b = word s e m := by
  refine ⟨Sign.ofBitVec (@unpackSign Format.binary64 b), @unpackExponent Format.binary64 b,
    @unpackMantissa Format.binary64 b, ?_⟩
  have hsign : ∀ v : BitVec 1, (Sign.ofBitVec v).toBitVec = v := by decide
  simp only [word, packComponents, hsign, unpackSign, unpackExponent, unpackMantissa,
    BitVec.extractLsb]
  refine BitVec.eq_of_getLsbD_eq fun i hi => ?_
  simp only [BitVec.getLsbD_append, BitVec.getLsbD_cast, BitVec.getLsbD_extractLsb']
  by_cases h₁ : i < 52
  · simp [h₁]
  · by_cases h₂ : i - 52 < 11
    · have hi : 52 + (i - 52) = i := by omega
      simp [h₁, h₂, hi]
    · obtain rfl : i = 63 := by omega
      simp
      rfl

/-- What the word with these fields stands for. -/
theorem read_word (s : Sign) (e : BitVec 11) (m : BitVec 52) :
    read (word s e m) =
      if e = -1#11 then if m = 0#52 then .infinity s else .notANumber
      else if e = 0#11 then
        if h : m = 0#52 then .zero s
        else .finite s m.toNat (-1074) (by
          simpa [BitVec.toNat_pos, BitVec.pos_iff_ne_zero] using h)
      else .finite s (2 ^ 52 + m.toNat) (e.toNat - 1075) (by omega) := by
  unfold read unpack
  simp only [unpackSign_word, unpackExponent_packComponents,
    unpackMantissa_packComponents, ofBitVec_toBitVec]
  have hone : (1#1 ++ m).toNat = 2 ^ 52 + m.toNat := by
    rw [BitVec.toNat_append, ← Nat.shiftLeft_add_eq_or_of_lt m.isLt]
    rfl
  have hbias : (Format.binary64.exponentBias : Int) + Format.binary64.mantissaBitsWithoutImplicit =
      1075 := by decide
  split
  · rfl
  · split
    · rename_i he
      split
      · rfl
      · simp only [hbias, he]
        rfl
    · simp only [hbias, hone]

/-- What a word stands for is written as this word, unless it is no number. -/
theorem write_read {s : Sign} {e : BitVec 11} {m : BitVec 52}
    (h : (read (word s e m)).isNaN = false) : write (read (word s e m)) = word s e m := by
  rw [read_word] at h ⊢
  split
  · rename_i he
    rw [if_pos he] at h
    by_cases hm : m = 0#52
    · rw [if_pos hm, he, hm]
      rfl
    · rw [if_neg hm] at h
      exact nomatch h
  · split
    · rename_i he
      split
      · rename_i hm
        rw [he, hm]
        rfl
      · rename_i hm
        have hpos : m.toNat ≠ 0 := fun hzero => hm (BitVec.eq_of_toNat_eq hzero)
        have hlog : m.toNat.log2 < 52 := (Nat.log2_lt hpos).mpr m.isLt
        have hbits : Format.binary64.mantissaBits = 53 := rfl
        unfold write pack
        dsimp only
        rw [if_neg (by decide), if_neg (by omega), he, BitVec.ofNat_toNat, BitVec.setWidth_eq]
    · rename_i hnot hne
      have hvalue : e.toNat ≠ 2047 := fun hall => hnot (BitVec.eq_of_toNat_eq hall)
      have hexponent : ((e.toNat : Int) - 1075 + Format.binary64.exponentBias + (52 : Nat)).toNat =
          e.toNat := by
        have hbias : Format.binary64.exponentBias = 1023 := rfl
        rw [hbias]
        omega
      have hlog : (2 ^ 52 + m.toNat).log2 + 1 = Format.binary64.mantissaBits := by
        have hupper : (2 ^ 52 + m.toNat).log2 < 53 := (Nat.log2_lt (by omega)).mpr (by omega)
        have hlower : 52 ≤ (2 ^ 52 + m.toNat).log2 := (Nat.le_log2 (by omega)).mpr (by omega)
        have hbits : Format.binary64.mantissaBits = 53 := rfl
        omega
      have hmantissa : BitVec.ofNat 52 (2 ^ 52 + m.toNat) = m := by
        refine BitVec.eq_of_toNat_eq ?_
        rw [BitVec.toNat_ofNat]
        omega
      unfold write pack
      dsimp only
      rw [hexponent, if_neg (by omega), if_pos hlog, hmantissa, BitVec.ofNat_toNat,
        BitVec.setWidth_eq]

/-! ### Order -/

/-- Comparing the other way round gives the opposite answer. -/
theorem compare_swap (x y : UnpackedFloat) : y.compare x = (x.compare y).map Ordering.swap := by
  have hsigns : ∀ s t : Sign, compare t s = (compare s t).swap := by
    intro s t
    cases s <;> cases t <;> rfl
  have hparts : ∀ (d e : Int) (m n : Nat),
      (compare e d).then (compare n m) = ((compare d e).then (compare m n)).swap := by
    intro d e m n
    rw [Ordering.swap_then, Int.compare_swap, Nat.compare_swap]
  cases x with
  | notANumber => cases y <;> rfl
  | infinity s =>
    cases y with
    | infinity t => exact congrArg some (hsigns s t)
    | notANumber => rfl
    | zero t => cases s <;> rfl
    | finite t n e hn => cases s <;> cases t <;> rfl
  | zero s =>
    cases y with
    | infinity t => cases t <;> rfl
    | notANumber => rfl
    | zero t => rfl
    | finite t n e hn => cases t <;> rfl
  | finite s m d hm =>
    cases y with
    | infinity t => cases s <;> cases t <;> rfl
    | notANumber => rfl
    | zero t => cases s <;> rfl
    | finite t n e hn =>
      cases s <;> cases t
      · exact congrArg (fun o => some (Ordering.swap o)) (hparts d e m n)
      · rfl
      · rfl
      · exact congrArg some (hparts d e m n)

/-- Two numbers can be compared. -/
theorem compare_isSome {x y : UnpackedFloat} (hx : x.isNaN = false) (hy : y.isNaN = false) :
    ∃ o, x.compare y = some o := by
  cases x with
  | notANumber => exact nomatch hx
  | infinity s =>
    cases y with
    | notANumber => exact nomatch hy
    | zero t => cases s <;> exact ⟨_, rfl⟩
    | infinity t => exact ⟨_, rfl⟩
    | finite t => cases s <;> exact ⟨_, rfl⟩
  | zero s =>
    cases y with
    | notANumber => exact nomatch hy
    | zero t => exact ⟨_, rfl⟩
    | infinity t => cases t <;> exact ⟨_, rfl⟩
    | finite t => cases t <;> exact ⟨_, rfl⟩
  | finite s =>
    cases y with
    | notANumber => exact nomatch hy
    | zero t => cases s <;> exact ⟨_, rfl⟩
    | infinity t => cases s <;> cases t <;> exact ⟨_, rfl⟩
    | finite t => cases s <;> cases t <;> exact ⟨_, rfl⟩

theorem le_of_not_lt {x y : UnpackedFloat} (hx : x.isNaN = false) (hy : y.isNaN = false)
    (h : y.lt x = false) : x.le y = true := by
  obtain ⟨o, ho⟩ := compare_isSome hx hy
  unfold UnpackedFloat.lt at h
  rw [compare_swap, ho] at h
  rw [UnpackedFloat.le, ho]
  cases o <;> first | rfl | exact nomatch h

/-! ### Amounts -/

/-- Neither NaN nor below zero. -/
def Amount : UnpackedFloat → Prop
  | .infinity .positive | .zero _ | .finite .positive .. => True
  | _ => False

theorem amount_iff {x : UnpackedFloat} :
    Amount x ↔ x.isNaN = false ∧ x.lt (.zero .positive) = false := by
  cases x with
  | notANumber => exact ⟨False.elim, fun h => nomatch h.1⟩
  | zero s => exact ⟨fun _ => ⟨rfl, rfl⟩, fun _ => trivial⟩
  | infinity s =>
    cases s with
    | positive => exact ⟨fun _ => ⟨rfl, rfl⟩, fun _ => trivial⟩
    | negative => exact ⟨False.elim, fun h => nomatch h.2⟩
  | finite s =>
    cases s with
    | positive => exact ⟨fun _ => ⟨rfl, rfl⟩, fun _ => trivial⟩
    | negative => exact ⟨False.elim, fun h => nomatch h.2⟩

/-- A word with a positive sign is an amount, unless it is no number. -/
theorem amount_read {e : BitVec 11} {m : BitVec 52} (h : e = -1#11 → m = 0#52) :
    Amount (read (word .positive e m)) := by
  rw [read_word]
  split
  · rename_i he
    rw [if_pos (h he)]
    trivial
  · split
    · split
      · trivial
      · trivial
    · trivial

/-- Writing an amount loses digits, but it stays an amount. -/
theorem amount_read_write {x : UnpackedFloat} (h : Amount x) : Amount (read (write x)) := by
  cases x with
  | notANumber => exact h.elim
  | zero s =>
    show Amount (read (word s 0#11 0#52))
    rw [read_word, if_neg (by decide), if_pos rfl, dif_pos rfl]
    trivial
  | infinity s =>
    cases s with
    | negative => exact h.elim
    | positive => exact amount_read fun _ => rfl
  | finite s m e hm =>
    cases s with
    | negative => exact h.elim
    | positive =>
      unfold write pack
      dsimp only
      split
      · exact amount_read fun _ => rfl
      · rename_i hfits
        split
        · refine amount_read fun he => ?_
          have hvalue := congrArg BitVec.toNat he
          rw [BitVec.toNat_ofNat] at hvalue
          have hall : (-1#11 : BitVec 11).toNat = 2047 := by decide
          rw [hall] at hvalue
          omega
        · refine amount_read fun he => ?_
          exact absurd he (by decide)

theorem amount_round (m : Nat) (e : Int) :
    Amount (UnpackedFloat.round Format.binary64 .positive m e) := by
  unfold UnpackedFloat.round roundWithAccuracy
  dsimp only
  split
  · trivial
  · trivial

/-- A sum of amounts is an amount. -/
theorem amount_add {x y : UnpackedFloat} (hx : Amount x) (hy : Amount y) :
    Amount (UnpackedFloat.add Format.binary64 x y) := by
  cases x with
  | notANumber => exact hx.elim
  | infinity s =>
    cases s with
    | negative => exact hx.elim
    | positive =>
      cases y with
      | notANumber => exact hy.elim
      | infinity t =>
        cases t with
        | negative => exact hy.elim
        | positive => trivial
      | zero => trivial
      | finite => trivial
  | zero s =>
    cases y with
    | notANumber => exact hy.elim
    | infinity t => exact hy
    | zero t => cases s <;> cases t <;> trivial
    | finite => exact hy
  | finite s m d hm =>
    cases s with
    | negative => exact hx.elim
    | positive =>
      cases y with
      | notANumber => exact hy.elim
      | infinity t => exact hy
      | zero t => trivial
      | finite t n e hn =>
        cases t with
        | negative => exact hy.elim
        | positive =>
          unfold UnpackedFloat.add UnpackedFloat.normalize
          dsimp only
          split
          · rename_i hneg
            have hbelow := Int.compare_eq_lt.mp hneg
            simp only [Sign.apply] at hbelow
            omega
          · trivial
          · exact amount_round _ _

end Word

/-! ## Numbers of the program -/

namespace Word

open Float.Model (UnpackedFloat)
open Float.Model.UnpackedFloat

/-- What a number of the program stands for. -/
def value (x : Float) : UnpackedFloat :=
  read x.toModel.toBits.toBitVec

theorem lt_eq (x y : Float) : Scalar.lt x y = (value x).lt (value y) := by
  have hlt : x < y ↔ (value x).lt (value y) = true := by
    show decide (x.toModel < y.toModel) = true ↔ _
    rw [decide_eq_true_iff]
    exact Iff.rfl
  show decide (x < y) = _
  rw [Bool.eq_iff_iff, decide_eq_true_iff, hlt]

theorem le_eq (x y : Float) : Scalar.le x y = (value x).le (value y) := by
  have hle : x ≤ y ↔ (value x).le (value y) = true := by
    show decide (x.toModel ≤ y.toModel) = true ↔ _
    rw [decide_eq_true_iff]
    exact Iff.rfl
  show decide (x ≤ y) = _
  rw [Bool.eq_iff_iff, decide_eq_true_iff, hle]

theorem value_zero : value Scalar.zero = .zero .positive := by rfl

theorem value_emptySum : value Scalar.emptySum = .zero .negative := by rfl

theorem value_add (x y : Float) :
    value (x + y) = read (write (add Float.Model.Format.binary64 (value x) (value y))) :=
  rfl

theorem isAmount_iff {x : Float} : IsAmount x ↔ Amount (value x) := by
  rw [amount_iff, ← value_zero]
  constructor
  · intro h
    exact ⟨h.isNumber, (lt_eq x Scalar.zero).symm.trans h.notBelow⟩
  · intro h
    obtain ⟨hnumber, hbelow⟩ := h
    exact ⟨hnumber, (lt_eq x Scalar.zero).trans hbelow⟩

/-- A number above zero is finite with a positive sign, or infinite. -/
theorem amount_of_above {x : UnpackedFloat} (h : UnpackedFloat.lt (.zero .positive) x = true) :
    Amount x ∧ add Float.Model.Format.binary64 (.zero .positive) x = x := by
  cases x with
  | notANumber => exact nomatch h
  | zero s => exact nomatch h
  | infinity s =>
    cases s with
    | negative => exact nomatch h
    | positive => exact ⟨trivial, rfl⟩
  | finite s =>
    cases s with
    | negative => exact nomatch h
    | positive => exact ⟨trivial, rfl⟩

/-- Numbers that are kept as the same word are the same. -/
theorem eq_of_word_eq {x y : Float} (h : x.toModel.toBits.toBitVec = y.toModel.toBits.toBitVec) :
    x = y := by
  obtain ⟨⟨⟨b⟩, hb⟩⟩ := x
  obtain ⟨⟨⟨c⟩, hc⟩⟩ := y
  obtain rfl : b = c := h
  rfl

/-- A number is the word that its value is written as. -/
theorem write_value {x : Float} (h : (value x).isNaN = false) :
    write (value x) = x.toModel.toBits.toBitVec := by
  obtain ⟨s, e, m, hword⟩ := exists_word x.toModel.toBits.toBitVec
  unfold value at h ⊢
  rw [hword] at h ⊢
  exact write_read h

end Word

instance : LawfulScalar Float where
  le_of_not_lt x y hx hy h := by
    rw [Word.lt_eq] at h
    rw [Word.le_eq]
    exact Word.le_of_not_lt hx hy h
  zero_add x h := by
    rw [Word.lt_eq, Word.value_zero] at h
    obtain ⟨hamount, hadd⟩ := Word.amount_of_above h
    refine Word.eq_of_word_eq ?_
    calc (Scalar.zero + x).toModel.toBits.toBitVec
        = Word.write (Float.Model.UnpackedFloat.add _ (Word.value Scalar.zero) (Word.value x)) :=
          rfl
      _ = Word.write (Word.value x) := by rw [Word.value_zero, hadd]
      _ = x.toModel.toBits.toBitVec := Word.write_value (Word.amount_iff.mp hamount).1
  isAmount_of_positive x h := by
    rw [Word.lt_eq, Word.value_zero] at h
    exact Word.isAmount_iff.mpr (Word.amount_of_above h).1
  isAmount_emptySum := by
    rw [Word.isAmount_iff, Word.value_emptySum]
    trivial
  isAmount_add x y hx hy := by
    rw [Word.isAmount_iff] at hx hy ⊢
    rw [Word.value_add]
    exact Word.amount_read_write (Word.amount_add hx hy)

end PrintFarm
