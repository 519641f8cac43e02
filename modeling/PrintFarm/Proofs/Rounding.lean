import PrintFarm.Proofs.Arithmetic

/-!
# Laws of rounded arithmetic

What is finite stays finite where no more is taken away than is there, and what is above zero stays
above zero where something above zero is added.  `StockScalar` states these laws beside those of
`LawfulScalar`, and they hold for exact numbers and for the numbers the program computes with.

For the latter the laws are about rounding.

* A number that is read has a mantissa of at most 53 bits, and all 53 unless its exponent is the
  least one (`Word.Canonical`, `Word.canonical_read`).
* Rounding never makes zero of a number that is not zero (`Word.round_eq`), and what is less than a
  number is rounded to one that fits into the same exponent (`Word.round_lt`).
* A number with such a mantissa and exponent is written as it is (`Word.read_write`).
-/

namespace PrintFarm

open Scalar (IsAmount)

/-- What the rules about stocks need of the numbers that are computed with. -/
class StockScalar (α : Type) [Scalar α] : Prop extends LawfulScalar α where
  isNaN_of_isFinite (x : α) : Scalar.isFinite x = true → Scalar.isNaN x = false
  isFinite_sub (x y : α) : Scalar.isFinite x = true → IsAmount x → IsAmount y →
    Scalar.lt x y = false → Scalar.isFinite (x - y) = true ∧ IsAmount (x - y)
  positive_add (x y : α) : Scalar.lt Scalar.zero x = true → Scalar.lt Scalar.zero y = true →
    Scalar.lt Scalar.zero (x + y) = true
  isAmount_zero : IsAmount (Scalar.zero : α)
  isAmount_hours (seconds : Nat) :
    IsAmount ((Scalar.ofInt seconds : α) / Scalar.ofInt 3600)

/-! ## Exact numbers -/

instance : StockScalar Rat where
  isNaN_of_isFinite _ _ := rfl
  isFinite_sub x y _ _ _ h := by
    have hle : y ≤ x := Rat.not_lt.mp (of_decide_eq_false h)
    have hleft : (0 : Rat) ≤ x - y := by grind
    exact ⟨rfl, rfl, decide_eq_false (Rat.not_lt.mpr hleft)⟩
  positive_add x y hx hy := by
    have hx : (0 : Rat) < x := of_decide_eq_true hx
    have hy : (0 : Rat) < y := of_decide_eq_true hy
    have hsum : (0 : Rat) < x + y := by grind
    exact decide_eq_true hsum
  isAmount_zero := ⟨rfl, by decide⟩
  isAmount_hours seconds := by
    have hseconds : (0 : Rat) ≤ (seconds : Rat) := Rat.natCast_nonneg
    have hhours : (0 : Rat) ≤ (seconds : Rat) / 3600 := by grind
    exact ⟨rfl, decide_eq_false (Rat.not_lt.mpr hhours)⟩

/-! ## Rounding -/

namespace Word

open Float.Model (UnpackedFloat Format totalExponent)
open Float.Model.UnpackedFloat

/-- The mantissa has at most 53 bits, and it has all of them unless the exponent is the least
one. -/
structure Canonical (m : Nat) (e : Int) : Prop where
  mantissa : m < 2 ^ 53
  least : -1074 ≤ e
  greatest : e ≤ 971
  full : -1074 < e → 2 ^ 52 ≤ m

theorem canonical_read {b : BitVec 64} {s : Sign} {m : Nat} {e : Int} {hm : 0 < m}
    (h : read b = .finite s m e hm) : Canonical m e := by
  obtain ⟨s', e', m', rfl⟩ := exists_word b
  rw [read_word] at h
  have hm' : m'.toNat < 2 ^ 52 := m'.isLt
  have he' : e'.toNat < 2048 := e'.isLt
  split at h
  · split at h <;> exact nomatch h
  · rename_i hall
    have hall : e'.toNat ≠ 2047 := fun heq => hall (BitVec.eq_of_toNat_eq heq)
    split at h
    · split at h
      · exact nomatch h
      · obtain ⟨rfl, rfl, rfl⟩ := UnpackedFloat.finite.inj h
        exact ⟨by omega, by omega, by omega, fun hlt => absurd hlt (by decide)⟩
    · rename_i hzero
      have hzero : e'.toNat ≠ 0 := fun heq => hzero (BitVec.eq_of_toNat_eq heq)
      obtain ⟨rfl, rfl, rfl⟩ := UnpackedFloat.finite.inj h
      exact ⟨by omega, by omega, by omega, fun _ => by omega⟩

theorem targetExponent_eq (t : Int) : Format.binary64.targetExponent t = max (t - 53) (-1074) := by
  simp only [Format.targetExponent]
  rfl

theorem mantissa_shiftRight (em : ExtendedMantissa) (k : Nat) :
    (em >>> k).mantissa = em.mantissa / 2 ^ k := by
  induction k with
  | zero => simp [HShiftRight.hShiftRight, Nat.repeat]
  | succ k ih =>
    show (ExtendedMantissa.shiftRightOne (em >>> k)).mantissa = _
    simp only [ExtendedMantissa.shiftRightOne, ih, Nat.div_div_eq_div_mul, Nat.pow_succ]

/-- Rounding goes up by one at most. -/
theorem roundedMantissa_bounds (em : ExtendedMantissa) :
    em.mantissa ≤ em.roundedMantissa ∧ em.roundedMantissa ≤ em.mantissa + 1 := by
  unfold ExtendedMantissa.roundedMantissa
  cases em.accuracy with
  | exact => simp [Accuracy.roundToNearestEven]
  | inexact o =>
    cases o <;> simp [Accuracy.roundToNearestEven]
    -- what is left is the tie
    omega

/-- Shifting to the target exponent leaves at least one bit of the mantissa, and at most 53. -/
theorem shifted_bounds {m : Nat} (hm : 0 < m) {e : Int} (he : -1074 ≤ e) :
    0 < m / 2 ^ (Format.binary64.targetExponent (totalExponent m e) - e).toNat ∧
      m / 2 ^ (Format.binary64.targetExponent (totalExponent m e) - e).toNat < 2 ^ 53 := by
  rw [targetExponent_eq]
  unfold totalExponent
  have hlower : 2 ^ m.log2 ≤ m := Nat.log2_self_le (by omega)
  have hupper : m < 2 ^ (m.log2 + 1) := Nat.lt_log2_self
  by_cases hlong : 52 ≤ m.log2
  · have hshift : (max ((m.log2 : Int) + 1 + e - 53) (-1074) - e).toNat = m.log2 - 52 := by omega
    have hlog : 2 ^ m.log2 = 2 ^ 52 * 2 ^ (m.log2 - 52) := by
      rw [← Nat.pow_add, Nat.add_sub_cancel' hlong]
    rw [hshift]
    constructor
    · refine Nat.div_pos ?_ (Nat.two_pow_pos _)
      calc 2 ^ (m.log2 - 52) ≤ 2 ^ m.log2 := Nat.pow_le_pow_right (by decide) (Nat.sub_le ..)
        _ ≤ m := hlower
    · rw [Nat.div_lt_iff_lt_mul (Nat.two_pow_pos _)]
      rw [Nat.pow_succ] at hupper
      omega
  · have hshift : (max ((m.log2 : Int) + 1 + e - 53) (-1074) - e).toNat = 0 := by omega
    rw [hshift, Nat.pow_zero, Nat.div_one]
    refine ⟨hm, ?_⟩
    calc m < 2 ^ (m.log2 + 1) := hupper
      _ ≤ 2 ^ 53 := Nat.pow_le_pow_right (by decide) (by omega)

/-- A number that is not zero is rounded to one that is not zero.  Its exponent is the target
exponent or, where the mantissa is rounded up to 54 bits, the next one. -/
theorem roundWithAccuracy_eq (s : Sign) {m : Nat} (hm : 0 < m) {e : Int} (he : -1074 ≤ e)
    (accuracy : Accuracy) {target : Int}
    (htarget : Format.binary64.targetExponent (totalExponent m e) = target) :
    ∃ f g h, roundWithAccuracy Format.binary64 s m e accuracy = .finite s f g h ∧
      f < 2 ^ 53 ∧ -1074 ≤ g ∧ g ≤ max e target + 1 ∧
      (m / 2 ^ (target - e).toNat + 1 < 2 ^ 53 → g ≤ max e target) := by
  obtain ⟨hpositive, hbits⟩ := shifted_bounds hm he
  unfold roundWithAccuracy shiftToTargetExponent shiftToExponent
  dsimp only
  rw [htarget] at hpositive hbits ⊢
  generalize hround : (ExtendedMantissa.ofMantissaAndAccuracy m accuracy >>>
    (target - e).toNat).roundedMantissa = r
  have hmantissa : (ExtendedMantissa.ofMantissaAndAccuracy m accuracy).mantissa = m := by
    cases accuracy with
    | exact => rfl
    | inexact o => cases o <;> rfl
  have hr := roundedMantissa_bounds
    (ExtendedMantissa.ofMantissaAndAccuracy m accuracy >>> (target - e).toNat)
  rw [hround, mantissa_shiftRight, hmantissa] at hr
  have hnext : -1074 ≤ e + ((target - e).toNat : Int) := by omega
  have hlong : 0 < r ∧ r.log2 < 54 := by
    have hpos : 0 < r := by omega
    exact ⟨hpos, (Nat.log2_lt (Nat.ne_of_gt hpos)).mpr (by omega)⟩
  have hshort : r < 2 ^ 53 → r.log2 < 53 := (Nat.log2_lt (Nat.ne_of_gt hlong.1)).mpr
  have hagain := shifted_bounds hlong.1 hnext
  rw [targetExponent_eq] at hagain
  unfold totalExponent at hagain
  have hexact : (ExtendedMantissa.ofMantissaAndAccuracy r .exact).mantissa = r := rfl
  simp only [mantissa_shiftRight, hexact, targetExponent_eq, totalExponent]
  rw [dif_neg (Nat.ne_of_gt hagain.1)]
  refine ⟨_, _, hagain.1, rfl, hagain.2, by omega, by omega, fun hq => ?_⟩
  have hr53 := hshort (by omega)
  omega

theorem totalExponent_mul_two_pow {m : Nat} (hm : 0 < m) (e : Int) (j : Nat) :
    totalExponent (m * 2 ^ j) (e - j) = totalExponent m e := by
  have hlog : (m * 2 ^ j).log2 = m.log2 + j := by
    have hpos : 0 < m * 2 ^ j := Nat.mul_pos hm (Nat.two_pow_pos _)
    obtain ⟨hlower, hupper⟩ := (Nat.log2_eq_iff (Nat.ne_of_gt hm)).mp rfl
    refine (Nat.log2_eq_iff (Nat.ne_of_gt hpos)).mpr ⟨?_, ?_⟩
    · rw [Nat.pow_add]
      exact Nat.mul_le_mul_right _ hlower
    · rw [Nat.add_right_comm, Nat.pow_add]
      exact Nat.mul_lt_mul_of_pos_right hupper (Nat.two_pow_pos _)
  unfold totalExponent
  rw [hlog]
  omega

/-- Rounding first makes the mantissa long enough for the target exponent. -/
theorem round_eq (s : Sign) {m : Nat} (hm : 0 < m) {e : Int} (he : -1074 ≤ e) :
    ∃ j : Nat, -1074 ≤ e - j ∧ 0 < m * 2 ^ j ∧
      e - j ≤ Format.binary64.targetExponent (totalExponent (m * 2 ^ j) (e - j)) ∧
      UnpackedFloat.round Format.binary64 s m e =
        roundWithAccuracy Format.binary64 s (m * 2 ^ j) (e - j) .exact := by
  refine ⟨(e - Format.binary64.targetExponent (totalExponent m e)).toNat, ?_, ?_, ?_, ?_⟩
  · rw [targetExponent_eq]
    omega
  · exact Nat.mul_pos hm (Nat.two_pow_pos _)
  · rw [totalExponent_mul_two_pow hm]
    omega
  · rw [← Nat.shiftLeft_eq]
    rfl

/-- What is less than a number is rounded to a number whose exponent can be written. -/
theorem round_lt {m₀ : Nat} {e₀ : Int} (hcanonical : Canonical m₀ e₀) (s : Sign) {m k : Nat}
    (hm : 0 < m) (hlt : m < m₀ * 2 ^ k) (hleast : -1074 ≤ e₀ - k) :
    ∃ f g h, UnpackedFloat.round Format.binary64 s m (e₀ - k) = .finite s f g h ∧
      f < 2 ^ 53 ∧ -1074 ≤ g ∧ g ≤ 971 := by
  obtain ⟨j, hleast, hpos, htarget, heq⟩ := round_eq s hm hleast
  have hlt : m * 2 ^ j < m₀ * 2 ^ (k + j) := by
    rw [Nat.pow_add, ← Nat.mul_assoc]
    exact Nat.mul_lt_mul_of_pos_right hlt (Nat.two_pow_pos _)
  obtain ⟨f, g, h, hround, hf, hg, hupper, hshort⟩ :=
    roundWithAccuracy_eq s hpos hleast .exact rfl
  refine ⟨f, g, h, heq.trans hround, hf, hg, ?_⟩
  have hbits : (m * 2 ^ j).log2 < 53 + (k + j) := by
    refine (Nat.log2_lt (Nat.ne_of_gt hpos)).mpr (Nat.lt_trans hlt ?_)
    rw [Nat.pow_add 2 53]
    exact Nat.mul_lt_mul_of_pos_right hcanonical.mantissa (Nat.two_pow_pos _)
  have hexponent := hcanonical.greatest
  rw [targetExponent_eq] at htarget hupper hshort
  unfold totalExponent at htarget hupper hshort
  by_cases hlast : e₀ = 971 ∧ (m * 2 ^ j).log2 = 52 + (k + j)
  · -- at the last exponent the quotient is less than the mantissa of the greater number
    have hshift : (max (((m * 2 ^ j).log2 : Int) + 1 + (e₀ - k - j) - 53) (-1074) -
        (e₀ - k - j)).toNat = k + j := by omega
    have hquotient : m * 2 ^ j / 2 ^ (k + j) < m₀ :=
      (Nat.div_lt_iff_lt_mul (Nat.two_pow_pos _)).mpr hlt
    have hmantissa := hcanonical.mantissa
    have hg := hshort (by rw [hshift]; omega)
    omega
  · omega

/-- A number with such a mantissa and exponent is written as a number other than zero, and as a
finite one unless its exponent is too high. -/
theorem read_write (s : Sign) {f : Nat} {g : Int} (hpos : 0 < f) (hf : f < 2 ^ 53)
    (hg : -1074 ≤ g) :
    (∃ m e h, read (write (.finite s f g hpos)) = .finite s m e h) ∨
      971 < g ∧ read (write (.finite s f g hpos)) = .infinity s := by
  have hbias : Format.binary64.exponentBias = 1023 := rfl
  unfold write pack
  dsimp only
  rw [hbias]
  split
  · refine Or.inr ⟨by omega, ?_⟩
    exact (read_word s (-1#11) 0#52).trans rfl
  · rename_i hfits
    have hfits : (g + 1023 + 52).toNat + 1 < 2048 := Nat.lt_of_not_le hfits
    refine Or.inl ?_
    split
    · have hvalue : (BitVec.ofNat 11 (g + 1023 + 52).toNat).toNat = (g + 1023 + 52).toNat := by
        rw [BitVec.toNat_ofNat]
        omega
      have hall : BitVec.ofNat 11 (g + 1023 + 52).toNat ≠ -1#11 := by
        intro heq
        rw [heq] at hvalue
        have hlast : (-1#11 : BitVec 11).toNat = 2047 := by decide
        omega
      have hnone : BitVec.ofNat 11 (g + 1023 + 52).toNat ≠ 0#11 := by
        intro heq
        rw [heq] at hvalue
        have hfirst : (0#11 : BitVec 11).toNat = 0 := rfl
        omega
      have hread := read_word s (BitVec.ofNat 11 (g + 1023 + 52).toNat) (BitVec.ofNat 52 f)
      rw [if_neg hall, if_neg hnone] at hread
      exact ⟨_, _, by omega, hread⟩
    · rename_i hlog
      have hbits : Format.binary64.mantissaBits = 53 := rfl
      have hlog : f.log2 < 52 := by
        have := (Nat.log2_lt (Nat.ne_of_gt hpos)).mpr hf
        omega
      have hshort : f < 2 ^ 52 := (Nat.log2_lt (Nat.ne_of_gt hpos)).mp hlog
      have hne : BitVec.ofNat 52 f ≠ 0#52 := by
        intro heq
        have := congrArg BitVec.toNat heq
        rw [BitVec.toNat_ofNat, Nat.mod_eq_of_lt hshort] at this
        exact (Nat.ne_of_gt hpos) this
      have hread := read_word s 0#11 (BitVec.ofNat 52 f)
      rw [if_neg (by decide), if_pos rfl, dif_neg hne] at hread
      exact ⟨_, _, Nat.pos_of_ne_zero fun hzero => hne (BitVec.eq_of_toNat_eq hzero), hread⟩

/-! ## Operations on words -/

/-- The words of positive numbers. -/
def Positive : UnpackedFloat → Prop
  | .infinity .positive | .finite .positive .. => True
  | _ => False

theorem positive_iff {x : UnpackedFloat} :
    Positive x ↔ UnpackedFloat.lt (.zero .positive) x = true := by
  cases x with
  | notANumber => exact ⟨False.elim, (nomatch ·)⟩
  | zero s => exact ⟨False.elim, (nomatch ·)⟩
  | infinity s =>
    cases s with
    | positive => exact ⟨fun _ => rfl, fun _ => trivial⟩
    | negative => exact ⟨False.elim, (nomatch ·)⟩
  | finite s =>
    cases s with
    | positive => exact ⟨fun _ => rfl, fun _ => trivial⟩
    | negative => exact ⟨False.elim, (nomatch ·)⟩

/-- A positive number is written as a positive one after it was rounded. -/
theorem positive_write_round {m : Nat} (hm : 0 < m) {e : Int} (he : -1074 ≤ e) :
    Positive (read (write (UnpackedFloat.round Format.binary64 .positive m e))) := by
  obtain ⟨j, hleast, hpos, -, heq⟩ := round_eq .positive hm he
  obtain ⟨f, g, h, hround, hf, hg, -⟩ := roundWithAccuracy_eq .positive hpos hleast .exact rfl
  rw [heq, hround]
  rcases read_write .positive h hf hg with ⟨_, _, _, hread⟩ | ⟨-, hread⟩
  · rw [hread]
    trivial
  · rw [hread]
    trivial

theorem exists_of_positive {x : UnpackedFloat} (h : Positive x) :
    x = .infinity .positive ∨ ∃ m e hm, x = .finite .positive m e hm := by
  cases x with
  | notANumber => exact h.elim
  | zero s => exact h.elim
  | infinity s =>
    cases s with
    | negative => exact h.elim
    | positive => exact Or.inl rfl
  | finite s m e hm =>
    cases s with
    | negative => exact h.elim
    | positive => exact Or.inr ⟨m, e, hm, rfl⟩

theorem normalize_of_pos {m : Int} (hm : 0 < m) (e : Int) (s : Sign) :
    UnpackedFloat.normalize Format.binary64 m e s =
      UnpackedFloat.round Format.binary64 .positive m.toNat e := by
  unfold UnpackedFloat.normalize
  rw [Int.compare_eq_gt.mpr hm]

/-- The sum of two positive words is positive. -/
theorem positive_add {b c : BitVec 64} (hb : Positive (read b)) (hc : Positive (read c)) :
    Positive (read (write (UnpackedFloat.add Format.binary64 (read b) (read c)))) := by
  have hinfinity : Positive (read (write (.infinity .positive))) := by
    show Positive (read (word .positive (-1#11) 0#52))
    rw [read_word]
    trivial
  rcases exists_of_positive hb with hb | ⟨m, d, hm, hb⟩
  · rcases exists_of_positive hc with hc | ⟨n, e, hn, hc⟩
    · rw [hb, hc]
      exact hinfinity
    · rw [hb, hc]
      exact hinfinity
  · rcases exists_of_positive hc with hc | ⟨n, e, hn, hc⟩
    · rw [hb, hc]
      exact hinfinity
    · have hd := (canonical_read hb).least
      have he := (canonical_read hc).least
      rw [hb, hc]
      unfold UnpackedFloat.add decreaseExponent
      dsimp only [Sign.apply]
      have hleft : 0 < m <<< (d - min d e).toNat := by
        rw [Nat.shiftLeft_eq]
        exact Nat.mul_pos hm (Nat.two_pow_pos _)
      have hright : 0 < n <<< (e - min d e).toNat := by
        rw [Nat.shiftLeft_eq]
        exact Nat.mul_pos hn (Nat.two_pow_pos _)
      rw [normalize_of_pos (by omega)]
      exact positive_write_round (by omega) (by omega)

/-- Finite, not NaN and not below zero. -/
def FiniteAmount (x : UnpackedFloat) : Prop :=
  x.isFinite = true ∧ Amount x

theorem finiteAmount_write_zero (s : Sign) : FiniteAmount (read (write (.zero s))) := by
  show FiniteAmount (read (word s 0#11 0#52))
  rw [read_word, if_neg (by decide), if_pos rfl, dif_pos rfl]
  exact ⟨rfl, trivial⟩

theorem finiteAmount_write_read {b : BitVec 64} (h : FiniteAmount (read b)) :
    FiniteAmount (read (write (read b))) := by
  obtain ⟨s, e, m, rfl⟩ := exists_word b
  rw [write_read (amount_iff.mp h.2).1]
  exact h

/-- A mantissa that is full has more bits than any mantissa at a lower exponent. -/
theorem mantissa_le_of_not_lt {m n : Nat} {d e : Int} {hm : 0 < m} {hn : 0 < n}
    (hleft : Canonical m d) (hright : Canonical n e)
    (h : UnpackedFloat.lt (.finite .positive m d hm) (.finite .positive n e hn) = false) :
    e ≤ d ∧ n ≤ m * 2 ^ (d - e).toNat := by
  have hcompare : (compare d e).then (compare m n) ≠ .lt := by
    intro heq
    have hlt : UnpackedFloat.lt (.finite .positive m d hm) (.finite .positive n e hn) = true := by
      show (some ((compare d e).then (compare m n)) == some .lt) = true
      rw [heq]
      rfl
    rw [h] at hlt
    exact nomatch hlt
  rcases Int.lt_trichotomy d e with hlt | rfl | hgt
  · rw [Int.compare_eq_lt.mpr hlt] at hcompare
    exact absurd rfl hcompare
  · rw [Int.compare_eq_eq.mpr rfl] at hcompare
    refine ⟨Int.le_refl d, ?_⟩
    have hle : n ≤ m := Nat.le_of_not_lt fun hlt => hcompare (Nat.compare_eq_lt.mpr hlt)
    rw [Int.sub_self]
    exact Nat.le_trans hle (Nat.le_of_eq (Nat.mul_one m).symm)
  · refine ⟨Int.le_of_lt hgt, ?_⟩
    have hfull : 2 ^ 52 ≤ m := hleft.full (by have := hright.least; omega)
    have hmantissa := hright.mantissa
    have hshift : 2 ^ 1 ≤ 2 ^ (d - e).toNat := Nat.pow_le_pow_right (by decide) (by omega)
    calc n ≤ 2 ^ 52 * 2 ^ 1 := by omega
      _ ≤ m * 2 ^ (d - e).toNat := Nat.mul_le_mul hfull hshift

theorem finiteAmount_sub_finite {m n : Nat} {d e : Int} {hm : 0 < m} {hn : 0 < n}
    (hleft : Canonical m d) (hright : Canonical n e)
    (h : UnpackedFloat.lt (.finite .positive m d hm) (.finite .positive n e hn) = false) :
    FiniteAmount (read (write (UnpackedFloat.sub Format.binary64 (.finite .positive m d hm)
      (.finite .positive n e hn)))) := by
  obtain ⟨hexponents, hle⟩ := mantissa_le_of_not_lt hleft hright h
  obtain ⟨k, rfl⟩ : ∃ k : Nat, e = d - k := ⟨(d - e).toNat, by omega⟩
  have hmin : min d (d - k) = d - k := by omega
  have hk : (d - (d - (k : Int))).toNat = k := by omega
  unfold UnpackedFloat.sub decreaseExponent
  dsimp only [Sign.apply]
  rw [hmin, Int.sub_self, hk, Nat.shiftLeft_eq, Nat.shiftLeft_eq]
  rw [hk] at hle
  by_cases hsame : n = m * 2 ^ k
  · have hnone : ((m * 2 ^ k : Nat) : Int) - ((n * 2 ^ (0 : Int).toNat : Nat) : Int) = 0 := by
      rw [hsame]
      simp
    rw [hnone]
    exact finiteAmount_write_zero .positive
  · have hdifference : ((m * 2 ^ k : Nat) : Int) - ((n * 2 ^ (0 : Int).toNat : Nat) : Int) =
        ((m * 2 ^ k - n : Nat) : Int) := by
      have hone : (2 : Nat) ^ (0 : Int).toNat = 1 := rfl
      rw [hone]
      omega
    have hpos : 0 < m * 2 ^ k - n := by omega
    rw [hdifference, normalize_of_pos (by omega), Int.toNat_natCast]
    obtain ⟨f, g, hf, hround, hbits, hleast, hgreatest⟩ :=
      round_lt hleft .positive hpos (by omega) hright.least
    rw [hround]
    rcases read_write .positive hf hbits hleast with ⟨_, _, _, hread⟩ | ⟨hhigh, -⟩
    · rw [hread]
      exact ⟨rfl, trivial⟩
    · omega

/-- What is left of a finite amount that is not less than the other one is a finite amount. -/
theorem finiteAmount_sub {b c : BitVec 64} (hb : FiniteAmount (read b)) (hc : Amount (read c))
    (hle : (read b).lt (read c) = false) :
    FiniteAmount (read (write (UnpackedFloat.sub Format.binary64 (read b) (read c)))) := by
  have hself := finiteAmount_write_read hb
  cases hreadb : read b with
  | notANumber =>
    rw [hreadb] at hb
    exact hb.2.elim
  | infinity s =>
    rw [hreadb] at hb
    exact nomatch hb.1
  | zero s =>
    rw [hreadb] at hle
    cases hreadc : read c with
    | notANumber =>
      rw [hreadc] at hc
      exact hc.elim
    | zero t => cases s <;> cases t <;> exact finiteAmount_write_zero _
    | infinity t =>
      rw [hreadc] at hc hle
      cases t with
      | negative => exact hc.elim
      | positive => exact nomatch hle
    | finite t =>
      rw [hreadc] at hc hle
      cases t with
      | negative => exact hc.elim
      | positive => exact nomatch hle
  | finite s m d hm =>
    cases s with
    | negative =>
      rw [hreadb] at hb
      exact hb.2.elim
    | positive =>
      cases hreadc : read c with
      | notANumber =>
        rw [hreadc] at hc
        exact hc.elim
      | zero t =>
        rw [hreadb] at hself
        exact hself
      | infinity t =>
        rw [hreadb, hreadc] at hle
        rw [hreadc] at hc
        cases t with
        | negative => exact hc.elim
        | positive => exact nomatch hle
      | finite t n e hn =>
        rw [hreadb, hreadc] at hle
        rw [hreadc] at hc
        cases t with
        | negative => exact hc.elim
        | positive =>
          exact finiteAmount_sub_finite (canonical_read hreadb) (canonical_read hreadc) hle

theorem amount_roundWithAccuracy (m : Nat) (e : Int) (accuracy : Accuracy) :
    Amount (roundWithAccuracy Format.binary64 .positive m e accuracy) := by
  unfold roundWithAccuracy
  dsimp only
  split
  · trivial
  · trivial

/-- A multiple of an amount is an amount. -/
theorem amount_mul_finite {x : UnpackedFloat} (hx : Amount x) {n : Nat} {e : Int} (hn : 0 < n) :
    Amount (UnpackedFloat.mul Format.binary64 x (.finite .positive n e hn)) := by
  cases x with
  | notANumber => exact hx.elim
  | zero s => trivial
  | infinity s =>
    cases s with
    | negative => exact hx.elim
    | positive => trivial
  | finite s m d hm =>
    cases s with
    | negative => exact hx.elim
    | positive => exact amount_roundWithAccuracy _ _ _

/-- So is a part of it. -/
theorem amount_div_finite {x : UnpackedFloat} (hx : Amount x) {n : Nat} {e : Int} (hn : 0 < n) :
    Amount (UnpackedFloat.div Format.binary64 x (.finite .positive n e hn)) := by
  cases x with
  | notANumber => exact hx.elim
  | zero s => trivial
  | infinity s =>
    cases s with
    | negative => exact hx.elim
    | positive => trivial
  | finite s m d hm =>
    cases s with
    | negative => exact hx.elim
    | positive => exact amount_roundWithAccuracy _ _ _

/-! ## Numbers of the program -/

theorem isFinite_eq (x : Float) : Scalar.isFinite x = (value x).isFinite :=
  rfl

theorem isNaN_eq (x : Float) : Scalar.isNaN x = (value x).isNaN :=
  rfl

theorem value_sub (x y : Float) :
    value (x - y) =
      read (write (UnpackedFloat.sub Float.Model.Format.binary64 (value x) (value y))) :=
  rfl

theorem value_mul (x y : Float) :
    value (x * y) =
      read (write (UnpackedFloat.mul Float.Model.Format.binary64 (value x) (value y))) :=
  rfl

theorem value_div (x y : Float) :
    value (x / y) =
      read (write (UnpackedFloat.div Float.Model.Format.binary64 (value x) (value y))) :=
  rfl

theorem finiteAmount_iff {x : Float} :
    FiniteAmount (value x) ↔ Scalar.isFinite x = true ∧ IsAmount x :=
  and_congr Iff.rfl isAmount_iff.symm

theorem amount_ofInt (n : Nat) :
    Amount (UnpackedFloat.ofInt Float.Model.Format.binary64 (n : Int)) := by
  unfold UnpackedFloat.ofInt
  cases n with
  | zero => trivial
  | succ n =>
    rw [normalize_of_pos (by omega)]
    exact amount_round _ _

theorem amount_finite {m : Nat} {e : Int} (hm : 0 < m) :
    Amount (.finite .positive m e hm) :=
  trivial

theorem amount_ofScientific (n : Nat) (e : Int) :
    Amount (UnpackedFloat.ofScientific Float.Model.Format.binary64 n e) := by
  unfold UnpackedFloat.ofScientific
  split
  · trivial
  · split
    · trivial
    · split
      · trivial
      · split
        · exact amount_mul_finite (amount_finite _) _
        · exact amount_div_finite (amount_finite _) _

theorem natCast_eq (n : Nat) : (Scalar.ofInt (n : Int) : Float) =
    if n < 2 ^ 53 then n.toUInt64.toFloat * Float.exactlyRepresentablePowersOfTen[0]
    else ⟨Float.Model.ofScientific n 0⟩ := by
  show Float.ofScientific n false 0 = _
  unfold Float.ofScientific
  by_cases h : n < 2 ^ 53
  · rw [dif_pos ⟨h, by decide⟩, if_pos h]
    rfl
  · rw [dif_neg fun hn => h hn.1, if_neg h]
    rfl

/-- Whole numbers from zero up are amounts, also those that need more than 53 bits. -/
theorem isAmount_natCast (n : Nat) : IsAmount (Scalar.ofInt (n : Int) : Float) := by
  rw [natCast_eq, isAmount_iff]
  split
  · have hone : value Float.exactlyRepresentablePowersOfTen[0] =
        .finite .positive 4503599627370496 (-52) (by decide) := by rfl
    rw [value_mul, hone]
    exact amount_read_write (amount_mul_finite (amount_read_write (amount_ofInt _)) _)
  · exact amount_read_write (amount_ofScientific n 0)

end Word

instance : StockScalar Float where
  isNaN_of_isFinite x h := by
    rw [Word.isFinite_eq] at h
    rw [Word.isNaN_eq]
    cases hvalue : Word.value x with
    | notANumber =>
      rw [hvalue] at h
      exact nomatch h
    | infinity => rfl
    | zero => rfl
    | finite => rfl
  isFinite_sub x y hfinite hx hy h := by
    rw [Word.lt_eq] at h
    rw [← Word.finiteAmount_iff, Word.value_sub]
    exact Word.finiteAmount_sub (Word.finiteAmount_iff.mpr ⟨hfinite, hx⟩)
      (Word.isAmount_iff.mp hy) h
  positive_add x y hx hy := by
    rw [Word.lt_eq, Word.value_zero] at hx hy ⊢
    rw [Word.value_add]
    exact Word.positive_iff.mp
      (Word.positive_add (Word.positive_iff.mpr hx) (Word.positive_iff.mpr hy))
  isAmount_zero := by
    rw [Word.isAmount_iff, Word.value_zero]
    trivial
  isAmount_hours seconds := by
    have hhour : Word.value (Scalar.ofInt 3600) =
        .finite .positive 7916483719987200 (-41) (by decide) := by rfl
    rw [Word.isAmount_iff, Word.value_div, hhour]
    have hseconds := Word.isAmount_iff.mp (Word.isAmount_natCast seconds)
    exact Word.amount_read_write (Word.amount_div_finite hseconds _)

end PrintFarm
