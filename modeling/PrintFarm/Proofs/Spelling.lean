import PrintFarm.Proofs.Calendar
import PrintFarm.Proofs.Drawing

/-!
# Run numbers in the order of texts

Runs that begin at one time are listed by the texts of their numbers.  Days are written in eight
digits, so they are in the order of time.  Counters are written in four digits or more, and texts of
different lengths are compared by the digits that both have.

* Digits of one length are in the order of what they count (`lt_iff_ofDigitChars_lt`).
* `counter_lt_iff` and `dayNumber_lt` are about the two parts of a number, and `runNumber_lt_iff`
  is about the whole.
-/

namespace PrintFarm

/-! ## Digits -/

section Digits

variable {x y u v : List Char}

/-- Of two texts the parts in front decide, if they have one length and are not the same. -/
theorem append_lt_append_iff (hlength : x.length = y.length) :
    x ++ u < y ++ v ↔ x < y ∨ x = y ∧ u < v := by
  induction x generalizing y with
  | nil =>
    obtain rfl := List.length_eq_zero_iff.mp hlength.symm
    simp
  | cons c x ih =>
    obtain ⟨d, y, rfl⟩ := List.exists_cons_of_length_eq_add_one hlength.symm
    rw [List.cons_append, List.cons_append, List.cons_lt_cons_iff, List.cons_lt_cons_iff,
      ih (Nat.succ.inj hlength), List.cons.injEq]
    tauto

/-- The first digit counts for the number of digits behind it. -/
theorem ofDigitChars_cons_zero (c : Char) (x : List Char) :
    Nat.ofDigitChars 10 (c :: x) 0 =
      10 ^ x.length * (c.toNat - '0'.toNat) + Nat.ofDigitChars 10 x 0 := by
  rw [Nat.ofDigitChars_cons, Nat.ofDigitChars_eq_ofDigitChars_zero, Nat.mul_zero, Nat.zero_add]

theorem ofDigitChars_lt_pow (hx : ∀ c ∈ x, c.isDigit = true) :
    Nat.ofDigitChars 10 x 0 < 10 ^ x.length := by
  induction x with
  | nil => simp
  | cons c x ih =>
    obtain ⟨hc, hrest⟩ := List.forall_mem_cons.mp hx
    have hdigit : c.toNat - '0'.toNat ≤ 9 := by
      have := Char.isDigit_iff_toNat.mp hc
      simp only [Char.reduceToNat] at *
      omega
    have hbehind := ih hrest
    have hfirst := Nat.mul_le_mul_left (10 ^ x.length) hdigit
    rw [ofDigitChars_cons_zero, List.length_cons, Nat.pow_succ]
    omega

/-- A larger first digit outweighs what is behind it. -/
theorem mul_add_lt_mul_add_iff {weight a b m n : Nat} (hm : m < weight) (hn : n < weight) :
    weight * a + m < weight * b + n ↔ a < b ∨ a = b ∧ m < n := by
  rcases Nat.lt_trichotomy a b with h | rfl | h
  · have hnext := Nat.mul_le_mul_left weight h
    rw [Nat.mul_succ] at hnext
    exact iff_of_true (by omega) (Or.inl h)
  · simp
  · have hnext := Nat.mul_le_mul_left weight h
    rw [Nat.mul_succ] at hnext
    exact iff_of_false (by omega) (by omega)

/-- Digits of one length are in the order of what they count. -/
theorem lt_iff_ofDigitChars_lt (hlength : x.length = y.length)
    (hx : ∀ c ∈ x, c.isDigit = true) (hy : ∀ c ∈ y, c.isDigit = true) :
    x < y ↔ Nat.ofDigitChars 10 x 0 < Nat.ofDigitChars 10 y 0 := by
  induction x generalizing y with
  | nil =>
    obtain rfl := List.length_eq_zero_iff.mp hlength.symm
    simp
  | cons c x ih =>
    obtain ⟨d, y, rfl⟩ := List.exists_cons_of_length_eq_add_one hlength.symm
    obtain ⟨hc, hx⟩ := List.forall_mem_cons.mp hx
    obtain ⟨hd, hy⟩ := List.forall_mem_cons.mp hy
    have hrest : x.length = y.length := Nat.succ.inj hlength
    have hbelow := ofDigitChars_lt_pow hx
    have hbelow' := ofDigitChars_lt_pow hy
    have hdigit : c < d ↔ c.toNat - '0'.toNat < d.toNat - '0'.toNat := by
      have hc := Char.isDigit_iff_toNat.mp hc
      have hd := Char.isDigit_iff_toNat.mp hd
      rw [Char.lt_def, UInt32.lt_iff_toNat_lt]
      simp only [Char.toNat] at *
      omega
    have hsame : c = d ↔ c.toNat - '0'.toNat = d.toNat - '0'.toNat := by
      have hc := Char.isDigit_iff_toNat.mp hc
      have hd := Char.isDigit_iff_toNat.mp hd
      rw [← Char.toNat_inj]
      simp only [Char.reduceToNat] at *
      omega
    rw [List.cons_lt_cons_iff, ih hrest hx hy, ofDigitChars_cons_zero, ofDigitChars_cons_zero,
      hrest, mul_add_lt_mul_add_iff (hrest ▸ ofDigitChars_lt_pow hx) (ofDigitChars_lt_pow hy),
      hdigit, hsame]

/-- Digits of one length that count the same are the same. -/
theorem eq_iff_ofDigitChars_eq (hlength : x.length = y.length)
    (hx : ∀ c ∈ x, c.isDigit = true) (hy : ∀ c ∈ y, c.isDigit = true) :
    x = y ↔ Nat.ofDigitChars 10 x 0 = Nat.ofDigitChars 10 y 0 := by
  have hlt := lt_iff_ofDigitChars_lt hlength hx hy
  have hgt := lt_iff_ofDigitChars_lt hlength.symm hy hx
  refine ⟨fun h => by rw [h], fun h => ?_⟩
  rcases lt_trichotomy x y with hxy | hxy | hxy
  · exact absurd (hlt.mp hxy) (by omega)
  · exact hxy
  · exact absurd (hgt.mp hxy) (by omega)

end Digits

/-! ## Counters -/

/-- How many digits a counter is written in. -/
def counterWidth (counter : Nat) : Nat :=
  max 4 (Nat.toDigits 10 counter).length

theorem length_counter (counter : Nat) :
    (Text.zeroPadded 4 counter).toList.length = counterWidth counter := by
  rw [toList_zeroPadded, List.length_append, List.length_replicate, counterWidth]
  omega

theorem counterWidth_mono {m n : Nat} (h : m ≤ n) : counterWidth m ≤ counterWidth n := by
  have hn : n < 10 ^ (Nat.toDigits 10 n).length :=
    (Nat.length_toDigits_le_iff (by decide) Nat.length_toDigits_pos).mp (Nat.le_refl _)
  have hm : (Nat.toDigits 10 m).length ≤ (Nat.toDigits 10 n).length :=
    (Nat.length_toDigits_le_iff (by decide) Nat.length_toDigits_pos).mpr (by omega)
  unfold counterWidth
  omega

/-- The first digits of a text count what is left of it without the others. -/
theorem ofDigitChars_take {x : List Char} (hx : ∀ c ∈ x, c.isDigit = true) (k : Nat) :
    Nat.ofDigitChars 10 (x.take k) 0 = Nat.ofDigitChars 10 x 0 / 10 ^ (x.length - k) := by
  have hdrop : Nat.ofDigitChars 10 (x.drop k) 0 < 10 ^ (x.length - k) := by
    rw [← List.length_drop]
    exact ofDigitChars_lt_pow fun c hc => hx c (List.mem_of_mem_drop hc)
  have hwhole : Nat.ofDigitChars 10 x 0 = 10 ^ (x.length - k) * Nat.ofDigitChars 10 (x.take k) 0 +
      Nat.ofDigitChars 10 (x.drop k) 0 := by
    conv_lhs => rw [← List.take_append_drop k x]
    rw [Nat.ofDigitChars_append, Nat.ofDigitChars_eq_ofDigitChars_zero (l := x.drop k),
      List.length_drop]
  rw [hwhole, Nat.mul_add_div (by positivity), Nat.div_eq_of_lt hdrop, Nat.add_zero]

/-- The text of a later counter is behind that of an earlier one, unless it is longer and its first
digits count less. -/
theorem counter_lt_iff {m n : Nat} (h : m < n) :
    (Text.zeroPadded 4 m).toList < (Text.zeroPadded 4 n).toList ↔
      m ≤ n / 10 ^ (counterWidth n - counterWidth m) := by
  have hwidth := counterWidth_mono h.le
  have hread := ofDigitChars_zeroPadded 4 m
  have hread' := ofDigitChars_zeroPadded 4 n
  have hlength := length_counter m
  have hlength' := length_counter n
  have hx : ∀ c ∈ (Text.zeroPadded 4 m).toList, c.isDigit = true :=
    fun _ => isDigit_of_mem_zeroPadded
  have hy : ∀ c ∈ (Text.zeroPadded 4 n).toList, c.isDigit = true :=
    fun _ => isDigit_of_mem_zeroPadded
  generalize (Text.zeroPadded 4 m).toList = x at *
  generalize (Text.zeroPadded 4 n).toList = y at *
  have htake : (y.take x.length).length = x.length := by
    rw [List.length_take]
    omega
  have hy' : ∀ c ∈ y.take x.length, c.isDigit = true := fun c hc => hy c (List.mem_of_mem_take hc)
  have hfirst : Nat.ofDigitChars 10 (y.take x.length) 0 =
      n / 10 ^ (counterWidth n - counterWidth m) := by
    rw [ofDigitChars_take hy, hread', hlength, hlength']
  have hsplit : x < y ↔ x ++ [] < y.take x.length ++ y.drop x.length := by
    rw [List.append_nil, List.take_append_drop]
  have hrest : [] < y.drop x.length ↔ counterWidth m < counterWidth n := by
    rw [← hlength, ← hlength', ← Nat.not_le, ← List.drop_eq_nil_iff]
    cases y.drop x.length <;> simp
  rw [hsplit, append_lt_append_iff htake.symm, lt_iff_ofDigitChars_lt htake.symm hx hy',
    eq_iff_ofDigitChars_eq htake.symm hx hy', hread, hfirst, hrest]
  by_cases hwider : counterWidth m < counterWidth n
  · rw [and_iff_left hwider, le_iff_lt_or_eq]
  · rw [(by omega : counterWidth n - counterWidth m = 0), Nat.pow_zero, Nat.div_one]
    exact iff_of_true (Or.inl h) h.le

/-! ## Days -/

/-- A number that is below the power is written in just as many digits. -/
theorem length_zeroPadded {width n : Nat} (hwidth : 0 < width) (h : n < 10 ^ width) :
    (Text.zeroPadded width n).toList.length = width := by
  have hdigits := (Nat.length_toDigits_le_iff (by decide : 1 < 10) hwidth).mpr h
  rw [toList_zeroPadded, List.length_append, List.length_replicate]
  omega

/-- A number behind other digits is added to what they count. -/
theorem ofDigitChars_append_zeroPadded {width n : Nat} (hwidth : 0 < width) (h : n < 10 ^ width)
    (before : List Char) :
    Nat.ofDigitChars 10 (before ++ (Text.zeroPadded width n).toList) 0 =
      10 ^ width * Nat.ofDigitChars 10 before 0 + n := by
  rw [Nat.ofDigitChars_append, Nat.ofDigitChars_eq_ofDigitChars_zero, length_zeroPadded hwidth h,
    ofDigitChars_zeroPadded]

namespace Timestamp

/-- The time is in a year of four digits, and in no leap second. -/
structure IsPlain (t : Timestamp) : Prop where
  nanos : t.nanos < nanosPerSecond
  year : 0 ≤ t.date.year ∧ t.date.year ≤ 9999

variable {t : Timestamp}

theorem isDigit_of_mem_dayNumber {c : Char} (h : c ∈ t.dayNumber.toList) : c.isDigit = true := by
  simp only [dayNumber, String.toList_append, List.mem_append] at h
  rcases h with (h | h) | h
  all_goals exact isDigit_of_mem_zeroPadded h

theorem length_dayNumber (h : t.IsPlain) : t.dayNumber.toList.length = 8 := by
  obtain ⟨hmonth, hday⟩ : t.date.month ≤ 12 ∧ t.date.day ≤ 31 := Date.ofDays_bounds _
  obtain ⟨hyear, hyear'⟩ := h.year
  simp only [dayNumber, String.toList_append, List.length_append]
  rw [length_zeroPadded (by decide) (by omega), length_zeroPadded (by decide) (by omega),
    length_zeroPadded (by decide) (by omega)]

theorem ofDigitChars_dayNumber (h : t.IsPlain) :
    (Nat.ofDigitChars 10 t.dayNumber.toList 0 : Int) = t.date.key := by
  obtain ⟨hmonth, hday⟩ : t.date.month ≤ 12 ∧ t.date.day ≤ 31 := Date.ofDays_bounds _
  obtain ⟨hyear, hyear'⟩ := h.year
  simp only [dayNumber, String.toList_append]
  rw [ofDigitChars_append_zeroPadded (by decide) (by omega),
    ofDigitChars_append_zeroPadded (by decide) (by omega), ofDigitChars_zeroPadded, Date.key]
  omega

/-- The text of a later day is behind that of an earlier one. -/
theorem dayNumber_lt {older newer : Timestamp} (holder : older.IsPlain) (hnewer : newer.IsPlain)
    (hclock : older.after newer = false) (hdate : older.date ≠ newer.date) :
    older.dayNumber.toList < newer.dayNumber.toList := by
  have hseconds : older.seconds ≤ newer.seconds := by
    have hnanos := holder.nanos
    have hnanos' := hnewer.nanos
    simp only [after, decide_eq_false_iff_not, Int.not_lt] at hclock
    simp only [toNanos, nanosPerSecond] at hclock hnanos hnanos'
    omega
  have hdays : older.seconds / secondsPerDay ≤ newer.seconds / secondsPerDay :=
    Int.ediv_le_ediv (by decide) hseconds
  have hlater : older.seconds / secondsPerDay < newer.seconds / secondsPerDay :=
    lt_of_le_of_ne hdays fun hsame => hdate (congrArg Date.ofDays hsame)
  rw [lt_iff_ofDigitChars_lt
    ((length_dayNumber holder).trans (length_dayNumber hnewer).symm)
    (fun _ => isDigit_of_mem_dayNumber) (fun _ => isDigit_of_mem_dayNumber)]
  have hkey : older.date.key < newer.date.key := Date.key_ofDays_lt hlater
  rw [← ofDigitChars_dayNumber holder, ← ofDigitChars_dayNumber hnewer] at hkey
  exact Int.ofNat_lt.mp hkey

end Timestamp

/-! ## Numbers of runs -/

/-- Of two runs the one with the later counter has the number behind the other one, unless both were
created on one day, the later counter is longer and its first digits count less. -/
theorem runNumber_lt_iff {older newer : Timestamp} (holder : older.IsPlain) (hnewer : newer.IsPlain)
    (hclock : older.after newer = false) {m n : Nat} (h : m < n) :
    Store.runNumber older m < Store.runNumber newer n ↔
      older.date ≠ newer.date ∨ m ≤ n / 10 ^ (counterWidth n - counterWidth m) := by
  have hlength := (Timestamp.length_dayNumber holder).trans (Timestamp.length_dayNumber hnewer).symm
  have hsplit : ∀ (now : Timestamp) (k : Nat), (Store.runNumber now k).toList = "RUN-".toList ++
      (now.dayNumber.toList ++ '-' :: (Text.zeroPadded 4 k).toList) := by
    intro now k
    simp [runNumber_eq]
  rw [String.lt_iff_toList_lt, hsplit, hsplit, append_lt_append_iff rfl,
    append_lt_append_iff hlength, List.cons_lt_cons_self, counter_lt_iff h]
  by_cases hdate : older.date = newer.date
  · have hday : older.dayNumber = newer.dayNumber := by
      simp only [Timestamp.dayNumber, hdate]
    simp [hday, hdate]
  · have hday := Timestamp.dayNumber_lt holder hnewer hclock hdate
    simp [hday, hdate]

end PrintFarm
