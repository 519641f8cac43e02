import PrintFarm.Proofs.Guards

/-!
# Counts in words

Counts are kept in words of 32 bits and added up in words of 64 bits, and a sum is cut back to
32 bits where it is stored.  The rules for an item and what is added to it are stated of whole
numbers.  This module computes them in words, whatever is in the words, and finds the same.

* Sums and differences of counts are far within 64 bits (`bmod_eq_self`), so only `narrow?` can
  fail.  It keeps the words that hold a count (`narrow?_eq_some`, `narrow?_eq_none`).
* `ItemWords.rollupComplaints_eq`, `ItemWords.toInt_openUnits` and `OutcomeWords.capFailed_eq` tell
  what the words compute, function by function.
* A sum that does not fit is below zero or beyond the plan, so narrowing does not show in what is
  accepted (`rollups_exact`).
-/

namespace PrintFarm

variable {α : Type}

/-! ## Rules in words -/

/-- The counts of an item. -/
structure ItemWords where
  quantity : Int32
  successful : Int32
  failed : Int32

/-- The counts of an outcome. -/
structure OutcomeWords where
  successful : Int32
  failed : Int32

/-- The item with the counts in the words. -/
def Item.counting (i : Item α) (w : ItemWords) : Item α :=
  { i with
    quantity := w.quantity.toInt
    successful := w.successful.toInt
    failed := w.failed.toInt }

/-- The outcome with the counts in the words. -/
def OutcomeWords.outcome (o : OutcomeWords) : Outcome :=
  ⟨o.successful.toInt, o.failed.toInt⟩

/-- The word of 32 bits that a word of 64 bits is cut back to, if nothing of it is lost. -/
def narrow? (n : Int64) : Option Int32 :=
  if n.toInt32.toInt64 = n then some n.toInt32 else none

/-- What is wrong with an outcome of an item that plans `quantity` prints. -/
def OutcomeWords.complaints (place : String) (quantity : Int32) (o : OutcomeWords) :
    List (FieldError α) :=
  complaint (o.successful < 0) (place ++ "successful_quantity") .negative ++
  complaint (o.failed < 0) (place ++ "failed_quantity") .negative ++
  complaint (quantity.toInt64 < o.successful.toInt64 + o.failed.toInt64)
    (place ++ "successful_quantity")
    (.outcomeBeyondPlan o.successful.toInt o.failed.toInt quantity.toInt)

/-- Limits the failed count to the units that are open, and these to the largest count. -/
def OutcomeWords.capFailed (o : OutcomeWords) (openUnits : Int64) : OutcomeWords :=
  { o with failed := min o.failed ((narrow? (max openUnits 0)).getD Int32.maxValue) }

namespace ItemWords

/-- How many of the planned prints have no outcome yet. -/
def openUnits (w : ItemWords) : Int64 :=
  w.quantity.toInt64 - w.successful.toInt64 - w.failed.toInt64

/-- What is wrong with adding `added` to the outcome of the item. -/
def rollupComplaints (w : ItemWords) (added : OutcomeWords) : List (FieldError α) :=
  let successful := w.successful.toInt64 + added.successful.toInt64
  let failed := w.failed.toInt64 + added.failed.toInt64
  match narrow? successful, narrow? failed with
  | some s, some f => OutcomeWords.complaints "item." w.quantity ⟨s, f⟩
  | _, _ =>
    [⟨"item.successful_quantity",
      .outcomeBeyondPlan successful.toInt failed.toInt w.quantity.toInt⟩]

end ItemWords

/-! ## Words and numbers -/

/-- What is far within 64 bits does not wrap there. -/
theorem bmod_eq_self {n : Int} (hlow : -2 ^ 40 ≤ n) (hhigh : n < 2 ^ 40) :
    n.bmod (2 ^ 64) = n :=
  Int.bmod_eq_of_le (by omega) (by omega)

theorem toInt_widened_add (a b : Int32) :
    (a.toInt64 + b.toInt64).toInt = a.toInt + b.toInt := by
  have ha := And.intro a.le_toInt a.toInt_lt
  have hb := And.intro b.le_toInt b.toInt_lt
  rw [Int64.toInt_add, Int32.toInt_toInt64, Int32.toInt_toInt64, bmod_eq_self]
  · omega
  · omega

theorem fitsCount_toInt (w : Int32) : fitsCount w.toInt = true := by
  have hw := And.intro w.le_toInt w.toInt_lt
  exact fitsCount_iff.mpr ⟨by omega, by unfold largestCount; omega⟩

theorem narrow?_eq_some {n : Int64} {w : Int32} : narrow? n = some w ↔ w.toInt = n.toInt := by
  unfold narrow?
  constructor
  · intro h
    split at h
    · rename_i hkept
      obtain rfl := Option.some.inj h
      rw [← Int32.toInt_toInt64, hkept]
    · exact nomatch h
  · intro h
    obtain rfl : w.toInt64 = n := Int64.toInt_inj.mp ((Int32.toInt_toInt64 w).trans h)
    rw [Int32.toInt32_toInt64, if_pos rfl]

theorem narrow?_eq_none {n : Int64} : narrow? n = none ↔ fitsCount n.toInt = false := by
  constructor
  · intro h
    refine Bool.eq_false_iff.mpr fun hfits => ?_
    obtain ⟨hlow, hhigh⟩ := fitsCount_iff.mp hfits
    unfold largestCount at hhigh
    have hkept : n.toInt32.toInt = n.toInt := by
      rw [Int64.toInt_toInt32, Int.bmod_eq_of_le (by omega) (by omega)]
    rw [narrow?_eq_some.mpr hkept] at h
    exact nomatch h
  · intro h
    refine Option.eq_none_iff_forall_ne_some.mpr fun w hw => ?_
    rw [← narrow?_eq_some.mp hw, fitsCount_toInt] at h
    exact nomatch h

theorem toInt_max (m n : Int64) : (max m n).toInt = max m.toInt n.toInt := by
  show (if m ≤ n then n else m).toInt = _
  split <;> rename_i h <;> rw [Int64.le_iff_toInt_le] at h <;> omega

theorem toInt_min (m n : Int32) : (min m n).toInt = min m.toInt n.toInt := by
  show (if m ≤ n then m else n).toInt = _
  split <;> rename_i h <;> rw [Int32.le_iff_toInt_le] at h <;> omega

/-! ## What the words compute -/

theorem OutcomeWords.complaints_eq (place : String) (quantity : Int32) (o : OutcomeWords) :
    (o.complaints place quantity : List (FieldError α)) =
      o.outcome.complaints place quantity.toInt := by
  have hsuccessful : decide (o.successful < 0) = decide (o.outcome.successful < 0) :=
    decide_eq_decide.mpr Int32.lt_iff_toInt_lt
  have hfailed : decide (o.failed < 0) = decide (o.outcome.failed < 0) :=
    decide_eq_decide.mpr Int32.lt_iff_toInt_lt
  have hsum : decide (quantity.toInt64 < o.successful.toInt64 + o.failed.toInt64) =
      decide (quantity.toInt < o.outcome.successful + o.outcome.failed) := by
    rw [decide_eq_decide, Int64.lt_iff_toInt_lt, toInt_widened_add, Int32.toInt_toInt64]
    rfl
  rw [complaints, hsuccessful, hfailed, hsum]
  rfl

theorem ItemWords.toInt_openUnits (w : ItemWords) (i : Item α) :
    w.openUnits.toInt = (i.counting w).openUnits := by
  have hq := And.intro w.quantity.le_toInt w.quantity.toInt_lt
  have hs := And.intro w.successful.le_toInt w.successful.toInt_lt
  have hf := And.intro w.failed.le_toInt w.failed.toInt_lt
  rw [openUnits, Int64.toInt_sub, Int64.toInt_sub, Int32.toInt_toInt64, Int32.toInt_toInt64,
    Int32.toInt_toInt64, bmod_eq_self (n := w.quantity.toInt - w.successful.toInt), bmod_eq_self]
  · rfl
  all_goals omega

/-- A sum that is cut back is either the count that it is, or no count. -/
theorem narrow?_widened_add (a b : Int32) :
    (∃ c, narrow? (a.toInt64 + b.toInt64) = some c ∧ c.toInt = a.toInt + b.toInt ∧
      fitsCount (a.toInt + b.toInt) = true) ∨
    narrow? (a.toInt64 + b.toInt64) = none ∧ fitsCount (a.toInt + b.toInt) = false := by
  rw [← toInt_widened_add]
  cases h : narrow? (a.toInt64 + b.toInt64) with
  | none => exact Or.inr ⟨rfl, narrow?_eq_none.mp h⟩
  | some c =>
    have hc := narrow?_eq_some.mp h
    exact Or.inl ⟨c, rfl, hc, hc ▸ fitsCount_toInt c⟩

theorem ItemWords.rollupComplaints_eq (w : ItemWords) (added : OutcomeWords) (i : Item α) :
    w.rollupComplaints added = (i.counting w).rollupComplaints added.outcome := by
  have htotal : (i.counting w).outcome.plus added.outcome =
      ⟨w.successful.toInt + added.successful.toInt, w.failed.toInt + added.failed.toInt⟩ := rfl
  have hquantity : (i.counting w).quantity = w.quantity.toInt := rfl
  unfold rollupComplaints Item.rollupComplaints
  simp only [htotal, hquantity, toInt_widened_add]
  rcases narrow?_widened_add w.successful added.successful with
    ⟨s, hs, hsuccessful, hsfits⟩ | ⟨hs, hsfits⟩
  · rcases narrow?_widened_add w.failed added.failed with ⟨f, hf, hfailed, hffits⟩ | ⟨hf, hffits⟩
    · rw [hs, hf, hsfits, hffits, ← hsuccessful, ← hfailed]
      exact OutcomeWords.complaints_eq "item." w.quantity ⟨s, f⟩
    · rw [hs, hf, hsfits, hffits]
      rfl
  · rw [hs, hsfits]
    rfl

theorem OutcomeWords.capFailed_eq (o : OutcomeWords) (openUnits : Int64) :
    (o.capFailed openUnits).outcome = o.outcome.capFailed openUnits.toInt := by
  have hzero : (0 : Int64).toInt = 0 := rfl
  have hmax : (max openUnits 0).toInt = max openUnits.toInt 0 := by rw [toInt_max, hzero]
  have hcap : ((narrow? (max openUnits 0)).getD Int32.maxValue).toInt =
      min (max openUnits.toInt 0) largestCount := by
    rw [← hmax]
    cases h : narrow? (max openUnits 0) with
    | none =>
      have hfits := narrow?_eq_none.mp h
      rw [Bool.eq_false_iff, Ne, fitsCount_iff] at hfits
      have hlargest : Int32.maxValue.toInt = largestCount := rfl
      rw [Option.getD_none, hlargest]
      omega
    | some c =>
      have hc := narrow?_eq_some.mp h
      have hfits := fitsCount_iff.mp (fitsCount_toInt c)
      rw [Option.getD_some]
      omega
  rw [capFailed, outcome, toInt_min, hcap]
  rfl

/-! ## What the rules for whole numbers say of words -/

/-- To a count from words the largest count makes no difference. -/
theorem OutcomeWords.outcome_capFailed (o : OutcomeWords) (openUnits : Int) :
    o.outcome.capFailed openUnits =
      ⟨o.successful.toInt, min o.failed.toInt (max openUnits 0)⟩ := by
  have hfits := fitsCount_iff.mp (fitsCount_toInt o.failed)
  have hcap : min o.failed.toInt (min (max openUnits 0) largestCount) =
      min o.failed.toInt (max openUnits 0) := by omega
  exact congrArg (Outcome.mk _) hcap

/-! ## Every word -/

/-- Whatever the words of an item, of what is added to it and of a lost bed hold, nothing wraps: the
complaints, the open units and the capped outcome are those of the whole numbers.  There is no
complaint exactly where both totals are from zero up and together within the plan, and a cap takes
the least of the failed prints and the open units, if there are any.  So a lost bed that is capped
at what is open in an item in order is added without complaints. -/
theorem rollups_exact (i : Item α) (w : ItemWords) (added : OutcomeWords) (openUnits : Int64)
    (bed : Int32) :
    let item := i.counting w
    let total := item.outcome.plus added.outcome
    w.rollupComplaints added = item.rollupComplaints added.outcome ∧
    (item.rollupComplaints added.outcome = [] ↔
      0 ≤ total.successful ∧ 0 ≤ total.failed ∧ total.successful + total.failed ≤ item.quantity) ∧
    w.openUnits.toInt = item.quantity - item.successful - item.failed ∧
    (added.capFailed openUnits).outcome = added.outcome.capFailed openUnits.toInt ∧
    added.outcome.capFailed openUnits.toInt =
      ⟨added.successful.toInt, min added.failed.toInt (max openUnits.toInt 0)⟩ ∧
    (0 ≤ bed.toInt → 0 ≤ item.successful → 0 ≤ item.failed →
      item.successful + item.failed ≤ item.quantity →
      item.rollupComplaints (item.gained .failed bed.toInt added.outcome) = [] ∧
      w.rollupComplaints (OutcomeWords.capFailed ⟨0, bed⟩ w.openUnits) =
        ([] : List (FieldError α))) := by
  intro item total
  have hlargest : item.quantity ≤ largestCount := (fitsCount_iff.mp (fitsCount_toInt _)).2
  refine ⟨w.rollupComplaints_eq added i, Item.rollupComplaints_eq_nil_iff hlargest,
    w.toInt_openUnits i, added.capFailed_eq openUnits, added.outcome_capFailed openUnits.toInt,
    fun hbed hsuccessful hfailed hsum => ?_⟩
  have haccepted := Item.rollupComplaints_gained_failed hlargest hsuccessful hfailed hsum hbed
  refine ⟨haccepted _, ?_⟩
  rw [w.rollupComplaints_eq _ i, OutcomeWords.capFailed_eq, w.toInt_openUnits i]
  exact haccepted ⟨0, 0⟩

/-- An item of which all is printed, as many as can be counted. -/
def fullItem : Item Float :=
  ⟨.numbered 3 1, .numbered 2 1, .numbered 9 1, none, 2147483647, 2147483647, 0, none, none, none,
    none, ⟨1767225600, 0⟩⟩

/-- One print more does not fit in 32 bits, and one failed print less does not make up for it.  The
largest bed is capped to nothing. -/
theorem full_item_holds_no_more :
    let w : ItemWords := ⟨2147483647, 2147483647, 0⟩
    let added : OutcomeWords := ⟨1, -1⟩
    let bed : Int32 := 2147483647
    let item := fullItem.counting w
    0 ≤ bed.toInt ∧ 0 ≤ item.successful ∧ 0 ≤ item.failed ∧
      item.successful + item.failed ≤ item.quantity ∧
      item.rollupComplaints added.outcome ≠ [] ∧
      (added.capFailed w.openUnits).outcome = ⟨1, -1⟩ ∧
      item.gained .failed bed.toInt added.outcome = ⟨0, 0⟩ ∧
      item.rollupComplaints (item.gained .failed bed.toInt added.outcome) = [] := by
  intro w added bed item
  obtain ⟨-, hnil, -, hcapped, hcap, haccepted⟩ :=
    rollups_exact fullItem w added w.openUnits bed
  have hbed : 0 ≤ bed.toInt := by decide
  have hsuccessful : 0 ≤ item.successful := by decide
  have hfailed : 0 ≤ item.failed := by decide
  have hsum : item.successful + item.failed ≤ item.quantity := by decide
  refine ⟨hbed, hsuccessful, hfailed, hsum, fun h => absurd (hnil.mp h) (by decide),
    (hcapped.trans hcap).trans (by decide), by decide, ?_⟩
  exact (haccepted hbed hsuccessful hfailed hsum).1

end PrintFarm
