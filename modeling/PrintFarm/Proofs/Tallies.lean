import PrintFarm.Proofs.Requests

/-!
# Tallies of what is reported

`positiveUsage` makes one amount per spool of the entries of a list.  An entry counts if its amount
is finite and above zero (`SpoolUsage.Counts`), and nothing else about the list matters than which
entries of a spool count, and in which order.

* Identifiers are ordered by their bytes (`Uuid.before_iff_bytes_lt`).
* Lists in which the same entries of each spool count have the same tally (`positiveUsage_congr`),
  since a table in strict order is known from its rows (`UsageTable.Sorted.ext`).
* `usage_tallied` puts together what a tally has, and what it does not depend on.
-/

namespace PrintFarm

/-! ## The bytes of identifiers -/

/-- The digits of `n` to base 256, the highest first. -/
def bigEndian : Nat → Nat → List Nat
  | 0, _ => []
  | width + 1, n => n / 256 ^ width :: bigEndian width (n % 256 ^ width)

/-- A number is below another one if its first digit is, or if it has the same first digit and less
behind it. -/
theorem lt_iff_div_mod {m n base : Nat} :
    m < n ↔ m / base < n / base ∨ m / base = n / base ∧ m % base < n % base := by
  have hm := Nat.div_add_mod m base
  have hn := Nat.div_add_mod n base
  constructor
  · intro h
    rcases Nat.lt_or_eq_of_le (Nat.div_le_div_right (c := base) (Nat.le_of_lt h)) with hlt | heq
    · exact Or.inl hlt
    · rw [heq] at hm
      exact Or.inr ⟨heq, by omega⟩
  · rintro (hlt | ⟨heq, h⟩)
    · exact Nat.lt_of_not_le fun hle => Nat.not_lt_of_le (Nat.div_le_div_right hle) hlt
    · rw [heq] at hm
      omega

/-- Numbers that fit are ordered like their digits. -/
theorem bigEndian_lt_iff {width : Nat} : ∀ {m n : Nat}, m < 256 ^ width → n < 256 ^ width →
    (bigEndian width m < bigEndian width n ↔ m < n) := by
  induction width with
  | zero =>
    intro m n hm hn
    simp only [pow_zero, Nat.lt_one_iff] at hm hn
    simp [bigEndian, hm, hn]
  | succ width ih =>
    intro m n _ _
    have hbase : 0 < 256 ^ width := Nat.pow_pos (by decide)
    rw [bigEndian, bigEndian, List.cons_lt_cons_iff,
      ih (Nat.mod_lt m hbase) (Nat.mod_lt n hbase), ← lt_iff_div_mod]

namespace Uuid

/-- The bytes of an identifier. -/
def bytes (u : Uuid) : List Nat :=
  bigEndian 16 u.bits.toNat

theorem before_iff_bytes_lt {a b : Uuid} : a.before b = true ↔ a.bytes < b.bytes := by
  rw [bytes, bytes, bigEndian_lt_iff a.bits.isLt b.bits.isLt, before, decide_eq_true_iff]

end Uuid

/-! ## Entries that count -/

variable {α : Type} [Scalar α]

/-- An entry counts if its amount is finite and above zero. -/
def SpoolUsage.Counts (e : SpoolUsage α) : Prop :=
  Scalar.isFinite e.grams = true ∧ Scalar.lt Scalar.zero e.grams = true

instance (e : SpoolUsage α) : Decidable e.Counts :=
  inferInstanceAs (Decidable (_ ∧ _))

theorem SpoolUsage.isPositive_iff {e : SpoolUsage α} :
    Scalar.isPositive e.grams = true ↔ e.Counts :=
  Bool.and_eq_true_iff

theorem positiveAmounts_eq (spool : Uuid) (entries : List (SpoolUsage α)) :
    positiveAmounts spool entries =
      (entries.filter fun e => e.spool = spool ∧ e.Counts).map SpoolUsage.grams := by
  rw [positiveAmounts, UsageTable.amountsOf, List.filter_filter]
  refine congrArg (List.map SpoolUsage.grams) (List.filter_congr fun e _ => ?_)
  rw [Bool.eq_iff_iff, Bool.and_eq_true_iff, SpoolUsage.isPositive_iff, decide_eq_true_iff,
    decide_eq_true_iff]

/-! ## Tallies -/

omit [Scalar α] in
/-- A table is known from its rows, since they come in strict order. -/
theorem UsageTable.Sorted.ext {t t' : UsageTable α} (h : t.Sorted) (h' : t'.Sorted)
    (hrows : ∀ u, u ∈ t ↔ u ∈ t') : t = t' := by
  have hperm : t.Perm t' :=
    (List.perm_ext_iff_of_nodup h.nodup.of_map h'.nodup.of_map).mpr hrows
  refine hperm.eq_of_pairwise (fun u v _ _ huv hvu => ?_) h h'
  have hself := Uuid.before_trans huv hvu
  rw [Uuid.before_irrefl] at hself
  exact nomatch hself

/-- Lists in which the same entries of each spool count have the same tally. -/
theorem positiveUsage_congr {entries entries' : List (SpoolUsage α)}
    (h : ∀ spool, positiveAmounts spool entries = positiveAmounts spool entries') :
    positiveUsage entries = positiveUsage entries' := by
  refine (positiveUsage_sorted entries).ext (positiveUsage_sorted entries') fun u => ?_
  rw [mem_positiveUsage, mem_positiveUsage, h]

/-- Entries that do not count may stand anywhere. -/
theorem positiveUsage_insert {front extra back : List (SpoolUsage α)}
    (h : ∀ e ∈ extra, ¬e.Counts) :
    positiveUsage (front ++ extra ++ back) = positiveUsage (front ++ back) := by
  have hextra : extra.filter (fun e => Scalar.isPositive e.grams) = [] :=
    List.filter_eq_nil_iff.mpr fun e he => mt SpoolUsage.isPositive_iff.mp (h e he)
  simp only [positiveUsage, List.filter_append, hextra, List.append_nil]

/-- The entries of different spools may stand in any order. -/
theorem positiveUsage_reorder {entries entries' : List (SpoolUsage α)}
    (h : ∀ spool, (entries.filter fun e => e.spool = spool) =
      entries'.filter fun e => e.spool = spool) :
    positiveUsage entries = positiveUsage entries' := by
  refine positiveUsage_congr fun spool => ?_
  unfold positiveAmounts UsageTable.amountsOf
  rw [List.filter_comm, h, List.filter_comm]

/-- The spools of a tally are those with an entry that counts. -/
theorem mem_spools_positiveUsage {entries : List (SpoolUsage α)} {spool : Uuid} :
    spool ∈ (positiveUsage entries).map SpoolUsage.spool ↔
      ∃ e ∈ entries, e.spool = spool ∧ e.Counts := by
  have hamounts : positiveAmounts spool entries ≠ [] ↔
      ∃ e ∈ entries, e.spool = spool ∧ e.Counts := by
    rw [positiveAmounts_eq, Ne, List.map_eq_nil_iff, List.filter_eq_nil_iff]
    simp
  rw [← hamounts, List.mem_map]
  constructor
  · rintro ⟨u, hu, rfl⟩
    exact (mem_positiveUsage.mp hu).1
  · intro h
    let u : SpoolUsage α :=
      ⟨spool, (positiveAmounts spool entries).foldl (· + ·) Scalar.zero⟩
    exact ⟨u, mem_positiveUsage.mpr ⟨h, rfl⟩, rfl⟩

/-- Whatever is reported, the tally has the spools with an entry that counts, in strict order of
the bytes of their identifiers, and for each of them what its entries that count add up to, from
zero in the order of the list, which is above zero.  Entries that do not count may stand anywhere,
and entries of different spools in any order. -/
theorem usage_tallied [StockScalar α] (entries : List (SpoolUsage α)) :
    let tally := positiveUsage entries
    (tally.map fun u => u.spool.bytes).Pairwise (· < ·) ∧
    (∀ spool, spool ∈ tally.map SpoolUsage.spool ↔ ∃ e ∈ entries, e.spool = spool ∧ e.Counts) ∧
    (∀ u ∈ tally,
      u.grams = ((entries.filter fun e => e.spool = u.spool ∧ e.Counts).map
        SpoolUsage.grams).foldl (· + ·) Scalar.zero ∧
      Scalar.lt Scalar.zero u.grams = true) ∧
    (∀ front extra back : List (SpoolUsage α), (∀ e ∈ extra, ¬e.Counts) →
      positiveUsage (front ++ extra ++ back) = positiveUsage (front ++ back)) ∧
    ∀ entries' : List (SpoolUsage α), (∀ spool, (entries'.filter fun e => e.spool = spool) =
      entries.filter fun e => e.spool = spool) → positiveUsage entries' = tally := by
  intro tally
  refine ⟨?_, fun _ => mem_spools_positiveUsage, fun u hu => ⟨?_, positive_of_mem_positiveUsage hu⟩,
    fun _ _ _ => positiveUsage_insert, fun _ => positiveUsage_reorder⟩
  · refine List.pairwise_map.mpr ((positiveUsage_sorted entries).imp fun h => ?_)
    exact Uuid.before_iff_bytes_lt.mp h
  · rw [← positiveAmounts_eq]
    exact (mem_positiveUsage.mp hu).2

/-- Two spools are reported in turns, among entries that do not count: one that is no number, one
below zero, zero, and one that is infinite. -/
theorem two_spools_tallied :
    let first := Uuid.numbered 1 1
    let second := Uuid.numbered 1 2
    let front : List (SpoolUsage Float) := [⟨second, 12.5⟩, ⟨first, 1.0⟩]
    let extra : List (SpoolUsage Float) :=
      [⟨second, 0.0 / 0.0⟩, ⟨first, -5.0⟩, ⟨.numbered 1 3, 0.0⟩, ⟨first, 1.0 / 0.0⟩]
    let back : List (SpoolUsage Float) := [⟨second, 7.5⟩]
    let sorted : List (SpoolUsage Float) := [⟨first, 1.0⟩, ⟨second, 12.5⟩, ⟨second, 7.5⟩]
    (∀ e ∈ extra, ¬e.Counts) ∧
      (∀ spool, (sorted.filter fun e => e.spool = spool) =
        (front ++ back).filter fun e => e.spool = spool) ∧
      positiveUsage (front ++ extra ++ back) = positiveUsage sorted ∧
      (positiveUsage sorted).map SpoolUsage.spool = [first, second] ∧
      (positiveUsage sorted).map (fun u => u.grams == 20.0) = [false, true] ∧
      ∀ u ∈ positiveUsage sorted, Scalar.lt Scalar.zero u.grams = true := by
  intro first second front extra back sorted
  have hextra : ∀ e ∈ extra, ¬e.Counts := by decide +kernel
  have hsorted : ∀ spool, (sorted.filter fun e => e.spool = spool) =
      (front ++ back).filter fun e => e.spool = spool := by
    intro spool
    have hne : first ≠ second := by decide
    by_cases hspool : first = spool
    · have hsecond : second ≠ spool := hspool ▸ hne.symm
      simp [sorted, front, back, hspool, hsecond]
    · by_cases hsecond : second = spool
      · simp [sorted, front, back, hspool, hsecond]
      · simp [sorted, front, back, hspool, hsecond]
  obtain ⟨-, -, hgrams, -, -⟩ := usage_tallied sorted
  obtain ⟨-, -, -, hinsert, hreorder⟩ := usage_tallied (front ++ back)
  exact ⟨hextra, hsorted, (hinsert front extra back hextra).trans (hreorder sorted hsorted).symm,
    by decide +kernel, by decide +kernel, fun u hu => (hgrams u hu).2⟩

end PrintFarm
