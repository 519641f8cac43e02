import PrintFarm.Proofs.Arithmetic
import PrintFarm.Proofs.Rows
import PrintFarm.Usage

/-!
# What is reported per spool

`positiveUsage` collects a list of entries into one amount per spool.  Its spools are in strict
order (`positiveUsage_sorted`), and the amount of a spool is the sum of its finite positive entries
in the order of the list (`mem_positiveUsage`).

The proof follows the insertion of one entry: `amount?_add` says what the table holds for each
spool afterwards, and the fold over the entries adds up from there.
-/

namespace PrintFarm

variable {α : Type} [Scalar α]

/-! ## The order of identifiers -/

namespace Uuid

theorem before_irrefl (a : Uuid) : a.before a = false := by
  simp [before]

theorem before_trans {a b c : Uuid} (hab : a.before b = true) (hbc : b.before c = true) :
    a.before c = true := by
  simp only [before, decide_eq_true_eq] at *
  omega

/-- Of two identifiers one is before the other. -/
theorem before_of_not_before {a b : Uuid} (hne : a ≠ b) (h : ¬a.before b = true) :
    b.before a = true := by
  have hbits : a.bits.toNat ≠ b.bits.toNat := fun heq => hne (by
    cases a
    cases b
    exact congrArg Uuid.mk (BitVec.eq_of_toNat_eq heq))
  simp only [before, decide_eq_true_eq] at *
  omega

end Uuid

/-! ## Tables of usage -/

namespace UsageTable

/-- The spools of the table come in strict order. -/
def Sorted (t : UsageTable α) : Prop :=
  t.Pairwise fun u v => u.spool.before v.spool = true

/-- What the table holds for a spool. -/
def amount? (spool : Uuid) (t : UsageTable α) : Option α :=
  (t.find? fun u => u.spool = spool).map SpoolUsage.grams

omit [Scalar α] in
theorem Sorted.nodup {t : UsageTable α} (h : t.Sorted) : (t.map SpoolUsage.spool).Nodup := by
  refine (List.pairwise_map.mpr ?_)
  refine h.imp fun {u v} hbefore heq => ?_
  rw [heq, Uuid.before_irrefl] at hbefore
  exact nomatch hbefore

omit [Scalar α] in
theorem amount?_eq_some {t : UsageTable α} (h : t.Sorted) {u : SpoolUsage α} :
    u ∈ t ↔ t.amount? u.spool = some u.grams := by
  unfold amount?
  constructor
  · intro hu
    rw [find?_of_nodup h.nodup hu]
    rfl
  · intro hu
    obtain ⟨v, hv, hgrams⟩ := Option.map_eq_some_iff.mp hu
    have hspool : v.spool = u.spool := by simpa using List.find?_some hv
    have heq : v = u := by
      cases u
      cases v
      simp_all
    exact heq ▸ List.mem_of_find?_eq_some hv

/-- Every spool after the addition is the added one or was there before. -/
theorem mem_add {spool : Uuid} {grams : α} {t : UsageTable α} {u : SpoolUsage α}
    (hu : u ∈ t.add spool grams) : u.spool = spool ∨ ∃ v ∈ t, v.spool = u.spool := by
  induction t with
  | nil =>
    obtain rfl := List.mem_singleton.mp hu
    exact Or.inl rfl
  | cons v t ih =>
    rw [add] at hu
    split at hu
    · rename_i hv
      rcases List.mem_cons.mp hu with rfl | hu
      · exact Or.inl rfl
      · exact Or.inr ⟨u, List.mem_cons_of_mem _ hu, rfl⟩
    · split at hu
      · rcases List.mem_cons.mp hu with rfl | hu
        · exact Or.inl rfl
        · exact Or.inr ⟨u, hu, rfl⟩
      · rcases List.mem_cons.mp hu with rfl | hu
        · exact Or.inr ⟨u, List.mem_cons_self, rfl⟩
        · rcases ih hu with h | ⟨w, hw, h⟩
          · exact Or.inl h
          · exact Or.inr ⟨w, List.mem_cons_of_mem _ hw, h⟩

theorem Sorted.add {t : UsageTable α} (h : t.Sorted) (spool : Uuid) (grams : α) :
    (t.add spool grams).Sorted := by
  induction t with
  | nil => exact List.pairwise_singleton _ _
  | cons u t ih =>
    obtain ⟨hfirst, hrest⟩ := List.pairwise_cons.mp h
    rw [UsageTable.add]
    split
    · rename_i hu
      exact List.pairwise_cons.mpr ⟨fun v hv => hu ▸ hfirst v hv, hrest⟩
    · split
      · rename_i hbefore
        refine List.pairwise_cons.mpr ⟨?_, h⟩
        intro v hv
        rcases List.mem_cons.mp hv with rfl | hv
        · exact hbefore
        · exact Uuid.before_trans hbefore (hfirst v hv)
      · rename_i hne hnot
        refine List.pairwise_cons.mpr ⟨?_, ih hrest⟩
        intro v hv
        rcases mem_add hv with heq | ⟨w, hw, heq⟩
        · rw [heq]
          exact Uuid.before_of_not_before (fun h => hne h.symm) hnot
        · rw [← heq]
          exact hfirst w hw

/-- An addition changes the amount of one spool. -/
theorem amount?_add {t : UsageTable α} (h : t.Sorted) (spool : Uuid) (grams : α) (k : Uuid) :
    (t.add spool grams).amount? k =
      if k = spool then some ((t.amount? spool).getD Scalar.zero + grams) else t.amount? k := by
  induction t with
  | nil =>
    by_cases hk : k = spool
    · simp [UsageTable.add, amount?, hk]
    · simp [UsageTable.add, amount?, hk, Ne.symm hk]
  | cons u t ih =>
    obtain ⟨hfirst, hrest⟩ := List.pairwise_cons.mp h
    have hih := ih hrest
    unfold amount? at hih ⊢
    rw [UsageTable.add]
    split
    · rename_i hu
      by_cases hk : k = spool
      · simp [hu, hk]
      · simp [hu, hk, Ne.symm hk]
    · rename_i hu
      split
      · rename_i hbefore
        -- the spool is before all that are there, so it has no amount yet
        have hnone : t.find? (fun v => v.spool = spool) = none := by
          refine List.find?_eq_none.mpr fun v hv heq => ?_
          have hafter := Uuid.before_trans hbefore (hfirst v hv)
          rw [of_decide_eq_true heq, Uuid.before_irrefl] at hafter
          exact nomatch hafter
        by_cases hk : k = spool
        · simp [hu, hk, hnone]
        · simp [hk, Ne.symm hk]
      · by_cases hk : u.spool = k
        · have hne : k ≠ spool := fun heq => hu (hk.trans heq)
          simp [hk, hne]
        · simp [hk, hu, hih]

/-- The amounts of a spool in a list of entries. -/
def amountsOf (spool : Uuid) (entries : List (SpoolUsage α)) : List α :=
  (entries.filter fun e => e.spool = spool).map SpoolUsage.grams

theorem sorted_foldl_add (entries : List (SpoolUsage α)) :
    ∀ t : UsageTable α, t.Sorted → Sorted (entries.foldl (fun t e => t.add e.spool e.grams) t) := by
  induction entries with
  | nil =>
    intro t h
    exact h
  | cons e entries ih =>
    intro t h
    exact ih _ (h.add e.spool e.grams)

/-- Adding entries one after the other sums up the amounts of each spool. -/
theorem amount?_foldl_add (k : Uuid) (entries : List (SpoolUsage α)) :
    ∀ t : UsageTable α, t.Sorted →
      amount? k (entries.foldl (fun t e => t.add e.spool e.grams) t) =
        if amountsOf k entries = [] then t.amount? k
        else some ((amountsOf k entries).foldl (· + ·) ((t.amount? k).getD Scalar.zero)) := by
  induction entries with
  | nil =>
    intro t _
    rfl
  | cons e entries ih =>
    intro t h
    rw [List.foldl_cons, ih _ (h.add e.spool e.grams), amount?_add h]
    by_cases hk : e.spool = k
    · simp only [amountsOf, hk, decide_true, List.filter_cons_of_pos, List.map_cons, if_true,
        Option.getD_some, List.foldl_cons]
      split
      · rename_i hnil
        simp [hnil]
      · rfl
    · have hne : ¬k = e.spool := fun h => hk h.symm
      simp [amountsOf, hk, hne]

end UsageTable

/-! ## Reported usage -/

/-- The finite positive entries for a spool in the order of the list. -/
def positiveAmounts (spool : Uuid) (entries : List (SpoolUsage α)) : List α :=
  UsageTable.amountsOf spool (entries.filter fun e => Scalar.isPositive e.grams)

theorem positiveUsage_sorted (entries : List (SpoolUsage α)) : (positiveUsage entries).Sorted :=
  UsageTable.sorted_foldl_add _ [] List.Pairwise.nil

/-- Exactly the spools with a finite positive entry have an amount, and it is their sum. -/
theorem mem_positiveUsage {entries : List (SpoolUsage α)} {u : SpoolUsage α} :
    u ∈ positiveUsage entries ↔
      positiveAmounts u.spool entries ≠ [] ∧
        u.grams = (positiveAmounts u.spool entries).foldl (· + ·) Scalar.zero := by
  rw [UsageTable.amount?_eq_some (positiveUsage_sorted entries), positiveUsage,
    UsageTable.amount?_foldl_add _ _ [] List.Pairwise.nil, ← positiveAmounts]
  by_cases h : positiveAmounts u.spool entries = []
  · simp [h, UsageTable.amount?]
  · simp [h, UsageTable.amount?, eq_comm]

/-- Where each spool is reported once, its amount is the one that was reported. -/
theorem mem_positiveUsage_of_nodup [LawfulScalar α] {entries : List (SpoolUsage α)}
    (hspools : (entries.map SpoolUsage.spool).Nodup) {u : SpoolUsage α} :
    u ∈ positiveUsage entries ↔ u ∈ entries ∧ Scalar.isPositive u.grams = true := by
  have hamounts : ∀ v ∈ entries, positiveAmounts v.spool entries =
      if Scalar.isPositive v.grams then [v.grams] else [] := by
    intro v hv
    unfold positiveAmounts UsageTable.amountsOf
    rw [List.filter_comm, filter_of_nodup hspools hv]
    cases hpositive : Scalar.isPositive v.grams <;> simp [hpositive]
  have hsum : ∀ v : SpoolUsage α, Scalar.isPositive v.grams = true →
      Scalar.zero + v.grams = v.grams := fun v hpositive =>
    LawfulScalar.zero_add v.grams (Bool.and_eq_true_iff.mp hpositive).2
  rw [mem_positiveUsage]
  constructor
  · intro h
    obtain ⟨hsome, hgrams⟩ := h
    obtain ⟨g, hg⟩ := List.exists_mem_of_ne_nil _ hsome
    obtain ⟨v, hv, rfl⟩ := List.mem_map.mp hg
    obtain ⟨hv, hspool⟩ := List.mem_filter.mp hv
    obtain ⟨hv, hpositive⟩ := List.mem_filter.mp hv
    have hspool : v.spool = u.spool := of_decide_eq_true hspool
    rw [← hspool, hamounts v hv, if_pos hpositive] at hgrams
    obtain rfl : u = v := by
      cases u
      cases v
      exact congrArg₂ SpoolUsage.mk hspool.symm (hgrams.trans (hsum _ hpositive))
    exact ⟨hv, hpositive⟩
  · intro h
    obtain ⟨hu, hpositive⟩ := h
    rw [hamounts u hu, if_pos hpositive]
    exact ⟨List.cons_ne_nil _ _, (hsum u hpositive).symm⟩

end PrintFarm
