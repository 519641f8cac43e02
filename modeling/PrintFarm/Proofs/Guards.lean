import PrintFarm.Proofs.Validation

/-!
# Checks and guards

What an operation may do to an item or a plate is said twice.  A check looks at the row that was
read and complains, and the query that writes is guarded: it takes only rows that satisfy a condition
of its own, and tells that it took none.  The two agree on every row of consistent tables.

* `Item.Guarded`: counts are added exactly where the check has no complaint.  The check asks for two
  counts and the guard for their sum, so this rests on what holds of the counts of a row.
* `Plate.Guarded`: each check of a status refuses exactly the plates that the query passes over.
-/

namespace PrintFarm

open Store Tx

variable {α : Type}

/-- An answer is given once. -/
theorem Tx.Gives.unique {β : Type} {x : Tx α β} {db db₁ db₂ : Database α} {b c : β}
    (hb : Gives x db b db₁) (hc : Gives x db c db₂) : b = c ∧ db₁ = db₂ := by
  obtain ⟨houtcome, hdb⟩ := Prod.mk.inj (hb.symm.trans hc)
  exact ⟨Except.ok.inj houtcome, hdb⟩

/-! ## Items -/

/-- The check asks that both counts fit, that none is below zero, and that they are within the
plan. -/
theorem Item.rollupComplaints_eq_nil {i : Item α} {added : Outcome} :
    i.rollupComplaints added = [] ↔
      (fitsCount (i.outcome.plus added).successful = true ∧
        fitsCount (i.outcome.plus added).failed = true) ∧
      ((i.outcome.plus added).complaints "item." i.quantity : List (FieldError α)) = [] := by
  unfold rollupComplaints
  by_cases hfits : (fitsCount (i.outcome.plus added).successful &&
      fitsCount (i.outcome.plus added).failed) = true
  · simp [hfits, ← Bool.and_eq_true]
  · simp [hfits, ← Bool.and_eq_true]

/-- Whether counts fit makes no difference where the plan fits: what does not fit is below zero or
beyond the plan. -/
theorem Item.rollupComplaints_eq_nil_iff {i : Item α} (hlargest : i.quantity ≤ largestCount)
    {added : Outcome} :
    i.rollupComplaints added = [] ↔
      0 ≤ (i.outcome.plus added).successful ∧ 0 ≤ (i.outcome.plus added).failed ∧
        (i.outcome.plus added).successful + (i.outcome.plus added).failed ≤ i.quantity := by
  rw [rollupComplaints_eq_nil, Outcome.complaints_eq_nil]
  refine and_iff_right_of_imp fun h => ?_
  rw [fitsCount_iff, fitsCount_iff]
  omega

/-- A lost bed that is capped at what the item has open can be added to it. -/
theorem Item.rollupComplaints_gained_failed {i : Item α} (hlargest : i.quantity ≤ largestCount)
    (hsuccessful : 0 ≤ i.successful) (hfailed : 0 ≤ i.failed)
    (hsum : i.successful + i.failed ≤ i.quantity) {bed : Int} (hbed : 0 ≤ bed)
    (reported : Outcome) : i.rollupComplaints (i.gained .failed bed reported) = [] := by
  have hopen : i.openUnits = i.quantity - i.successful - i.failed := rfl
  have htotal : (i.outcome.plus (i.gained .failed bed reported)).successful = i.successful + 0 ∧
      (i.outcome.plus (i.gained .failed bed reported)).failed =
        i.failed + min bed (min (max i.openUnits 0) largestCount) := ⟨rfl, rfl⟩
  rw [rollupComplaints_eq_nil_iff hlargest]
  omega

variable [Scalar α] {db : Database α}

/-- Counts can be added to the item as the check says: they are where it has no complaint, and else
the item is passed over. -/
def Item.Guarded (db : Database α) (i : Item α) : Prop :=
  ∀ added : Outcome, 0 ≤ added.successful → 0 ≤ added.failed →
    (i.rollupComplaints added = [] ↔ ∃ db', Gives (addOutcome i.id added) db 1 db') ∧
    (i.rollupComplaints added ≠ [] ↔ Gives (addOutcome i.id added) db 0 db)

/-- What the check lets through is within the plan, and the converse for counts from zero up. -/
theorem Item.rollupComplaints_eq_nil_iff_le {i : Item α} (hi : acceptsItem i = true)
    {added : Outcome} (hsuccessful : 0 ≤ added.successful) (hfailed : 0 ≤ added.failed) :
    i.rollupComplaints added = [] ↔
      (i.outcome.plus added).successful + (i.outcome.plus added).failed ≤ i.quantity := by
  obtain ⟨hs, hf, -, hlargest⟩ := counts_of_acceptsItem hi
  have htotal : (i.outcome.plus added).successful = i.successful + added.successful ∧
      (i.outcome.plus added).failed = i.failed + added.failed := ⟨rfl, rfl⟩
  rw [rollupComplaints_eq_nil_iff hlargest]
  omega

/-- Counts that the check lets through are added. -/
theorem gives_addOutcome_of_check (hdb : db.tables.Consistent) {i : Item α}
    (hi : i ∈ db.tables.items) {added : Outcome} (h : i.rollupComplaints added = []) :
    ∃ db', Gives (addOutcome i.id added) db 1 db' := by
  obtain ⟨-, hvalid⟩ := Item.rollupComplaints_eq_nil.mp h
  have haccepts := acceptsItem_withOutcome (hdb.outcomes i hi) hvalid
  obtain ⟨-, -, hsum, -⟩ := counts_of_acceptsItem haccepts
  exact ⟨_, gives_addOutcome.mpr
    (Or.inl ⟨i, find?_of_nodup hdb.itemIds hi, hsum, haccepts, rfl, rfl⟩)⟩

theorem Item.guarded (hdb : db.tables.Consistent) {i : Item α} (hi : i ∈ db.tables.items) :
    i.Guarded db := by
  intro added hsuccessful hfailed
  have hfound := find?_of_nodup hdb.itemIds hi
  have hcheck := Item.rollupComplaints_eq_nil_iff_le (hdb.outcomes i hi) hsuccessful hfailed
  refine ⟨⟨gives_addOutcome_of_check hdb hi, fun h => ?_⟩, fun h => ?_, fun h hnone => ?_⟩
  · obtain ⟨db', h⟩ := h
    rcases gives_addOutcome.mp h with ⟨j, hj, hsum, -⟩ | ⟨-, hzero, -⟩
    · obtain rfl := Option.some.inj (hfound.symm.trans hj)
      exact hcheck.mpr hsum
    · exact nomatch hzero
  · refine gives_addOutcome.mpr (Or.inr ⟨fun j hj => ?_, rfl, rfl⟩)
    obtain rfl := Option.some.inj (hfound.symm.trans hj)
    exact Int.not_le.mp fun hsum => h (hcheck.mpr hsum)
  · obtain ⟨db', hone⟩ := gives_addOutcome_of_check hdb hi hnone
    exact nomatch (hone.unique h).1

/-! ## Plates -/

section Plates

variable {p : Plate α}

/-- New details pass over a plate that may not be edited. -/
theorem Plate.not_editable_iff (hdb : db.tables.Consistent) (hp : p ∈ db.tables.plates)
    (now : Timestamp) (action : String) {patch : PlatePatch α}
    (htexts : allStorable [patch.name, patch.notes] = true) :
    p.checkEditable action ≠ .ok () ↔ Gives (updatePlate now p.id patch) db none db := by
  rw [gives_updatePlate_none, find?_key_eq_none hdb.plateIds hp, ne_eq, checkEditable_eq_ok]
  simp [htexts]

/-- A move passes over a plate that may not make it, whatever status it is expected in. -/
theorem Plate.not_movable_iff (hdb : db.tables.Consistent) (hp : p ∈ db.tables.plates)
    (now : Timestamp) (action : String) {next : PlateStatus} {move : PlateMove α}
    (htexts : allStorable [move.notes] = true) :
    p.checkMove next action ≠ .ok () ↔ ∀ current, current.canBecome next = true →
      Gives (movePlate now p.id current next move) db none db := by
  simp only [gives_movePlate_none, find?_key_eq_none hdb.plateIds hp, ne_eq, checkMove_eq_ok,
    htexts, and_true, true_and, decide_eq_false_iff_not]
  constructor
  · rintro hfalse current hcurrent rfl
    exact hfalse hcurrent
  · exact fun h hcan => h p.status hcan rfl

/-- Deleting passes over a plate that may not be deleted. -/
theorem Plate.not_deletable_iff (hdb : db.tables.Consistent) (hp : p ∈ db.tables.plates) :
    p.checkDeletable ≠ .ok () ↔ Gives (deletePendingPlate p.run p.id) db 0 db := by
  rw [gives_deletePendingPlate, ne_eq, checkDeletable_eq_ok]
  constructor
  · intro hstarted
    have hmissed : ∀ q ∈ db.tables.plates,
        (decide (q.id = p.id) && decide (q.run = p.run) && decide (q.status = .pending)) =
          false := by
      intro q hq
      by_cases hid : q.id = p.id
      · obtain rfl := eq_of_key_eq hdb.plateIds hq hp hid
        simp [hstarted]
      · simp [hid]
    refine ⟨?_, (List.countP_eq_zero.mpr fun q hq => by simp [hmissed q hq]).symm⟩
    rw [List.filter_eq_self.mpr fun q hq => by simp [hmissed q hq]]
  · intro h hpending
    have hmissed := List.countP_eq_zero.mp h.2.symm p hp
    simp [hpending] at hmissed

/-- The end of a run cancels its plates that may be edited, and passes over the others. -/
theorem Plate.find?_cancelOpenPlates (hdb : db.tables.Consistent) (hp : p ∈ db.tables.plates)
    {now ended : Timestamp} (action : String) {n : Nat} {db' : Database α}
    (h : Gives (cancelOpenPlates now p.run ended) db n db') :
    db'.tables.plates.find? (fun q => q.id = p.id) =
      some (if (p.checkEditable action).isOk then cancelledPlate now ended p else p) := by
  obtain ⟨rfl, -⟩ := gives_cancelOpenPlates.mp h
  show (changeRows (fun q => q.run = p.run && !q.status.isTerminal) (cancelledPlate now ended)
    db.tables.plates).find? (fun q => q.id = p.id) = _
  rw [find?_changeRows, find?_of_nodup hdb.plateIds hp, Option.map_some, checkEditable]
  · cases p.status.isTerminal <;> simp [Except.isOk, Except.toBool]
  · exact fun _ _ _ => rfl

/-- The queries that change the plate pass over it exactly where the checks of its status refuse. -/
structure Plate.Guarded (db : Database α) (p : Plate α) : Prop where
  edited : ∀ now action (patch : PlatePatch α), allStorable [patch.name, patch.notes] = true →
    (p.checkEditable action ≠ .ok () ↔ Gives (updatePlate now p.id patch) db none db)
  moved : ∀ now action next (move : PlateMove α), allStorable [move.notes] = true →
    (p.checkMove next action ≠ .ok () ↔ ∀ current, current.canBecome next = true →
      Gives (movePlate now p.id current next move) db none db)
  deleted : p.checkDeletable ≠ .ok () ↔ Gives (deletePendingPlate p.run p.id) db 0 db
  cancelled : ∀ now ended action n db', Gives (cancelOpenPlates now p.run ended) db n db' →
    db'.tables.plates.find? (fun q => q.id = p.id) =
      some (if (p.checkEditable action).isOk then cancelledPlate now ended p else p)

theorem Plate.guarded (hdb : db.tables.Consistent) (hp : p ∈ db.tables.plates) :
    p.Guarded db where
  edited now action _ htexts := not_editable_iff hdb hp now action htexts
  moved now action _ _ htexts := not_movable_iff hdb hp now action htexts
  deleted := not_deletable_iff hdb hp
  cancelled _ _ action _ _ h := find?_cancelOpenPlates hdb hp action h

end Plates

end PrintFarm
