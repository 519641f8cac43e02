import PrintFarm.Proofs.History

/-!
# What plates add to items

The counts of an item are what was last written on it by hand and what the plates for it have
brought since then.  A completed plate brings what was reported of it and has to fit; a failed one
brings its whole bed, of which the item counts no more than it has open.

* `Tables.printed` are the plates that are completed or have failed, and `Item.RollsUp` is the law.
* `Tallies` says what an accepted operation does to items and printed plates (`Step.tallies`).
* `lastWriting` is what was last written on an item, and `RolledUp` the law for all items after a
  history.
-/

namespace PrintFarm

open Store

variable {α : Type}

/-! ## The law -/

/-- The plate is completed or has failed. -/
def Plate.isPrinted (p : Plate α) : Bool :=
  p.status = .completed || p.status = .failed

/-- The plates that are completed or have failed. -/
def Tables.printed (t : Tables α) : List (Plate α) :=
  t.plates.filter Plate.isPrinted

/-- The plates for the item that are printed and were not so earlier. -/
def Tables.printedSince (t earlier : Tables α) (i : Item α) : List (Plate α) :=
  t.printed.filter fun p =>
    p.run = i.run && p.model = i.model && !earlier.printed.any fun q => q.id = p.id

/-- The counts of the item are those it started with and those of the plates.  All successful prints
are counted, and of all prints no more than were planned. -/
structure Item.RollsUp (i : Item α) (start : Outcome) (plates : List (Plate α)) : Prop where
  successful : i.successful = start.successful + (plates.map Plate.successful).sum
  total : i.successful + i.failed = min i.quantity
    (start.successful + start.failed + (plates.map fun p => p.successful + p.failed).sum)

/-- The items differ at most in the cost of a print. -/
def Item.SameCounts (i j : Item α) : Prop :=
  { j with actualUnitCost := i.actualUnitCost } = i

theorem Item.SameCounts.keys {i j : Item α} (h : i.SameCounts j) :
    j.id = i.id ∧ j.run = i.run ∧ j.model = i.model := by
  have hid := congrArg Item.id h
  have hrun := congrArg Item.run h
  have hmodel := congrArg Item.model h
  exact ⟨hid, hrun, hmodel⟩

namespace Item.RollsUp

variable {i j : Item α} {start : Outcome} {plates : List (Plate α)}

/-- The order of the plates does not matter. -/
theorem perm {more : List (Plate α)} (h : i.RollsUp start plates) (hperm : more.Perm plates) :
    i.RollsUp start more := by
  constructor
  · rw [(hperm.map _).sum_eq]
    exact h.successful
  · rw [(hperm.map _).sum_eq]
    exact h.total

theorem of_sameCounts (h : i.RollsUp start plates) (hsame : i.SameCounts j) :
    j.RollsUp start plates := by
  rw [← hsame] at h
  exact ⟨h.successful, h.total⟩

/-- Limiting the total at each plate is limiting it once at the end. -/
theorem bring {q : Plate α} (h : i.RollsUp start plates) (hprints : 0 ≤ q.successful + q.failed)
    (hquantity : j.quantity = i.quantity) (hsuccessful : j.successful = i.successful + q.successful)
    (htotal : j.successful + j.failed =
      min i.quantity (i.successful + i.failed + (q.successful + q.failed))) :
    j.RollsUp start (q :: plates) := by
  obtain ⟨hold, hlimited⟩ := h
  constructor
  · rw [List.map_cons, List.sum_cons]
    omega
  · rw [List.map_cons, List.sum_cons]
    omega

variable [Scalar α]

/-- What is written on an item is where its counts start. -/
theorem written (haccepts : acceptsItem i = true) : i.RollsUp i.outcome [] := by
  obtain ⟨-, -, hsum, -⟩ := counts_of_acceptsItem haccepts
  constructor
  · show i.successful = i.successful + 0
    omega
  · show i.successful + i.failed = min i.quantity (i.successful + i.failed + 0)
    omega

/-- A completed plate brings what was reported, and that fits. -/
theorem completed {q : Plate α} {bed : Int} {reported : Outcome} (h : i.RollsUp start plates)
    (hcounts : (printCountComplaints bed reported : List (FieldError α)) = [])
    (hfits : acceptsItem (i.gaining .completed bed reported) = true)
    (hsuccessful : q.successful = reported.successful) (hfailed : q.failed = reported.failed) :
    (i.gaining .completed bed reported).RollsUp start (q :: plates) := by
  obtain ⟨hs, hf, -⟩ := printCountComplaints_eq_nil.mp hcounts
  obtain ⟨-, -, hsum, -⟩ := counts_of_acceptsItem hfits
  have hquantity : (i.gaining .completed bed reported).quantity = i.quantity := rfl
  have hgained : (i.gaining .completed bed reported).successful =
        i.successful + reported.successful ∧
      (i.gaining .completed bed reported).failed = i.failed + reported.failed := ⟨rfl, rfl⟩
  refine h.bring ?_ hquantity ?_ ?_
  · omega
  · omega
  · omega

/-- A failed plate brings its bed, of which the item counts what it has open. -/
theorem failed {q : Plate α} {bed : Int} {reported : Outcome} (h : i.RollsUp start plates)
    (haccepts : acceptsItem i = true) (hbed : 0 ≤ bed) (hsuccessful : q.successful = 0)
    (hfailed : q.failed = bed) :
    (i.gaining .failed bed reported).RollsUp start (q :: plates) := by
  obtain ⟨hs, hf, hsum, hlargest⟩ := counts_of_acceptsItem haccepts
  have hquantity : (i.gaining .failed bed reported).quantity = i.quantity := rfl
  have hgained : (i.gaining .failed bed reported).successful = i.successful + 0 ∧
      (i.gaining .failed bed reported).failed =
        i.failed + min bed (min (max i.openUnits 0) largestCount) := ⟨rfl, rfl⟩
  have hopen : i.openUnits = i.quantity - i.successful - i.failed := rfl
  refine h.bring ?_ hquantity ?_ ?_
  · omega
  · omega
  · omega

end Item.RollsUp

/-! ## Plates since the last writing -/

section Since

variable {t t' earlier : Tables α} {i j : Item α} {q : Plate α}

theorem printedSince_congr (hprinted : t'.printed = t.printed) (hrun : j.run = i.run)
    (hmodel : j.model = i.model) : t'.printedSince earlier j = t.printedSince earlier i := by
  rw [Tables.printedSince, Tables.printedSince, hprinted, hrun, hmodel]

/-- No plate has been printed since now. -/
theorem printedSince_self : t.printedSince t i = [] := by
  refine List.filter_eq_nil_iff.mpr fun p hp hsince => ?_
  simp only [Bool.and_eq_true, Bool.not_eq_true', List.any_eq_false, decide_eq_true_eq] at hsince
  exact hsince.2 p hp rfl

/-- No plate has been printed for an item whose run has no plate. -/
theorem printedSince_of_run (h : ∀ p ∈ t.plates, p.run ≠ i.run) :
    t.printedSince earlier i = [] := by
  refine List.filter_eq_nil_iff.mpr fun p hp hsince => ?_
  simp only [Bool.and_eq_true, decide_eq_true_eq] at hsince
  exact h p (List.mem_of_mem_filter hp) hsince.1.1

/-- A plate that is printed is one more for its own item. -/
theorem printedSince_perm (hprinted : t'.printed.Perm (q :: t.printed))
    (hearlier : ∀ p ∈ earlier.printed, p.id ≠ q.id) :
    (t'.printedSince earlier i).Perm (if q.run = i.run ∧ q.model = i.model then
      q :: t.printedSince earlier i else t.printedSince earlier i) := by
  have hperm : (t'.printedSince earlier i).Perm _ := hprinted.filter _
  by_cases hfor : q.run = i.run ∧ q.model = i.model
  · rw [if_pos hfor]
    rwa [List.filter_cons_of_pos (by simpa [hfor] using hearlier)] at hperm
  · rw [if_neg hfor]
    rwa [List.filter_cons_of_neg (fun hq => hfor (by simp_all))] at hperm

end Since

/-! ## One step -/

/-- The outcome that the operation writes on the item. -/
def Operation.written? (item : Uuid) : Operation α → Option Outcome
  | .updateOutcome _ id outcome => if id = item then some outcome else none
  | _ => none

/-- The operation can change the counts of items that are there. -/
def Operation.isCounting : Operation α → Bool
  | .updateOutcome .. | .completePlate .. | .failPlate .. => true
  | _ => false

theorem Operation.written?_of_not_counting {op : Operation α} (h : op.isCounting = false)
    (item : Uuid) : op.written? item = none := by
  unfold written?
  split
  · exact nomatch h
  · rfl

/-- A plate that has not ended is not printed. -/
theorem Plate.isPrinted_of_open {p : Plate α} (h : p.status.isTerminal = false) :
    p.isPrinted = false := by
  unfold isPrinted
  cases hs : p.status with
  | pending | printing | cancelled => rfl
  | completed | failed =>
    rw [hs] at h
    exact nomatch h

/-- What an accepted operation does to items and printed plates: it keeps them, and may plan new
items for a new run; or it writes an outcome on an item; or a plate is printed, and the item for it
counts what it brings. -/
inductive Tallies (t t' : Tables α) (op : Operation α) : Prop
  | kept {cost : Item α → Item α} {new : List (Item α)}
    (hop : ∀ item, op.written? item = none)
    (hitems : t'.items = t.items.map cost ++ new)
    (hsame : ∀ i : Item α, i.SameCounts (cost i))
    (hnew : ∀ i ∈ new, i.outcome = ⟨0, 0⟩ ∧ ∀ p ∈ t.plates, p.run ≠ i.run)
    (hprinted : t'.printed = t.printed)
  | written {run item : Uuid} {outcome : Outcome}
    (hop : op = .updateOutcome run item outcome) (hitem : ∃ i ∈ t.items, i.id = item)
    (hitems : t'.items =
      changeRows (fun i => i.id = item) (fun i => i.withOutcome outcome) t.items)
    (hprinted : t'.printed = t.printed)
  | brought {p q : Plate α} {gain : Item α → Item α}
    (hop : op.isCounting = true) (hwritten : ∀ item, op.written? item = none)
    (hitems : t'.items = changeRows (fun i => i.run = p.run && i.model = p.model) gain t.items)
    (hkeys : ∀ i, (gain i).id = i.id ∧ (gain i).run = i.run ∧ (gain i).model = i.model)
    (hgain : ∀ i ∈ t.items, i.run = p.run → i.model = p.model → ∀ start plates,
      i.RollsUp start plates → (gain i).RollsUp start (q :: plates))
    (hp : p ∈ t.plates) (hopen : p.isPrinted = false)
    (hq : q.id = p.id ∧ q.run = p.run ∧ q.model = p.model)
    (hprinted : t'.printed.Perm (q :: t.printed))

/-- Where no item changes and no plate is printed, all is kept. -/
theorem Tallies.same {t t' : Tables α} {op : Operation α} (hop : ∀ item, op.written? item = none)
    (hitems : t'.items = t.items) (hprinted : t'.printed = t.printed) : Tallies t t' op := by
  have hkept : t'.items = t.items.map id ++ [] := by
    rw [List.map_id, List.append_nil]
    exact hitems
  exact .kept hop hkept (fun _ => rfl) (by simp) hprinted

section Steps

variable [Scalar α] {catalog : Catalog} {now : Timestamp} {t t' : Tables α} {op : Operation α}

/-- The plates of a run that are still open when it ends are cancelled, and so not printed. -/
theorem printed_closed {r : Run α} {ending : RunEnding α} {rows : List (Deduction α)} :
    (t.closed now r ending rows).printed = t.printed := by
  refine filter_changeRows_of_not fun p _ hsel => ⟨?_, rfl⟩
  refine Plate.isPrinted_of_open ?_
  simpa using (Bool.and_eq_true_iff.mp hsel).2

/-- A plate that is moved to a status that is not printed was not printed before. -/
theorem printed_moved (ht : t.Consistent) {p : Plate α} (hp : p ∈ t.plates)
    (hopen : p.isPrinted = false) {change : Plate α → Plate α}
    (hchange : (change p).isPrinted = false) :
    (changeRows (fun q => q.id = p.id) change t.plates).filter Plate.isPrinted = t.printed := by
  refine filter_changeRows_of_not fun q hq hsel => ?_
  obtain rfl := eq_of_key_eq ht.plateIds hq hp (of_decide_eq_true hsel)
  exact ⟨hopen, hchange⟩

/-- What becomes of items and printed plates where a plate moves. -/
theorem tallies_movePlate (ht : t.Consistent) {run plate : Uuid} {next : PlateStatus}
    {move : PlateMove α} {p : Plate α} (hmoves : MovesPlate now op run plate next move)
    (hp : p ∈ t.plates) (hid : p.id = plate) (hrun : p.run = run)
    (hnext : p.status.canBecome next = true)
    (hcounts : next = .completed →
      (printCountComplaints p.printsPerPlate move.reported : List (FieldError α)) = [])
    (hfits : ∀ i ∈ t.items, i.run = run → i.model = p.model →
      acceptsItem (i.gaining next p.printsPerPlate move.reported) = true)
    (hitems : t'.items = changeRows (fun i => i.run = run && i.model = p.model)
      (fun i => i.gaining next p.printsPerPlate move.reported) t.items)
    (hplates : t'.plates = changeRows (fun p => p.id = plate)
      (movedPlate now next (move.counted next p.printsPerPlate)) t.plates) :
    Tallies t t' op := by
  subst hid hrun
  have hopen := Plate.isPrinted_of_open (PlateStatus.not_isTerminal_of_canBecome hnext)
  have hunprinted : (movedPlate now next (move.counted next p.printsPerPlate) p).isPrinted =
      false → t'.printed = t.printed := by
    intro hmoved
    rw [← printed_moved ht hp hopen hmoved, ← hplates]
    rfl
  have hprinted : (movedPlate now next (move.counted next p.printsPerPlate) p).isPrinted =
      true → t'.printed.Perm
        (movedPlate now next (move.counted next p.printsPerPlate) p :: t.printed) := by
    intro hmoved
    rw [Tables.printed, hplates]
    exact filter_changeRows_perm ht.plateIds hp hopen hmoved
  have hkept : (∀ i ∈ t.items, i.gaining next p.printsPerPlate move.reported = i) →
      t'.items = t.items := by
    intro hsame
    rw [hitems]
    exact changeRows_eq_self fun i hi _ => hsame i hi
  cases hmoves with
  | start =>
    refine .same (fun _ => rfl) (hkept fun i _ => ?_) (hunprinted rfl)
    exact Workflow.gaining_of_isEmpty rfl
  | cancel =>
    refine .same (fun _ => rfl) (hkept fun i _ => ?_) (hunprinted rfl)
    exact Workflow.gaining_of_isEmpty rfl
  | complete =>
    have hperm := hprinted rfl
    refine .brought rfl (fun _ => rfl) hitems (fun _ => ⟨rfl, rfl, rfl⟩) ?_ hp hopen ?_ hperm
    · exact fun i hi hrun hmodel start plates h =>
        h.completed (hcounts rfl) (hfits i hi hrun hmodel) rfl rfl
    · exact ⟨rfl, rfl, rfl⟩
  | fail =>
    have hperm := hprinted rfl
    refine .brought rfl (fun _ => rfl) hitems (fun _ => ⟨rfl, rfl, rfl⟩) ?_ hp hopen ?_ hperm
    · intro i hi _ _ start plates h
      refine h.failed (ht.outcomes i hi) ?_ rfl rfl
      have hbed := ht.beds p hp
      simp only [acceptsPlate, Bool.and_eq_true, decide_eq_true_eq] at hbed
      omega
    · exact ⟨rfl, rfl, rfl⟩

/-- Every accepted operation keeps the counts, or writes them, or lets a plate bring its prints. -/
theorem Step.tallies (ht : t.Consistent) (h : Step catalog now t op t') : Tallies t t' op := by
  cases h with
  | read hread =>
    refine .same (fun item => Operation.written?_of_not_counting ?_ item) rfl rfl
    cases op <;> first | rfl | exact nomatch hread
  | @createRun _ _ _ _ items _ _ _ _ hid _ hnew =>
    have hitems : t.items ++ items = t.items.map id ++ items := by rw [List.map_id]
    refine .kept (fun _ => rfl) hitems (fun _ => rfl) (fun i hi => ?_) rfl
    obtain ⟨new, -, hrow, -⟩ := exists_of_forall₂ hnew hi
    rw [hrow]
    refine ⟨rfl, fun p hp hrun => ?_⟩
    obtain ⟨r, hr, hpr⟩ := List.mem_map.mp (ht.plateRuns p hp)
    exact hid r hr (hpr.trans hrun)
  | @close _ r ending _ _ rows _ _ hcloses =>
    have hitems := (List.append_nil (t.closed now r ending rows).items).symm
    refine .kept (fun item => ?_) hitems (fun i => ?_) (by simp) printed_closed
    · cases hcloses <;> rfl
    · split <;> rfl
  | updateOutcome _ hi hid => exact .written rfl ⟨_, hi, hid⟩ rfl rfl
  | createPlate _ _ _ hrow =>
    refine .same (fun _ => rfl) rfl ?_
    show (t.plates ++ [_]).filter Plate.isPrinted = _
    rw [List.filter_append, hrow]
    exact List.append_nil _
  | updatePlate _ _ hp hid _ hopen =>
    subst hid
    have hopen := Plate.isPrinted_of_open hopen
    exact .same (fun _ => rfl) rfl (printed_moved ht hp hopen hopen)
  | @deletePlate _ plate _ _ hp hid _ hpending =>
    refine .same (fun _ => rfl) rfl ?_
    show (t.plates.filter _).filter Plate.isPrinted = _
    rw [List.filter_filter]
    refine List.filter_congr fun q hq => ?_
    by_cases hqid : q.id = plate
    · obtain rfl := eq_of_key_eq ht.plateIds hq hp (hqid.trans hid.symm)
      simp [Plate.isPrinted, hpending]
    · simp [hqid]
  | movePlate hmoves _ hp hid hrun hnext hcounts _ hfits =>
    exact tallies_movePlate ht hmoves hp hid hrun hnext hcounts hfits rfl rfl
  | _ => exact .same (fun _ => rfl) rfl rfl

end Steps

/-! ## All steps -/

/-- An outcome that was written on an item, and the tables after that.  Before anything is written,
an item has no prints and no plate is printed. -/
structure Writing (α : Type) where
  outcome : Outcome := ⟨0, 0⟩
  tables : Tables α := {}

variable [Scalar α]

/-- What was written on the item, if the event was accepted and has written on it. -/
def Moment.writing? (item : Uuid) (m : Moment α) : Option (Writing α) :=
  if m.isAccepted then
    (m.event.operation.written? item).map fun outcome => ⟨outcome, m.after.tables⟩
  else none

/-- What was last written on the item. -/
def lastWriting (item : Uuid) (past : List (Moment α)) : Writing α :=
  (past.filterMap (Moment.writing? item)).getLast?.getD {}

theorem lastWriting_concat {item : Uuid} {past : List (Moment α)} {m : Moment α} :
    lastWriting item (past ++ [m]) = (m.writing? item).getD (lastWriting item past) := by
  rw [lastWriting, getLast?_filterMap_concat, Option.getD_or]
  rfl

/-- The law for all items.  Plates that were printed when an item was last written are printed
still, and nothing was written on an item that is not there. -/
structure RolledUp (past : List (Moment α)) (t : Tables α) : Prop where
  law : ∀ i ∈ t.items, i.RollsUp (lastWriting i.id past).outcome
    (t.printedSince (lastWriting i.id past).tables i)
  remain : ∀ item, ∀ p ∈ (lastWriting item past).tables.printed, ∃ q ∈ t.printed, q.id = p.id
  unwritten : ∀ item, (∀ i ∈ t.items, i.id ≠ item) → lastWriting item past = {}

namespace RolledUp

variable {past later : List (Moment α)} {t t' : Tables α}

theorem fresh (start : Sequences) : RolledUp [] (Database.fresh start : Database α).tables := by
  refine ⟨fun i hi => absurd hi List.not_mem_nil, fun item p hp => ?_, fun _ _ => rfl⟩
  exact absurd hp List.not_mem_nil

/-- The law holds on where all is kept, and of new items. -/
theorem of_kept {cost : Item α → Item α} {new : List (Item α)} (h : RolledUp past t)
    (hlast : ∀ item, lastWriting item later = lastWriting item past)
    (ht' : t'.Consistent) (hitems : t'.items = t.items.map cost ++ new)
    (hsame : ∀ i : Item α, i.SameCounts (cost i))
    (hnew : ∀ i ∈ new, i.outcome = ⟨0, 0⟩ ∧ ∀ p ∈ t.plates, p.run ≠ i.run)
    (hprinted : t'.printed = t.printed) : RolledUp later t' := by
  have hid : ∀ i : Item α, (cost i).id = i.id := fun i => (hsame i).keys.1
  refine ⟨fun i hi => ?_, fun item p hp => ?_, fun item hother => ?_⟩
  · rw [hlast]
    have hmem := hi
    rw [hitems] at hmem
    rcases List.mem_append.mp hmem with hold | hadded
    · obtain ⟨j, hj, rfl⟩ := List.mem_map.mp hold
      obtain ⟨-, hrun, hmodel⟩ := (hsame j).keys
      rw [hid, printedSince_congr hprinted hrun hmodel]
      exact (h.law j hj).of_sameCounts (hsame j)
    · obtain ⟨hzero, hplates⟩ := hnew i hadded
      have hids := ht'.itemIds
      rw [hitems, List.map_append] at hids
      have hunwritten : lastWriting i.id past = {} := by
        refine h.unwritten i.id fun j hj hji => ?_
        refine (List.nodup_append.mp hids).2.2 (cost j).id ?_ i.id ?_ ((hid j).trans hji)
        · exact List.mem_map_of_mem (List.mem_map_of_mem hj)
        · exact List.mem_map_of_mem hadded
      rw [hunwritten, printedSince_congr hprinted rfl rfl, printedSince_of_run hplates]
      show i.RollsUp ⟨0, 0⟩ []
      rw [← hzero]
      exact .written (ht'.outcomes i hi)
  · rw [hlast] at hp
    rw [hprinted]
    exact h.remain item p hp
  · rw [hlast]
    refine h.unwritten item fun j hj hji => hother (cost j) ?_ ((hid j).trans hji)
    rw [hitems]
    exact List.mem_append_left _ (List.mem_map_of_mem hj)

/-- The law starts anew for an item that is written. -/
theorem of_written {item : Uuid} {outcome : Outcome} (h : RolledUp past t)
    (hlast : lastWriting item later = ⟨outcome, t'⟩)
    (hothers : ∀ id, id ≠ item → lastWriting id later = lastWriting id past)
    (ht' : t'.Consistent) (hitem : ∃ i ∈ t.items, i.id = item)
    (hitems : t'.items =
      changeRows (fun i => i.id = item) (fun i => i.withOutcome outcome) t.items)
    (hprinted : t'.printed = t.printed) : RolledUp later t' := by
  refine ⟨fun i hi => ?_, fun id p hp => ?_, fun id hother => ?_⟩
  · have hmem := hi
    rw [hitems] at hmem
    obtain ⟨j, hj, hij⟩ := mem_changeRows.mp hmem
    by_cases hid : j.id = item
    · rw [if_pos (by simpa using hid)] at hij
      have hsame : i.id = item := by
        rw [hij]
        exact hid
      have hout : i.outcome = outcome := by
        rw [hij]
        rfl
      rw [hsame, hlast, printedSince_self, ← hout]
      exact .written (ht'.outcomes i hi)
    · rw [if_neg (by simpa using hid)] at hij
      subst hij
      rw [hothers i.id hid, printedSince_congr hprinted rfl rfl]
      exact h.law i hj
  · by_cases hid : id = item
    · rw [hid, hlast] at hp
      exact ⟨p, hp, rfl⟩
    · rw [hothers id hid] at hp
      rw [hprinted]
      exact h.remain id p hp
  · have hkeep : ∀ j ∈ t.items, j.id ≠ id := by
      intro j hj
      have hj' : (if j.id = item then j.withOutcome outcome else j) ∈ t'.items := by
        rw [hitems]
        exact mem_changeRows.mpr ⟨j, hj, by simp⟩
      have hne := hother _ hj'
      split at hne <;> exact hne
    have hid : id ≠ item := by
      intro h
      obtain rfl := h
      obtain ⟨j, hj, hji⟩ := hitem
      exact hkeep j hj hji
    rw [hothers id hid]
    exact h.unwritten id hkeep

/-- The item for a plate that is printed counts it. -/
theorem of_brought {p q : Plate α} {gain : Item α → Item α} (h : RolledUp past t)
    (ht : t.Consistent) (hlast : ∀ item, lastWriting item later = lastWriting item past)
    (hitems : t'.items = changeRows (fun i => i.run = p.run && i.model = p.model) gain t.items)
    (hkeys : ∀ i, (gain i).id = i.id ∧ (gain i).run = i.run ∧ (gain i).model = i.model)
    (hgain : ∀ i ∈ t.items, i.run = p.run → i.model = p.model → ∀ start plates,
      i.RollsUp start plates → (gain i).RollsUp start (q :: plates))
    (hp : p ∈ t.plates) (hopen : p.isPrinted = false)
    (hq : q.id = p.id ∧ q.run = p.run ∧ q.model = p.model)
    (hprinted : t'.printed.Perm (q :: t.printed)) : RolledUp later t' := by
  have hearlier : ∀ item, ∀ r ∈ (lastWriting item past).tables.printed, r.id ≠ q.id := by
    intro item r hr hrq
    obtain ⟨s, hs, hsr⟩ := h.remain item r hr
    obtain ⟨hs, hsprinted⟩ := List.mem_filter.mp hs
    obtain rfl := eq_of_key_eq ht.plateIds hs hp (hsr.trans (hrq.trans hq.1))
    rw [hopen] at hsprinted
    exact nomatch hsprinted
  refine ⟨fun i hi => ?_, fun item r hr => ?_, fun item hother => ?_⟩
  · rw [hlast]
    rw [hitems] at hi
    obtain ⟨j, hj, rfl⟩ := mem_changeRows.mp hi
    have hperm := printedSince_perm (i := j) hprinted (hearlier j.id)
    by_cases hfor : j.run = p.run ∧ j.model = p.model
    · rw [if_pos (by simpa using hfor), (hkeys j).1,
        printedSince_congr rfl (hkeys j).2.1 (hkeys j).2.2]
      rw [hq.2.1, hq.2.2, if_pos ⟨hfor.1.symm, hfor.2.symm⟩] at hperm
      exact (hgain j hj hfor.1 hfor.2 _ _ (h.law j hj)).perm hperm
    · rw [if_neg (by simpa using hfor)]
      rw [hq.2.1, hq.2.2, if_neg fun heq => hfor ⟨heq.1.symm, heq.2.symm⟩] at hperm
      exact (h.law j hj).perm hperm
  · rw [hlast] at hr
    obtain ⟨s, hs, hsr⟩ := h.remain item r hr
    exact ⟨s, hprinted.mem_iff.mpr (List.mem_cons_of_mem _ hs), hsr⟩
  · rw [hlast]
    refine h.unwritten item fun j hj hji => ?_
    have hj' : (if j.run = p.run && j.model = p.model then gain j else j) ∈ t'.items := by
      rw [hitems]
      exact mem_changeRows.mpr ⟨j, hj, rfl⟩
    refine hother _ hj' ?_
    split
    · exact (hkeys j).1.trans hji
    · exact hji

/-- Every event keeps the law. -/
theorem after {e : Event α} {db : Database α} (hdb : db.Sound) (h : RolledUp past db.tables) :
    RolledUp (past ++ [⟨e, db⟩]) (e.after db).tables := by
  have hnext := (e.sound_after hdb).consistent
  rcases e.step_or_refused hdb with ⟨_, hrun, hstep⟩ | ⟨_, hrun, hsame⟩
  · have haccepted : (⟨e, db⟩ : Moment α).isAccepted = true := Moment.isAccepted_of_ok hrun
    have hwriting : ∀ item, lastWriting item (past ++ [⟨e, db⟩]) =
        ((e.operation.written? item).map fun o => ⟨o, (e.after db).tables⟩).getD
          (lastWriting item past) := by
      intro item
      rw [lastWriting_concat, Moment.writing?, if_pos haccepted]
      rfl
    cases hstep.tallies hdb.consistent with
    | kept hop hitems hcost hnew hprinted =>
      refine h.of_kept (fun item => ?_) hnext hitems hcost hnew hprinted
      rw [hwriting, hop]
      rfl
    | @written _ item _ hop hitem hitems hprinted =>
      refine h.of_written ?_ (fun id hid => ?_) hnext hitem hitems hprinted
      · rw [hwriting, hop, Operation.written?, if_pos rfl]
        rfl
      · rw [hwriting, hop, Operation.written?, if_neg (Ne.symm hid)]
        rfl
    | brought _ hwritten hitems hkeys hgain hp hopen hq hprinted =>
      refine h.of_brought hdb.consistent (fun item => ?_) hitems hkeys hgain hp hopen hq hprinted
      rw [hwriting, hwritten]
      rfl
  · have hrefused : (⟨e, db⟩ : Moment α).isAccepted = false := Moment.isAccepted_of_error hrun
    have hlast : ∀ item, lastWriting item (past ++ [⟨e, db⟩]) = lastWriting item past := by
      intro item
      rw [lastWriting_concat, Moment.writing?, hrefused]
      rfl
    have hitems : (e.after db).tables.items = db.tables.items.map id ++ [] := by
      rw [hsame, List.map_id, List.append_nil]
    exact h.of_kept hlast hnext hitems (fun _ => rfl) (by simp) (by rw [hsame])

end RolledUp

/-- An operation that does not count prints leaves the counts of items and the printed plates. -/
theorem Moment.keeps_counts {m : Moment α} (hm : m.before.Sound)
    (hop : m.event.operation.isCounting = false) :
    m.after.tables.printed = m.before.tables.printed ∧
      ∀ i ∈ m.before.tables.items, ∃ j ∈ m.after.tables.items, i.SameCounts j := by
  rw [Moment.after]
  rcases m.event.step_or_refused hm with ⟨_, -, hstep⟩ | ⟨_, -, hsame⟩
  · cases hstep.tallies hm.consistent with
    | kept _ hitems hcost _ hprinted =>
      refine ⟨hprinted, fun i hi => ⟨_, ?_, hcost i⟩⟩
      rw [hitems]
      exact List.mem_append_left _ (List.mem_map_of_mem hi)
    | written hwritten =>
      rw [hwritten] at hop
      exact nomatch hop
    | brought hcounting =>
      rw [hcounting] at hop
      exact nomatch hop
  · rw [hsame]
    exact ⟨rfl, fun i hi => ⟨i, hi, rfl⟩⟩

/-- After every history, the counts of an item are what was last written on it and what the plates
of its run and model bring that were completed or have failed since; and no operation changes the
counts of an item that is there but writing on it and completing or failing a plate. -/
theorem plates_roll_up (start : Sequences) (events : List (Event α)) :
    let past := (Database.fresh start).history events
    let t := ((Database.fresh start).afterAll events).tables
    (∀ i ∈ t.items, i.RollsUp (lastWriting i.id past).outcome
      (t.printedSince (lastWriting i.id past).tables i)) ∧
    ∀ m ∈ past, m.event.operation.isCounting = false →
      m.after.tables.printed = m.before.tables.printed ∧
        ∀ i ∈ m.before.tables.items, ∃ j ∈ m.after.tables.items, i.SameCounts j := by
  have hfresh : (Database.fresh start : Database α).Sound := .fresh start
  have hrolled := Database.history_induction (motive := fun past db => RolledUp past db.tables)
    hfresh (.fresh start) (fun _ _ _ hdb h => h.after hdb) events
  exact ⟨hrolled.law, fun m hm hop => m.keeps_counts (Database.sound_of_mem_history hfresh hm) hop⟩

/-- Two beds of three fail, and the item that plans four prints counts four. -/
example :
    let uuid := Uuid.numbered
    let events : List (Operation Rat) := [
      .createRun ⟨⟨none, 1, none, none, none, none, none⟩,
        [⟨uuid 9 1, none, 4, none, none, none⟩], []⟩,
      .createPlate (uuid 2 1) ⟨uuid 9 1, none, none, none, 3, none, none, none⟩,
      .createPlate (uuid 2 1) ⟨uuid 9 1, none, none, none, 3, none, none, none⟩,
      .failPlate (uuid 2 1) (uuid 5 1) none,
      .failPlate (uuid 2 1) (uuid 5 2) none]
    let t := ((Database.fresh {}).afterAll (events.map (Event.mk .builtin ⟨0, 0⟩))).tables
    t.items.map (fun i => (i.successful, i.failed)) = [(0, 4)] ∧
      t.printed.map (fun p => (p.successful, p.failed)) = [(0, 3), (0, 3)] := by
  decide +kernel

end PrintFarm
