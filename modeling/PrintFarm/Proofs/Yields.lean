import PrintFarm.Proofs.Lifecycles

/-!
# Yields

A view tells how many prints of a run were planned, how many came out and how many plates there are
in each status.  Whatever was done to the run, these figures have a meaning.

* An item counts no more prints than it plans (`Item.WithinPlan`), so a run does not either
  (`ItemTotals.within_ofItems`), and no total leaves its 64 bits on the way.
* Every run has an item (`Tables.Planned`): it is created with one, and no operation takes an item
  away (`Step.planned`).  So there is a rate of success, and it is 100 exactly if all prints
  succeeded (`ItemTotals.successRate_bounds`).
* `Snapshot.IsMeaningful` puts this together, and `yields_meaningful` says that every run is shown
  with such a view.
-/

namespace PrintFarm

open Store

variable {α : Type}

/-! ## Items -/

/-- The item counts no more prints than it plans, and it plans at least one. -/
structure Item.WithinPlan (i : Item α) : Prop where
  successful : 0 ≤ i.successful
  failed : 0 ≤ i.failed
  counted : i.successful + i.failed ≤ i.quantity
  planned : 1 ≤ i.quantity
  largest : i.quantity ≤ largestCount

/-- The tables take no other items. -/
theorem Item.withinPlan_of_accepts [Scalar α] {i : Item α} (h : acceptsItem i = true) :
    i.WithinPlan := by
  obtain ⟨hsuccessful, hfailed, hcounted, hlargest⟩ := counts_of_acceptsItem h
  refine ⟨hsuccessful, hfailed, hcounted, ?_, hlargest⟩
  simp only [acceptsItem, Bool.and_eq_true, decide_eq_true_eq] at h
  obtain ⟨⟨⟨⟨⟨-, hplanned⟩, -⟩, -⟩, -⟩, -⟩ := h
  exact hplanned

/-! ## Totals -/

namespace ItemTotals

/-- The totals are from zero up, no more is counted than planned, and of each item at least one
print is planned and at most the largest count. -/
structure Within (t : ItemTotals) (items : Nat) : Prop where
  successful : 0 ≤ t.successful
  failed : 0 ≤ t.failed
  counted : t.successful + t.failed ≤ t.planned
  planned : items ≤ t.planned
  largest : t.planned ≤ items * largestCount

theorem ofItems_cons (i : Item α) (items : List (Item α)) : ofItems (i :: items) =
    ⟨i.quantity + (ofItems items).planned, i.successful + (ofItems items).successful,
      i.failed + (ofItems items).failed⟩ :=
  rfl

variable {items : List (Item α)}

theorem within_ofItems (h : ∀ i ∈ items, i.WithinPlan) : (ofItems items).Within items.length := by
  induction items with
  | nil => constructor <;> simp [ofItems]
  | cons i items ih =>
    obtain ⟨hi, hrest⟩ := List.forall_mem_cons.mp h
    obtain ⟨hsuccessful, hfailed, hcounted, hplanned, hlargest⟩ := ih hrest
    rw [ofItems_cons, List.length_cons]
    constructor <;> push_cast
    · exact add_nonneg hi.successful hsuccessful
    · exact add_nonneg hi.failed hfailed
    · have hitem := hi.counted
      omega
    · have hitem := hi.planned
      omega
    · have hitem := hi.largest
      rw [add_mul, one_mul]
      omega

/-- All planned prints succeeded if those of every item did. -/
theorem successful_eq_planned_iff (h : ∀ i ∈ items, i.WithinPlan) :
    (ofItems items).successful = (ofItems items).planned ↔
      ∀ i ∈ items, i.successful = i.quantity := by
  induction items with
  | nil => simp [ofItems]
  | cons i items ih =>
    obtain ⟨hi, hrest⟩ := List.forall_mem_cons.mp h
    obtain ⟨-, hfailed, hcounted, -, -⟩ := within_ofItems hrest
    have hitem := hi.failed
    have hitem' := hi.counted
    rw [List.forall_mem_cons, ← ih hrest, ofItems_cons]
    show i.successful + _ = i.quantity + _ ↔ _
    constructor
    · intro hsum
      constructor <;> omega
    · rintro ⟨hhead, hrest⟩
      omega

/-- The totals can be kept in 64 bits. -/
def FitsLong (t : ItemTotals) : Prop :=
  ∀ total ∈ [t.planned, t.successful, t.failed], -2 ^ 63 ≤ total ∧ total < 2 ^ 63

/-- The totals of fewer than 2 ^ 32 items can. -/
theorem Within.fitsLong {t : ItemTotals} {count : Nat} (h : t.Within count)
    (hcount : count < 2 ^ 32) : t.FitsLong := by
  obtain ⟨hsuccessful, hfailed, hcounted, hplanned, hlargest⟩ := h
  have hbound : (count : Int) * largestCount < 2 ^ 63 := by
    unfold largestCount
    omega
  intro total htotal
  simp only [List.mem_cons, List.not_mem_nil, or_false] at htotal
  rcases htotal with rfl | rfl | rfl <;> constructor <;> omega

/-- The rate in exact numbers. -/
theorem successRate_eq {t : ItemTotals} (h : 0 < t.planned) :
    t.successRate = some ((t.successful : Rat) / t.planned * 100) :=
  if_pos h

/-- The rate is a share of all that was planned, in percent. -/
theorem successRate_bounds {t : ItemTotals} {count : Nat} (h : t.Within count)
    (hsome : 0 < t.planned) : ∃ rate : Rat, t.successRate = some rate ∧ 0 ≤ rate ∧ rate ≤ 100 ∧
      (rate = 100 ↔ t.successful = t.planned) := by
  have hplanned : (0 : Rat) < t.planned := by exact_mod_cast hsome
  have hsuccessful : (0 : Rat) ≤ t.successful := by exact_mod_cast h.successful
  have hle : (t.successful : Rat) ≤ t.planned := by
    have hfailed := h.failed
    have hcounted := h.counted
    exact_mod_cast (by omega : t.successful ≤ t.planned)
  refine ⟨_, successRate_eq hsome, by positivity, ?_, ?_⟩
  · have hshare := (div_le_one hplanned).mpr hle
    linarith
  · rw [mul_eq_right₀ (by norm_num), div_eq_one_iff_eq hplanned.ne']
    exact_mod_cast Iff.rfl

end ItemTotals

/-! ## Plates -/

/-- All plates that are counted. -/
def PlateCounts.total (c : PlateCounts) : Nat :=
  c.pending + c.printing + c.completed + c.failed + c.cancelled

/-- Every plate is counted once. -/
theorem PlateCounts.total_ofPlates (plates : List (Plate α)) :
    (ofPlates plates).total = plates.length := by
  induction plates with
  | nil => rfl
  | cons p plates ih =>
    rw [List.length_cons, ← ih]
    cases hstatus : p.status <;>
      simp [ofPlates, total, hstatus] <;> omega

/-- How many plates are counted in a status. -/
def PlateCounts.inStatus (c : PlateCounts) : PlateStatus → Nat
  | .pending => c.pending
  | .printing => c.printing
  | .completed => c.completed
  | .failed => c.failed
  | .cancelled => c.cancelled

/-- A plate is counted in its status. -/
theorem PlateCounts.inStatus_ofPlates (plates : List (Plate α)) (s : PlateStatus) :
    (ofPlates plates).inStatus s = (plates.filter fun p => p.status = s).length := by
  rw [← List.countP_eq_length_filter]
  cases s <;> rfl

/-- There are no more different counts from one up than the largest one. -/
theorem length_le_of_nodup {numbers : List Int} (hnodup : numbers.Nodup)
    (h : ∀ n ∈ numbers, 1 ≤ n ∧ n ≤ largestCount) : (numbers.length : Int) ≤ largestCount := by
  have hsub : numbers.toFinset ⊆ Finset.Icc 1 largestCount := by
    intro n hn
    exact Finset.mem_Icc.mpr (h n (List.mem_toFinset.mp hn))
  have hcard := Finset.card_le_card hsub
  rw [List.toFinset_card_of_nodup hnodup, Int.card_Icc] at hcard
  unfold largestCount at *
  omega

/-! ## Runs have items -/

/-- Every run has an item. -/
def Tables.Planned (t : Tables α) : Prop :=
  ∀ run ∈ t.runs.map Run.id, run ∈ t.items.map Item.run

theorem Tables.Planned.exists_item {t : Tables α} (h : t.Planned) {r : Run α} (hr : r ∈ t.runs) :
    ∃ i, i ∈ t.itemsOf r.id := by
  obtain ⟨i, hi, hrun⟩ := List.mem_map.mp (h r.id (List.mem_map_of_mem hr))
  exact ⟨i, List.mem_filter.mpr ⟨hi, decide_eq_true hrun⟩⟩

/-- What keeps the runs and the runs of the items keeps that every run has one. -/
theorem Tables.Planned.of_kept {t t' : Tables α} (h : t.Planned)
    (hruns : t'.runs.map Run.id = t.runs.map Run.id)
    (hitems : t'.items.map Item.run = t.items.map Item.run) : t'.Planned := by
  unfold Tables.Planned
  rw [hruns, hitems]
  exact h

variable [Scalar α]

/-- A run is created with an item, and no item is taken away. -/
theorem Step.planned {catalog : Catalog} {now : Timestamp} {t t' : Tables α} {op : Operation α}
    (hstep : Step catalog now t op t') (h : t.Planned) : t'.Planned := by
  cases hstep with
  | read => exact h
  | createSpool => exact h
  | @createRun request _ _ r items _ hvalid _ _ _ _ hitems =>
    obtain ⟨-, hsome⟩ := RunRequest.complaints_eq_nil.mp hvalid
    intro run hrun
    rw [List.map_append] at hrun ⊢
    rcases List.mem_append.mp hrun with hrun | hrun
    · exact List.mem_append_left _ (h run hrun)
    · obtain rfl := List.mem_singleton.mp hrun
      -- a request without items is complained of
      obtain ⟨new, hnew⟩ := List.exists_mem_of_ne_nil _ hsome
      obtain ⟨i, hi, hrow, -⟩ := exists_of_forall₂ hitems.flip hnew
      exact List.mem_append_right _ (List.mem_map.mpr ⟨i, hi, congrArg Item.run hrow⟩)
  | close =>
    exact h.of_kept (map_changeRows fun _ _ _ => rfl) (map_changeRows fun _ _ _ => rfl)
  | updateOutcome =>
    exact h.of_kept (map_changeRows fun _ _ _ => rfl) (map_changeRows fun _ _ _ => rfl)
  | movePlate =>
    exact h.of_kept (map_changeRows fun _ _ _ => rfl) (map_changeRows fun _ _ _ => rfl)
  | _ => exact h.of_kept (map_changeRows fun _ _ _ => rfl) rfl

theorem planned_afterAll (start : Sequences) (events : List (Event α)) :
    ((Database.fresh start).afterAll events).tables.Planned := by
  have hkept := Database.afterAll_induction
    (motive := fun db : Database α => db.Sound ∧ db.tables.Planned)
    ⟨.fresh start, fun run hrun => absurd hrun List.not_mem_nil⟩ (fun e db h => ?_) events
  · exact hkept.2
  obtain ⟨hsound, hplanned⟩ := h
  refine ⟨e.sound_after hsound, ?_⟩
  rcases e.step_or_refused hsound with ⟨_, -, hstep⟩ | ⟨_, -, hsame⟩
  · exact hstep.planned hplanned
  · rw [hsame]
    exact hplanned

/-! ## Views -/

/-- What a view tells of the prints and plates of a run has a meaning.  The running totals are those
of the first items, however many. -/
structure Snapshot.IsMeaningful (view : Snapshot α) : Prop where
  items : ∀ i ∈ view.items, i.WithinPlan
  totals : view.totals = .ofItems view.items
  planned : 0 < view.totals.planned
  counted : view.totals.successful + view.totals.failed ≤ view.totals.planned
  running : view.items.length < 2 ^ 32 →
    ∀ n, (ItemTotals.ofItems (view.items.take n)).FitsLong
  plates : view.plateCounts.total = view.plates.length
  statuses : ∀ s, view.plateCounts.inStatus s = (view.plates.filter fun p => p.status = s).length
  plateLimit : view.plates.length ≤ largestCount
  rated : view.metrics.successRate = view.totals.successRate ∧
    view.metrics.successRate.isSome = true
  rate : ∃ rate : Rat, view.totals.successRate = some rate ∧ 0 ≤ rate ∧ rate ≤ 100 ∧
    (rate = 100 ↔ ∀ i ∈ view.items, i.successful = i.quantity)

/-- A run with an item, whose plates have different numbers, is shown with figures that have a
meaning. -/
theorem Snapshot.isMeaningful_assemble {r : Run α} {items : List (Item α)}
    {materials : List (MaterialLine α)} {plates : List (Plate α)}
    (hitems : ∀ i ∈ items, i.WithinPlan) (hsome : items ≠ [])
    (hplates : ∀ p ∈ plates, acceptsPlate p = true)
    (hnumbers : (plates.map Plate.number).Nodup) :
    (Snapshot.assemble r items materials plates).IsMeaningful := by
  have hwithin := ItemTotals.within_ofItems hitems
  have hplanned : 0 < (ItemTotals.ofItems items).planned := by
    have hlength := List.length_pos_iff.mpr hsome
    have hleast := hwithin.planned
    omega
  constructor
  · exact hitems
  · rfl
  · exact hplanned
  · exact hwithin.counted
  · intro hcount n
    have hpart : (ItemTotals.ofItems (items.take n)).Within (items.take n).length :=
      ItemTotals.within_ofItems fun i hi => hitems i (List.mem_of_mem_take hi)
    exact hpart.fitsLong ((List.length_take_le' n items).trans_lt hcount)
  · exact PlateCounts.total_ofPlates plates
  · exact PlateCounts.inStatus_ofPlates plates
  · rw [← List.length_map Plate.number]
    refine length_le_of_nodup hnumbers fun n hn => ?_
    obtain ⟨p, hp, rfl⟩ := List.mem_map.mp hn
    have haccepted := hplates p hp
    simp only [acceptsPlate, fitsCount, Bool.and_eq_true, decide_eq_true_eq] at haccepted
    omega
  · exact ⟨rfl, by simp [Snapshot.assemble, RunMetrics.compute, ItemTotals.successRate, hplanned]⟩
  · obtain ⟨rate, hrate, hleast, hmost, hfull⟩ := ItemTotals.successRate_bounds hwithin hplanned
    exact ⟨rate, hrate, hleast, hmost, hfull.trans (ItemTotals.successful_eq_planned_iff hitems)⟩

/-- Whatever operations are performed, every run is shown with all its items and plates, and with
figures that have a meaning. -/
theorem yields_meaningful (start : Sequences) (events : List (Event Float)) :
    let db := (Database.fresh start).afterAll events
    ∀ r ∈ db.tables.runs, ∃ view, db.view r.id = .ok view ∧ view.run = r ∧
      view.items = db.tables.itemsOf r.id ∧ view.plates.Perm (db.tables.platesOf r.id) ∧
      view.IsMeaningful := by
  intro db r hr
  obtain ⟨hsound, -, hstaged⟩ := staged_afterAll start events
  have ht : db.tables.Consistent := hsound.consistent
  have hplates := inOrder_perm (fun a b : Plate Float => a.number ≤ b.number)
    (db.tables.platesOf r.id)
  refine ⟨_, Database.view_eq ht hr, rfl, rfl, hplates, Snapshot.isMeaningful_assemble ?_ ?_ ?_ ?_⟩
  · intro i hi
    exact Item.withinPlan_of_accepts (ht.outcomes i (List.mem_of_mem_filter hi))
  · obtain ⟨i, hi⟩ := (planned_afterAll start events).exists_item hr
    exact List.ne_nil_of_mem hi
  · intro p hp
    exact ht.beds p (List.mem_of_mem_filter (hplates.mem_iff.mp hp))
  · exact (hplates.map Plate.number).nodup_iff.mpr (hstaged r hr).numbers

/-- Four prints of one model and two of another: three and one of the first are counted by hand, and
the plate with both of the second fails. -/
def spoiledSession : List (Event Float) :=
  let first : NewItem Float := ⟨.numbered 9 1, none, 4, none, none, none⟩
  let second : NewItem Float := ⟨.numbered 9 2, none, 2, none, none, none⟩
  let bed : NewPlate Float := ⟨.numbered 9 2, none, none, none, 2, none, none, none⟩
  [.createRun ⟨⟨none, 1.5, none, none, none, none, none⟩, [first, second], []⟩,
    .updateOutcome (.numbered 2 1) (.numbered 3 1) ⟨3, 1⟩,
    .createPlate (.numbered 2 1) bed, .startPlate (.numbered 2 1) (.numbered 5 1),
    .failPlate (.numbered 2 1) (.numbered 5 1) none].map
    (Event.mk .builtin ⟨1767225600, 0⟩)

/-- Half of the prints of this run came out, and its only plate is counted as failed. -/
theorem half_of_spoiled_run :
    let db := (Database.fresh {}).afterAll spoiledSession
    ∃ r ∈ db.tables.runs, ∃ view, db.view r.id = .ok view ∧ view.totals = ⟨6, 3, 3⟩ ∧
      (view.totals.successRate : Option Rat) = some 50 ∧ view.plateCounts.inStatus .failed = 1 ∧
      view.IsMeaningful := by
  intro db
  have hruns : db.tables.runs.map Run.id = [.numbered 2 1] := by decide +kernel
  have htotals : ItemTotals.ofItems (db.tables.itemsOf (.numbered 2 1)) = ⟨6, 3, 3⟩ := by
    decide +kernel
  obtain ⟨r, hr, hid⟩ : ∃ r ∈ db.tables.runs, r.id = .numbered 2 1 :=
    List.mem_map.mp (by simp [hruns])
  obtain ⟨view, hview, -, hitems, hplates, hmeaningful⟩ := yields_meaningful {} spoiledSession r hr
  have hshown : view.totals = ⟨6, 3, 3⟩ := by
    rw [hmeaningful.totals, hitems, hid]
    exact htotals
  have hfailed : view.plateCounts.inStatus .failed = 1 := by
    rw [hmeaningful.statuses, (hplates.filter _).length_eq, hid]
    decide +kernel
  exact ⟨r, hr, view, hview, hshown, by rw [hshown]; decide +kernel, hfailed, hmeaningful⟩

end PrintFarm
