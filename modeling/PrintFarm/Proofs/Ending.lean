import PrintFarm.Proofs.Deciding
import PrintFarm.Proofs.Measuring
import PrintFarm.Proofs.Weights

/-!
# How a run ends

Completing, failing and cancelling a run each check several things, and write to all tables.
`Completion` and `Abandonment` say for every request which of them is reported, and what has become
of the tables if nothing is.

* `Tables.Lacks` says why an amount cannot be deducted, and `Tables.FirstLack` which amount is
  refused where several cannot.
* `Tables.Ended` relates the tables before and after the end of a run.
* `completion_decided` and `abandonment_decided` hold of every history.
-/

namespace PrintFarm

open Store Tx
open Scalar (IsAmount)

variable {α : Type} [Scalar α]

/-! ## Amounts that cannot be deducted -/

/-- Why an amount cannot be deducted. -/
inductive Tables.Lacks (t : Tables α) (u : SpoolUsage α) : Refusal α → Prop
  | spool (hmissing : ∀ s ∈ t.spools, s.id ≠ u.spool) : t.Lacks u (.notFound .spool u.spool)
  | grams {s : Spool α} (hs : s ∈ t.spools) (hid : s.id = u.spool)
    (hshort : Scalar.lt s.weight u.grams = true) :
    t.Lacks u (.insufficientStock u.spool u.grams s.weight)

/-- Of the amounts that cannot be deducted, `u` is of the first spool. -/
structure Tables.FirstLack (t : Tables α) (usage : UsageTable α) (u : SpoolUsage α)
    (why : Refusal α) : Prop where
  mem : u ∈ usage
  lacks : t.Lacks u why
  first : ∀ v ∈ usage, ∀ other, t.Lacks v other → v = u ∨ u.spool.before v.spool = true

namespace Tables

variable {t : Tables α} {usage usage' : UsageTable α} {u : SpoolUsage α} {why : Refusal α}

theorem shortage?_eq_some (hids : (t.spools.map Spool.id).Nodup) :
    Ledger.shortage? t.spools u = some why ↔ t.Lacks u why := by
  unfold Ledger.shortage?
  cases hfound : t.spools.find? fun s => s.id = u.spool with
  | none =>
    have hmissing : ∀ s ∈ t.spools, s.id ≠ u.spool := by simpa using hfound
    constructor
    · intro h
      obtain rfl := Option.some.inj h
      exact .spool hmissing
    · intro h
      cases h with
      | spool => rfl
      | grams hs hid => exact absurd hid (hmissing _ hs)
  | some s =>
    have hs := List.mem_of_find?_eq_some hfound
    have hid : s.id = u.spool := by simpa using List.find?_some hfound
    constructor
    · intro h
      obtain ⟨hshort, hwhy⟩ := Option.ite_none_right_eq_some.mp h
      obtain rfl := Option.some.inj hwhy
      exact .grams hs hid hshort
    · intro h
      cases h with
      | spool hmissing => exact absurd hid (hmissing s hs)
      | grams hq hqid hshort =>
        obtain rfl := eq_of_key_eq hids hq hs (hqid.trans hid.symm)
        exact if_pos hshort

/-- What is refused first is what the first spool lacks. -/
theorem FirstLack.of_findSome? (hids : (t.spools.map Spool.id).Nodup) (husage : usage.Sorted)
    (h : usage.findSome? (Ledger.shortage? t.spools) = some why) :
    ∃ u, t.FirstLack usage u why := by
  obtain ⟨earlier, u, later, rfl, hu, hearlier⟩ := List.findSome?_eq_some_iff.mp h
  refine ⟨u, List.mem_append_right _ List.mem_cons_self, (shortage?_eq_some hids).mp hu, ?_⟩
  intro v hv other hlacks
  rcases List.mem_append.mp hv with hv | hv
  · exact nomatch (hearlier v hv).symm.trans ((shortage?_eq_some hids).mpr hlacks)
  · rcases List.mem_cons.mp hv with rfl | hv
    · exact Or.inl rfl
    · exact Or.inr ((List.pairwise_cons.mp (List.pairwise_append.mp husage).2.1).1 v hv)

theorem not_lacks_of_findSome? (hids : (t.spools.map Spool.id).Nodup)
    (h : usage.findSome? (Ledger.shortage? t.spools) = none) :
    ∀ u ∈ usage, ∀ why, ¬t.Lacks u why := by
  intro u hu why hlacks
  have hnone := List.findSome?_eq_none_iff.mp h u hu
  exact nomatch hnone.symm.trans ((shortage?_eq_some hids).mpr hlacks)

theorem FirstLack.perm (h : t.FirstLack usage u why) (hperm : usage.Perm usage') :
    t.FirstLack usage' u why :=
  ⟨hperm.mem_iff.mp h.mem, h.lacks, fun v hv => h.first v (hperm.mem_iff.mpr hv)⟩

end Tables

/-! ## What the end of a run leaves -/

/-- The spool after the amounts were deducted. -/
def Spool.spent (now : Timestamp) (usage : UsageTable α) (s : Spool α) : Spool α :=
  match usage.find? fun u => u.spool = s.id with
  | some u => { s with weight := s.weight - u.grams, updatedAt := now.stored }
  | none => s

/-- The tables `t'` come out of `t` by the end of the run `r`, which leaves it as `last` and deducts
`usage`. -/
structure Tables.Ended (now : Timestamp) (t t' : Tables α) (r last : Run α)
    (usage : UsageTable α) : Prop where
  spools : t'.spools = t.spools.map (Spool.spent now usage)
  runs : t'.runs = changeRows (fun q => q.id = r.id) (fun _ => last) t.runs
  items : ∃ cost : Item α → Option α,
    t'.items = t.items.map fun i => { i with actualUnitCost := cost i }
  materials : t'.materials = changeRows (fun m => m.run = r.id) (fixedLine now t.spools) t.materials
  plates : t'.plates = changeRows (fun p => p.run = r.id && !p.status.isTerminal)
    (fun p => { p with
      status := .cancelled, completedAt := some now.stored, updatedAt := now.stored }) t.plates
  deductions : ∃ rows, t'.deductions = t.deductions ++ rows ∧
    (rows.map fun d => (d.spool, d.grams)).Perm (usage.map fun u => (u.spool, u.grams))

section Ended

variable {catalog : Catalog} {now : Timestamp} {t t' : Tables α} {op : Operation α} {r last : Run α}
  {ending : RunEnding α} {reason : DeductionReason} {usage usage' : UsageTable α}
  {rows : List (Deduction α)}

/-- A spool weighs what is left after its amount. -/
theorem reweighed_eq_spent (hids : (t.spools.map Spool.id).Nodup) {s : Spool α} (hs : s ∈ t.spools)
    {run : Uuid} {target : RunStatus}
    (hrows : List.Forall₂ (Ledger.Deducted now run target reason t.spools) usage rows) :
    Ledger.reweighed now rows s = s.spent now usage := by
  unfold Ledger.reweighed Spool.spent
  induction hrows with
  | nil => rfl
  | @cons u d usage rows hfirst _ ih =>
    rw [List.find?_cons, List.find?_cons, hfirst.spool_eq]
    by_cases hspool : u.spool = s.id
    · obtain ⟨q, hq, hid, hweight⟩ := hfirst.stock
      obtain rfl := eq_of_key_eq hids hq hs (hid.trans (hfirst.spool_eq.trans hspool))
      simp only [hspool, decide_true]
      rw [weighed, hfirst.left, ← hweight, hfirst.grams_eq]
    · simp only [hspool, decide_false]
      exact ih

/-- The end of a run is told by what it writes on the run and what it deducts. -/
theorem Tables.ended_closed (ht : t.Consistent) (hr : r ∈ t.runs)
    (hcloses : Closes catalog now t r op ending reason usage)
    (hrows : List.Forall₂ (Ledger.Deducted now r.id ending.status reason t.spools) usage rows) :
    t.Ended now (t.closed now r ending rows) r (endedRun now ending r) usage where
  spools := List.map_congr_left fun s hs => reweighed_eq_spent ht.spoolIds hs hrows
  runs := (changeRows_const ht.runIds hr _).symm
  items := by
    refine ⟨fun i => if i.run = r.id && ending.status = .completed then storedOption
      ((completionMetrics t r ending.durationHours).unitCost i) else i.actualUnitCost, ?_⟩
    refine List.map_congr_left fun i _ => ?_
    cases hpriced : i.run = r.id && decide (ending.status = .completed) <;>
      simp [hpriced, pricedItem]
  materials := rfl
  plates := by
    have hclock : ending.completedAt = now := by cases hcloses <;> rfl
    show changeRows _ (cancelledPlate now ending.completedAt) _ = _
    rw [hclock]
    rfl
  deductions := ⟨rows, rfl, .of_eq (Ledger.map_deducted hrows)⟩

/-- It does not matter in which order the amounts are listed. -/
theorem Spool.spent_perm (husage : (usage.map SpoolUsage.spool).Nodup) (hperm : usage.Perm usage')
    (s : Spool α) : s.spent now usage = s.spent now usage' := by
  have hfind : (usage.find? fun u => u.spool = s.id) = usage'.find? fun u => u.spool = s.id := by
    cases hfound : usage.find? fun u => u.spool = s.id with
    | none =>
      have hnone := List.find?_eq_none.mp hfound
      exact (List.find?_eq_none.mpr fun u hu => hnone u (hperm.mem_iff.mpr hu)).symm
    | some u =>
      have hspool : u.spool = s.id := by simpa using List.find?_some hfound
      have hu := hperm.mem_iff.mp (List.mem_of_find?_eq_some hfound)
      rw [← hspool]
      exact (find?_of_nodup ((hperm.map _).nodup_iff.mp husage) hu).symm
  rw [spent, hfind, spent]

theorem Tables.Ended.perm (h : t.Ended now t' r last usage)
    (husage : (usage.map SpoolUsage.spool).Nodup) (hperm : usage.Perm usage') :
    t.Ended now t' r last usage' := by
  refine { h with spools := ?_, deductions := ?_ }
  · rw [h.spools]
    exact List.map_congr_left fun s _ => s.spent_perm husage hperm
  · obtain ⟨rows, hrows, hpairs⟩ := h.deductions
    exact ⟨rows, hrows, hpairs.trans (hperm.map _)⟩

/-- The end of a run in progress is refused for the first amount that cannot be deducted, or else
for a text that cannot be stored, and else it is done. -/
theorem Event.result_cases [StockScalar α] {e : Event α} {db : Database α} (hdb : db.Sound)
    (hv : db.tables.Valued) (hr : r ∈ db.tables.runs) (hprogress : r.status = .inProgress)
    (hcloses : Closes e.catalog e.now db.tables r e.operation ending reason usage)
    (husage : usage.Sorted) :
    (∃ u why, db.tables.FirstLack usage u why ∧ e.result db = .error why) ∨
      (∀ u ∈ usage, ∀ why, ¬db.tables.Lacks u why) ∧
        (allStorable [ending.wasteReason, ending.notes] = false ∧
            e.result db = .error (.storage .endRun) ∨
          allStorable [ending.wasteReason, ending.notes] = true ∧ ∃ t', e.result db = .ok t' ∧
            db.tables.Ended e.now t' r (endedRun e.now ending r) usage ∧
            (ending.status ≠ .completed → t'.items = db.tables.items)) := by
  have ht := hdb.consistent
  rcases Event.result_of_closes hdb hv hr hprogress hcloses with
    ⟨why, hwhy, hresult⟩ | ⟨hsettled, rows, hrows, hresult⟩
  · rcases Option.or_eq_some_iff.mp hwhy with hfirst | ⟨hnone, htexts⟩
    · obtain ⟨u, hfirst⟩ := Tables.FirstLack.of_findSome? ht.spoolIds husage hfirst
      exact Or.inl ⟨u, why, hfirst, hresult⟩
    · obtain ⟨hunstorable, hwhy⟩ := Option.ite_none_left_eq_some.mp htexts
      obtain rfl := Option.some.inj hwhy
      exact Or.inr ⟨Tables.not_lacks_of_findSome? ht.spoolIds hnone,
        Or.inl ⟨eq_false_of_ne_true hunstorable, hresult⟩⟩
  · obtain ⟨hnone, htexts⟩ := Option.or_eq_none_iff.mp hsettled
    refine Or.inr ⟨Tables.not_lacks_of_findSome? ht.spoolIds hnone, Or.inr ⟨?_, _, hresult,
      Tables.ended_closed ht hr hcloses hrows, fun hstatus => ?_⟩⟩
    · by_contra hunstorable
      rw [if_neg hunstorable] at htexts
      exact nomatch htexts
    · exact changeRows_eq_self fun i _ hsel => by simp [hstatus] at hsel

end Ended

/-! ## Completing a run -/

/-- The whole seconds from `start` to `finish` in hours, and zero if they are in the other order. -/
def hoursBetween (start finish : Timestamp) : α :=
  Scalar.ofInt (max ((finish.toNanos - start.toNanos) / 1000000000) 0) / Scalar.ofInt 3600

theorem elapsedHours_eq (start finish : Timestamp) :
    (elapsedHours start finish : α) = hoursBetween start finish := by
  have hseconds : (start.elapsedSeconds finish : Int) =
      max ((finish.toNanos - start.toNanos) / 1000000000) 0 := by
    rw [Timestamp.elapsedSeconds, Int.toNat_eq_max]
    show max (Int.tdiv (finish.toNanos - start.toNanos) 1000000000) 0 = _
    generalize finish.toNanos - start.toNanos = n
    rcases Int.lt_or_le n 0 with hn | hn
    · have hback : 0 ≤ Int.tdiv (-n) 1000000000 := Int.tdiv_nonneg (by omega) (by decide)
      rw [Int.neg_tdiv] at hback
      omega
    · rw [Int.tdiv_eq_ediv_of_nonneg hn]
  rw [elapsedHours, hseconds, hoursBetween]

/-- What the lines of a run have used of their spools, where that is above zero. -/
def Tables.usedBy (t : Tables α) (run : Uuid) : UsageTable α :=
  ((t.materialsOf run).filterMap Material.positiveUse?).map fun p => ⟨p.1, p.2⟩

/-- The complaint is that of the line: nothing is recorded, or what is entered is not above zero. -/
structure Material.Complained (t : Tables α) (m : Material α) (fault : FieldError α) : Prop where
  field : fault.field = s!"materials.{m.id}.actual_total_weight"
  problem : ∃ why, m.unmeasured? = some why ∧
    ∃ s ∈ t.spools, s.id = m.spool ∧ fault.problem = .unmeasured why s.label

/-- What comes of completing a run: why it is refused, or the tables after its end. -/
inductive Completion (now : Timestamp) (t : Tables α) (run : Uuid) :
    Except (Refusal α) (Tables α) → Prop
  | missing (hmissing : ∀ r ∈ t.runs, r.id ≠ run) :
    Completion now t run (.error (.notFound .run run))
  | ended {r : Run α} (hr : r ∈ t.runs) (hid : r.id = run) (hended : r.status.isTerminal = true) :
    Completion now t run (.error (.illegalTransition .run run r.status.word "complete"))
  | unmeasured {r : Run α} {faults : List (FieldError α)} (hr : r ∈ t.runs) (hid : r.id = run)
    (hprogress : r.status = .inProgress)
    (hfaults : List.Forall₂ (Material.Complained t)
      ((t.materialsOf run).filter fun m => m.unmeasured?.isSome) faults)
    (hsome : faults ≠ []) : Completion now t run (.error (.invalid faults))
  | short {r : Run α} {u : SpoolUsage α} {available : α} (hr : r ∈ t.runs) (hid : r.id = run)
    (hprogress : r.status = .inProgress)
    (hmeasured : ∀ m ∈ t.materialsOf run, m.unmeasured? = none)
    (hfirst : t.FirstLack (t.usedBy run) u (.insufficientStock u.spool u.grams available)) :
    Completion now t run (.error (.insufficientStock u.spool u.grams available))
  | completed {r : Run α} {t' : Tables α} (hr : r ∈ t.runs) (hid : r.id = run)
    (hprogress : r.status = .inProgress)
    (hmeasured : ∀ m ∈ t.materialsOf run, m.unmeasured? = none)
    (hstock : ∀ u ∈ t.usedBy run, ∀ why, ¬t.Lacks u why)
    (hended : t.Ended now t' r
      { r with
        status := .completed
        completedAt := some now.stored
        durationHours := some (r.durationHours.getD (hoursBetween r.startedAt now))
        updatedAt := now.stored } (t.usedBy run)) :
    Completion now t run (.ok t')

section Completing

variable {t : Tables α}

/-- Where all weights are finite, the lines above zero are what is deducted. -/
theorem perm_usedBy [LawfulScalar α] (ht : t.Consistent) (hfinite : t.WeightsFinite) (run : Uuid) :
    (positiveUsage (Workflow.consumed (t.linesOf run))).Perm (t.usedBy run) := by
  have hlines : (t.materialsOf run).filterMap Material.deducted? =
      (t.materialsOf run).filterMap Material.positiveUse? :=
    List.filterMap_congr fun m hm => Material.deducted?_eq fun grams hgrams =>
      hfinite.actuals m (List.mem_of_mem_filter hm) grams hgrams
  have hpairs := (perm_positiveUsage (nodup_materialsOf ht run)).map
    fun p => (⟨p.1, p.2⟩ : SpoolUsage α)
  rw [List.map_map, hlines] at hpairs
  rw [consumed_linesOf ht]
  exact .trans (.of_eq (List.map_id _).symm) hpairs

/-- A run cannot be completed for its lines alone, one complaint for each that is not measured. -/
theorem complained_completion (ht : t.Consistent) (hmeasured : ∀ m ∈ t.materials, m.Measured)
    (run : Uuid) :
    List.Forall₂ (Material.Complained t)
      ((t.materialsOf run).filter fun m => m.unmeasured?.isSome)
      (Workflow.completionComplaints (t.linesOf run) (t.itemsOf run)) := by
  have hitems : (t.itemsOf run).flatMap (fun i => (i.outcome.complaints s!"items.{i.id}." i.quantity :
      List (FieldError α))) = [] := by
    refine List.flatMap_eq_nil_iff.mpr fun i hi => ?_
    obtain ⟨hs, hf, hsum, -⟩ := counts_of_acceptsItem (ht.outcomes i (List.mem_of_mem_filter hi))
    exact Outcome.complaints_eq_nil.mpr ⟨hs, hf, hsum⟩
  rw [Workflow.completionComplaints, hitems, List.append_nil, Tables.linesOf]
  have hrows : ∀ m ∈ t.materialsOf run, m ∈ t.materials := fun m hm => List.mem_of_mem_filter hm
  generalize t.materialsOf run = rows at hrows
  induction rows with
  | nil => exact .nil
  | cons m rows ih =>
    obtain ⟨hm, hrows⟩ := List.forall_mem_cons.mp hrows
    obtain ⟨s, hs, hid⟩ := List.mem_map.mp (ht.lineSpools m hm)
    have hl : priced? t.spools m = some ⟨m, s.label, s.costPerGram⟩ := by
      rw [priced?, ← hid, find?_of_nodup ht.spoolIds hs, Option.map_some]
    rw [List.filterMap_cons_some hl]
    have hproblem := (hmeasured m hm).problem?_eq
    cases hwhy : m.unmeasured? with
    | none =>
      rw [List.filter_cons_of_neg (by simp [hwhy])]
      simp only [List.filterMap_cons, hproblem, hwhy, Option.map_none]
      exact ih hrows
    | some why =>
      rw [List.filter_cons_of_pos (by simp [hwhy])]
      simp only [List.filterMap_cons, hproblem, hwhy, Option.map_some]
      exact .cons ⟨rfl, why, hwhy, s, hs, hid, rfl⟩ (ih hrows)

theorem exists_line_of_mem_usedBy {run : Uuid} {u : SpoolUsage α}
    (hu : u ∈ t.usedBy run) : ∃ m ∈ t.materialsOf run, m.spool = u.spool := by
  obtain ⟨p, hp, rfl⟩ := List.mem_map.mp hu
  obtain ⟨m, hm, hused⟩ := List.mem_filterMap.mp hp
  obtain ⟨grams, -, hpair⟩ := Option.bind_eq_some_iff.mp hused
  obtain ⟨-, hpair⟩ := Option.ite_none_right_eq_some.mp hpair
  obtain rfl := Option.some.inj hpair
  exact ⟨m, hm, rfl⟩

/-- The hours that were entered stay as they are, and else those since the start are written. -/
theorem endedRun_completed [StockScalar α] (now : Timestamp) (r : Run α) :
    endedRun now
      { status := .completed
        completedAt := now
        durationHours := some (r.durationHours.getD (elapsedHours r.startedAt now)) } r =
      { r with
        status := .completed
        completedAt := some now.stored
        durationHours := some (r.durationHours.getD (hoursBetween r.startedAt now))
        updatedAt := now.stored } := by
  rw [← elapsedHours_eq]
  have hhours : (storedOption (some (r.durationHours.getD (elapsedHours r.startedAt now)))).or
      r.durationHours = some (r.durationHours.getD (elapsedHours r.startedAt now)) := by
    cases r.durationHours with
    | none => exact congrArg (Option.or · none) (storedOption_some (StockScalar.isAmount_hours _))
    | some hours =>
      cases hstored : storedOption (some hours) with
      | none => simp [hstored]
      | some kept =>
        obtain rfl := Option.some.inj (eq_of_mem_storedOption hstored)
        simp [hstored]
  simp only [endedRun, touchedRun, RunEnding.apply, hhours]
  rfl

/-- What is found of a run that is to be completed comes of it. -/
theorem completion_of_run [WeightScalar α] {catalog : Catalog} {now : Timestamp} {db : Database α}
    (hdb : db.Sound) (hv : db.tables.Valued) (hmeasured : ∀ m ∈ db.tables.materials, m.Measured)
    (hfinite : db.tables.WeightsFinite) {r : Run α} (hr : r ∈ db.tables.runs)
    (hprogress : r.status = .inProgress) :
    Completion now db.tables r.id (Event.result ⟨catalog, now, .completeRun r.id⟩ db) := by
  have ht := hdb.consistent
  have hfaults := complained_completion ht hmeasured r.id
  by_cases hnone : Workflow.completionComplaints (db.tables.linesOf r.id)
    (db.tables.itemsOf r.id) = []
  · have hlines : ∀ m ∈ db.tables.materialsOf r.id, m.unmeasured? = none := by
      rw [hnone] at hfaults
      have hempty := List.forall₂_nil_right_iff.mp hfaults
      intro m hm
      simpa using List.filter_eq_nil_iff.mp hempty m hm
    have hperm := perm_usedBy ht hfinite r.id
    have hsorted := positiveUsage_sorted (Workflow.consumed (db.tables.linesOf r.id))
    have hcloses : Closes catalog now db.tables r (.completeRun r.id) _ _ _ := .complete hnone
    rcases Event.result_cases (e := ⟨catalog, now, .completeRun r.id⟩) hdb hv hr hprogress hcloses
      hsorted with ⟨u, why, hfirst, hresult⟩ | ⟨hstock, ⟨htexts, -⟩ | ⟨-, t', hresult, hended, -⟩⟩
    · rw [hresult]
      have hfirst := hfirst.perm hperm
      cases hfirst.lacks with
      | spool hmissing =>
        obtain ⟨m, hm, hspool⟩ := exists_line_of_mem_usedBy hfirst.mem
        obtain ⟨s, hs, hid⟩ := List.mem_map.mp (ht.lineSpools m (List.mem_of_mem_filter hm))
        exact absurd (hid.trans hspool) (hmissing s hs)
      | grams => exact .short hr rfl hprogress hlines hfirst
    · exact nomatch htexts
    · rw [hresult]
      refine .completed hr rfl hprogress hlines (fun u hu => hstock u (hperm.mem_iff.mpr hu)) ?_
      exact (endedRun_completed now r ▸ hended).perm hsorted.nodup hperm
  · rw [Event.result_of_refusal? (e := ⟨catalog, now, .completeRun r.id⟩)
      (Operation.refusal?_unmeasured ht hr hprogress hnone)]
    exact .unmeasured hr rfl hprogress hfaults hnone

/-- Whatever operations were performed, and if all weights are finite, what comes of completing a
run is what its status, its lines and its spools say. -/
theorem completion_decided (start : Sequences) (events : List (Event Float)) :
    let db := (Database.fresh start).afterAll events
    db.tables.WeightsFinite → ∀ (catalog : Catalog) (now : Timestamp) (run : Uuid),
      Completion now db.tables run (Event.result ⟨catalog, now, .completeRun run⟩ db) := by
  intro db hfinite catalog now run
  obtain ⟨hsound, hvalued, -⟩ := staged_afterAll start events
  by_cases hfound : ∃ r ∈ db.tables.runs, r.id = run
  · obtain ⟨r, hr, rfl⟩ := hfound
    cases hstatus : r.status.isTerminal with
    | true =>
      rw [Event.result_of_ended hsound.consistent hr hstatus rfl rfl]
      exact .ended hr rfl hstatus
    | false =>
      exact completion_of_run hsound hvalued (measured_afterAll start events) hfinite hr
        (RunStatus.isTerminal_eq_false.mp hstatus)
  · have hmissing : ∀ r ∈ db.tables.runs, r.id ≠ run := fun r hr hid => hfound ⟨r, hr, hid⟩
    rw [Event.result_of_missing rfl rfl hmissing]
    exact .missing hmissing

/-- A run with a plate that is printing and one line, of which 30 g were measured. -/
def measuredSession : List (Event Float) :=
  let item : NewItem Float := ⟨.numbered 9 1, none, 4, none, some 5.0, none⟩
  let request : RunRequest Float :=
    ⟨⟨none, 2.0, none, none, none, none, none⟩, [item], [⟨.numbered 1 1, 25.0, none, none⟩]⟩
  let plate : NewPlate Float := ⟨.numbered 9 1, none, none, none, 4, none, none, none⟩
  [.createSpool ⟨"PLA", "PLA", none, 100.0, 0.02⟩, .createRun request,
    .createPlate (.numbered 2 1) plate, .startPlate (.numbered 2 1) (.numbered 5 1),
    .recordActual (.numbered 2 1) (.numbered 4 1) ⟨some 30.0, none, none⟩].map
    (Event.mk .builtin ⟨1767225600, 0⟩)

/-- The run is completed, and its spool holds 70 g. -/
theorem measured_run_completed :
    let db := (Database.fresh {}).afterAll measuredSession
    let e : Event Float := ⟨.builtin, ⟨1767232800, 0⟩, .completeRun (.numbered 2 1)⟩
    db.tables.WeightsFinite ∧ ∃ t', e.result db = .ok t' ∧
      t'.spools.all (fun s => s.weight == 70.0) = true ∧
      Completion ⟨1767232800, 0⟩ db.tables (.numbered 2 1) (.ok t') := by
  intro db e
  have hrows : db.tables.deductions.isEmpty = true := by decide +kernel
  have hfinite : db.tables.WeightsFinite := by
    refine ⟨by decide +kernel, by decide +kernel, by decide +kernel, by decide +kernel, ?_⟩
    rw [List.isEmpty_iff.mp hrows]
    exact nofun
  have hdecided := completion_decided {} measuredSession hfinite .builtin ⟨1767232800, 0⟩
    (.numbered 2 1)
  have hweighs : (e.result db).toOption.any
      (fun t => t.spools.all fun s => s.weight == 70.0) = true := by decide +kernel
  cases hresult : e.result db with
  | error why =>
    rw [hresult] at hweighs
    exact nomatch hweighs
  | ok t' =>
    rw [hresult] at hweighs
    exact ⟨hfinite, t', rfl, hweighs, hresult ▸ hdecided⟩

end Completing

/-! ## Failing and cancelling a run -/

/-- What a request to end a run without completing it comes to: what is wrong with it, what is
deducted, which texts are written, and how it leaves the run. -/
structure Abandonment (α : Type) where
  action : String
  faults : List (FieldError α)
  usage : UsageTable α
  texts : Run α → List (Option String)
  last : Run α → Run α

/-- A run fails for a reason of the catalog, with some waste. -/
def FailRequest.abandonment (catalog : Catalog) (now : Timestamp) (request : FailRequest α) :
    Abandonment α where
  action := "fail"
  faults :=
    complaint (catalog.reasons.all fun known => known.value ≠ request.reason) "failure_reason"
      (.unknownReason request.reason) ++
    complaint (positiveUsage request.waste).isEmpty "waste_materials" .noWaste
  usage := positiveUsage request.waste
  texts r := [some request.reason, mergedNotes r.notes request.notes]
  last r :=
    { r with
      status := .failed
      completedAt := some now.stored
      wasteReason := some request.reason
      wasteGrams := some (Scalar.sum ((positiveUsage request.waste).map SpoolUsage.grams))
      notes := (mergedNotes r.notes request.notes).or r.notes
      updatedAt := now.stored }

/-- A run is cancelled, and what is reported counts only if it is to be recorded. -/
def CancelRequest.abandonment (now : Timestamp) (request : CancelRequest α) : Abandonment α where
  action := "cancel"
  faults :=
    complaint (request.mode = .recordPartial && (positiveUsage request.usage).isEmpty)
      "partial_usage" .noPartialUsage
  usage :=
    match request.mode with
    | .fullReversal => []
    | .recordPartial => positiveUsage request.usage
  texts r := [mergedNotes r.notes request.notes]
  last r :=
    { r with
      status := .cancelled
      completedAt := some now.stored
      cancelMode := some request.mode
      notes := (mergedNotes r.notes request.notes).or r.notes
      updatedAt := now.stored }

/-- What comes of ending a run without completing it: why it is refused, or the tables after its
end. -/
inductive Abandoned (now : Timestamp) (t : Tables α) (run : Uuid) (a : Abandonment α) :
    Except (Refusal α) (Tables α) → Prop
  | invalid (hfaults : a.faults ≠ []) : Abandoned now t run a (.error (.invalid a.faults))
  | missing (hvalid : a.faults = []) (hmissing : ∀ r ∈ t.runs, r.id ≠ run) :
    Abandoned now t run a (.error (.notFound .run run))
  | ended {r : Run α} (hvalid : a.faults = []) (hr : r ∈ t.runs) (hid : r.id = run)
    (hended : r.status.isTerminal = true) :
    Abandoned now t run a (.error (.illegalTransition .run run r.status.word a.action))
  | lacking {r : Run α} {u : SpoolUsage α} {why : Refusal α} (hvalid : a.faults = [])
    (hr : r ∈ t.runs) (hid : r.id = run) (hprogress : r.status = .inProgress)
    (hfirst : t.FirstLack a.usage u why) : Abandoned now t run a (.error why)
  | unstorable {r : Run α} (hvalid : a.faults = []) (hr : r ∈ t.runs) (hid : r.id = run)
    (hprogress : r.status = .inProgress) (hstock : ∀ u ∈ a.usage, ∀ why, ¬t.Lacks u why)
    (htexts : allStorable (a.texts r) = false) :
    Abandoned now t run a (.error (.storage .endRun))
  | done {r : Run α} {t' : Tables α} (hvalid : a.faults = []) (hr : r ∈ t.runs) (hid : r.id = run)
    (hprogress : r.status = .inProgress) (hstock : ∀ u ∈ a.usage, ∀ why, ¬t.Lacks u why)
    (htexts : allStorable (a.texts r) = true)
    (hended : t.Ended now t' r (a.last r) a.usage) (hitems : t'.items = t.items) :
    Abandoned now t run a (.ok t')

/-- The operation ends the run without completing it, and this is what it comes to. -/
structure Abandonment.Describes (a : Abandonment α) (e : Event α) (run : Uuid) (t : Tables α) :
    Prop where
  ends : e.operation.ends? = some run
  changes : e.operation.changes? = some (run, a.action)
  preflight : e.operation.preflight e.catalog = refuseIfAny a.faults
  sorted : a.usage.Sorted
  closes : a.faults = [] → ∀ r : Run α, r.id = run → ∃ ending reason,
    Closes e.catalog e.now t r e.operation ending reason a.usage ∧ ending.status ≠ .completed ∧
      allStorable [ending.wasteReason, ending.notes] = allStorable (a.texts r) ∧
      endedRun e.now ending r = a.last r

section Abandoning

variable [StockScalar α] {a : Abandonment α} {e : Event α} {run : Uuid} {db : Database α}

/-- What is found of the request, the run and the spools comes of it. -/
theorem Abandonment.Describes.abandoned (h : a.Describes e run db.tables) (hdb : db.Sound)
    (hv : db.tables.Valued) : Abandoned e.now db.tables run a (e.result db) := by
  by_cases hvalid : a.faults = []
  · have hpreflight : e.operation.preflight e.catalog = .ok () :=
      h.preflight.trans (refuseIfAny_eq_ok.mpr hvalid)
    by_cases hfound : ∃ r ∈ db.tables.runs, r.id = run
    · obtain ⟨r, hr, rfl⟩ := hfound
      cases hstatus : r.status.isTerminal with
      | true =>
        rw [Event.result_of_ended hdb.consistent hr hstatus h.changes hpreflight]
        exact .ended hvalid hr rfl hstatus
      | false =>
        have hprogress := RunStatus.isTerminal_eq_false.mp hstatus
        obtain ⟨ending, reason, hcloses, hstatus, htexts, hlast⟩ := h.closes hvalid r rfl
        rcases Event.result_cases hdb hv hr hprogress hcloses h.sorted with
          ⟨u, why, hfirst, hresult⟩ | ⟨hstock, ⟨hunstorable, hresult⟩ |
            ⟨hstorable, t', hresult, hended, hitems⟩⟩
        · rw [hresult]
          exact .lacking hvalid hr rfl hprogress hfirst
        · rw [hresult]
          exact .unstorable hvalid hr rfl hprogress hstock (htexts ▸ hunstorable)
        · rw [hresult]
          exact .done hvalid hr rfl hprogress hstock (htexts ▸ hstorable) (hlast ▸ hended)
            (hitems hstatus)
    · have hmissing : ∀ r ∈ db.tables.runs, r.id ≠ run := fun r hr hid => hfound ⟨r, hr, hid⟩
      rw [Event.result_of_missing h.ends hpreflight hmissing]
      exact .missing hvalid hmissing
  · rw [Event.result_of_preflight (h.preflight.trans (refuseIfAny_of_ne_nil hvalid))]
    exact .invalid hvalid

omit [Scalar α] [StockScalar α] in
theorem Catalog.not_contains {catalog : Catalog} {reason : String} :
    (!catalog.contains reason) = catalog.reasons.all fun known => known.value ≠ reason := by
  rw [contains, find?, List.isSome_find?, List.not_any_eq_all_not]
  simp only [ne_eq, decide_not]

theorem FailRequest.describes (catalog : Catalog) (now : Timestamp) (run : Uuid)
    (request : FailRequest α) (t : Tables α) :
    (request.abandonment catalog now).Describes ⟨catalog, now, .failRun run request⟩ run t where
  ends := rfl
  changes := rfl
  preflight := by
    show refuseIfAny (Workflow.failureComplaints ..) = _
    rw [Workflow.failureComplaints, Catalog.not_contains]
    rfl
  sorted := positiveUsage_sorted _
  closes hvalid r hid := by
    obtain rfl := hid
    rw [abandonment, ← Catalog.not_contains] at hvalid
    refine ⟨_, _, .fail hvalid, by simp, rfl, ?_⟩
    have hwaste : storedOption (some (Scalar.sum ((positiveUsage request.waste).map
        SpoolUsage.grams))) = some (Scalar.sum ((positiveUsage request.waste).map
          SpoolUsage.grams)) := storedOption_some (isAmount_sum_positiveUsage request.waste)
    simp only [endedRun, touchedRun, RunEnding.apply, hwaste]
    rfl

omit [StockScalar α] in
theorem CancelRequest.preflight_eq {catalog : Catalog} {now : Timestamp} {run : Uuid}
    (request : CancelRequest α) :
    (Operation.cancelRun run request).preflight catalog =
      refuseIfAny (request.abandonment now).faults := by
  show request.deductible.map (fun _ => ()) = _
  unfold deductible abandonment
  cases request.mode with
  | fullReversal => rfl
  | recordPartial =>
    by_cases hnone : positiveUsage request.usage = [] <;>
      simp [hnone, complaint, refuseIfAny, Refusal.field, Except.map]

omit [StockScalar α] in
theorem CancelRequest.describes (catalog : Catalog) (now : Timestamp) (run : Uuid)
    (request : CancelRequest α) (t : Tables α) :
    (request.abandonment now).Describes ⟨catalog, now, .cancelRun run request⟩ run t where
  ends := rfl
  changes := rfl
  preflight := request.preflight_eq
  sorted := by
    unfold abandonment
    cases request.mode with
    | fullReversal => exact List.Pairwise.nil
    | recordPartial => exact positiveUsage_sorted _
  closes hvalid r hid := by
    obtain rfl := hid
    have husage : request.deductible = .ok (request.abandonment now).usage := by
      unfold abandonment at hvalid ⊢
      unfold deductible
      cases hmode : request.mode with
      | fullReversal => rfl
      | recordPartial =>
        rw [hmode] at hvalid
        rw [if_neg (by simpa using hvalid)]
    exact ⟨_, _, .cancel husage, nofun, rfl, rfl⟩

end Abandoning

/-- Whatever operations were performed, what comes of failing or cancelling a run is what the
request, the status of the run, the spools and the texts say, and is reported in this order. -/
theorem abandonment_decided (start : Sequences) (events : List (Event Float)) :
    let db := (Database.fresh start).afterAll events
    ∀ (catalog : Catalog) (now : Timestamp) (run : Uuid),
      (∀ request : FailRequest Float,
        Abandoned now db.tables run (request.abandonment catalog now)
          (Event.result ⟨catalog, now, .failRun run request⟩ db)) ∧
      ∀ request : CancelRequest Float,
        Abandoned now db.tables run (request.abandonment now)
          (Event.result ⟨catalog, now, .cancelRun run request⟩ db) := by
  intro db catalog now run
  obtain ⟨hsound, hvalued, -⟩ := staged_afterAll start events
  exact ⟨fun request => (request.describes catalog now run db.tables).abandoned hsound hvalued,
    fun request => (request.describes catalog now run db.tables).abandoned hsound hvalued⟩

/-- The run of the session is not failed with a note that no column can hold, although the reason is
known, the run is in progress, and the spool holds what was wasted. -/
theorem unstorable_notes_refused :
    let db := (Database.fresh {}).afterAll measuredSession
    let request : FailRequest Float := ⟨"other", [⟨.numbered 1 1, 5.0⟩], some "a\x00b"⟩
    (request.abandonment .builtin ⟨1767232800, 0⟩).faults = [] ∧ db.tables.Takes (.numbered 2 1) ∧
      (∀ u ∈ positiveUsage request.waste, ∀ why, ¬db.tables.Lacks u why) ∧
      ∃ fault, Event.result ⟨.builtin, ⟨1767232800, 0⟩, .failRun (.numbered 2 1) request⟩ db =
        .error (.storage fault) := by
  intro db request
  have hids : (db.tables.spools.map Spool.id).Nodup := by decide +kernel
  have hstock : ((positiveUsage request.waste).findSome?
      (Ledger.shortage? db.tables.spools)).isNone = true := by decide +kernel
  have hvalid : (request.abandonment .builtin ⟨1767232800, 0⟩).faults.isEmpty = true := by
    decide +kernel
  refine ⟨List.isEmpty_iff.mp hvalid, by unfold Tables.Takes; decide +kernel,
    Tables.not_lacks_of_findSome? hids (Option.isNone_iff_eq_none.mp hstock), ?_⟩
  refine isStorageFault_iff.mp ?_
  decide +kernel

end PrintFarm
