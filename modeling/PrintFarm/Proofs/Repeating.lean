import PrintFarm.Proofs.Ending

/-!
# Deducting again

The ledger asks the journal before it asks the stock.  So a call that is repeated finds all its
spools in the journal and does nothing, however little is left on them, and a later call for the
same end of the run leaves the spools of the first alone.

* `Applied` says what a call has written.
* `gives_applyDeductions_of_journaled` says when a call has nothing to do.
* `deducted_once` holds of every database whose spools differ in their identifiers.
-/

namespace PrintFarm.Ledger

open Store Tx

variable {α : Type}

/-! ## Amounts that are due -/

section Due

variable {run : Uuid} {target : RunStatus} {usage : UsageTable α} {deductions : List (Deduction α)}
  {u : SpoolUsage α}

/-- The amounts whose spools have no row yet for this end of the run. -/
def due (t : Tables α) (run : Uuid) (target : RunStatus) (usage : UsageTable α) : UsageTable α :=
  usage.filter (unjournaled t.deductions run target)

theorem unjournaled_eq_false :
    unjournaled deductions run target u = false ↔
      ∃ d ∈ deductions, d.covers run target u.spool = true := by
  simp [unjournaled]

/-- An amount is not due if another one of its spool is not. -/
theorem unjournaled_of_spool {v : SpoolUsage α} (hspool : u.spool = v.spool) :
    unjournaled deductions run target u = unjournaled deductions run target v := by
  rw [unjournaled, unjournaled, hspool]

/-- Amounts whose spools have rows may be left out. -/
theorem due_filter {t : Tables α} {p : SpoolUsage α → Bool}
    (h : ∀ u ∈ usage, p u = false → unjournaled t.deductions run target u = false) :
    due t run target (usage.filter p) = due t run target usage := by
  rw [due, due, List.filter_filter]
  refine List.filter_congr fun u hu => ?_
  cases hp : p u with
  | false => rw [h u hu hp, Bool.and_false]
  | true => rw [Bool.and_true]

end Due

/-! ## What a call writes -/

variable [Scalar α] {now : Timestamp} {run : Uuid} {target : RunStatus} {reason : DeductionReason}
  {spools : List (Spool α)} {usage usage' : UsageTable α} {rows : List (Deduction α)}
  {db db' : Database α}

/-- What has been written by a call that gave `rows`. -/
structure Applied (now : Timestamp) (run : Uuid) (target : RunStatus) (reason : DeductionReason)
    (usage : UsageTable α) (db : Database α) (rows : List (Deduction α)) (db' : Database α) :
    Prop where
  amounts : rows.map (fun d => (d.spool, d.grams)) =
    (due db.tables run target usage).map fun u => (u.spool, u.grams)
  ascending : rows.Pairwise fun d e => d.spool.before e.spool = true
  ends : ∀ d ∈ rows, d.run = run ∧ d.target = target ∧ d.reason = reason
  weights : ∀ d ∈ rows, (∃ s ∈ db.tables.spools, s.id = d.spool ∧ s.weight = d.weightBefore) ∧
    d.weightAfter = d.weightBefore - d.grams
  tables : db'.tables = { db.tables with
    spools := db.tables.spools.map (Spool.spent now (due db.tables run target usage))
    deductions := db.tables.deductions ++ rows }

/-- A call that succeeds has journaled and deducted what was due. -/
theorem applied_of_gives (hids : (db.tables.spools.map Spool.id).Nodup) (husage : usage.Sorted)
    (h : Gives (applyDeductions now run target reason usage) db rows db') :
    Applied now run target reason usage db rows db' := by
  obtain ⟨hrows, htables, -⟩ := gives_applyDeductions husage.nodup h
  refine ⟨map_deducted hrows, ?_, fun d hd => ?_, fun d hd => ?_, ?_⟩
  · have hspools : rows.map (fun d => d.spool) = (due db.tables run target usage).map
        SpoolUsage.spool := map_eq_of_forall₂ (fun u d h => h.spool_eq) hrows
    have hsorted : ((due db.tables run target usage).map SpoolUsage.spool).Pairwise
        fun a b => a.before b = true := List.pairwise_map.mpr (List.Pairwise.filter _ husage)
    exact List.pairwise_map.mp (hspools ▸ hsorted)
  · obtain ⟨u, -, hu⟩ := exists_of_forall₂ hrows hd
    exact ⟨hu.run_eq, hu.target_eq, hu.reason_eq⟩
  · obtain ⟨u, -, hu⟩ := exists_of_forall₂ hrows hd
    exact ⟨hu.stock, hu.left⟩
  · have hspent : db.tables.spools.map (reweighed now rows) =
        db.tables.spools.map (Spool.spent now (due db.tables run target usage)) :=
      List.map_congr_left fun s hs => reweighed_eq_spent hids hs hrows
    rw [htables, hspent]

namespace Applied

/-- The rows tell nothing of amounts that were not due. -/
theorem congr (h : Applied now run target reason usage db rows db')
    (hdue : due db.tables run target usage = due db.tables run target usage') :
    Applied now run target reason usage' db rows db' where
  amounts := hdue ▸ h.amounts
  ascending := h.ascending
  ends := h.ends
  weights := h.weights
  tables := hdue ▸ h.tables

theorem deductions (h : Applied now run target reason usage db rows db') :
    db'.tables.deductions = db.tables.deductions ++ rows := by
  rw [h.tables]

/-- No spool is gone after the call. -/
theorem exists_spool (h : Applied now run target reason usage db rows db') {id : Uuid}
    (hspool : ∃ s ∈ db.tables.spools, s.id = id) : ∃ s ∈ db'.tables.spools, s.id = id := by
  obtain ⟨s, hs, rfl⟩ := hspool
  have hspent : ∀ due : UsageTable α, (s.spent now due).id = s.id := by
    intro due
    unfold Spool.spent
    split <;> rfl
  rw [h.tables]
  exact ⟨_, List.mem_map_of_mem hs, hspent _⟩

/-- An amount had a row or was due, so it has a row afterwards. -/
theorem journaled (h : Applied now run target reason usage db rows db') {u : SpoolUsage α}
    (hu : u ∈ usage) : ∃ d ∈ db'.tables.deductions, d.covers run target u.spool = true := by
  rw [h.deductions]
  cases hnew : unjournaled db.tables.deductions run target u with
  | false =>
    obtain ⟨d, hd, hcovers⟩ := unjournaled_eq_false.mp hnew
    exact ⟨d, List.mem_append_left _ hd, hcovers⟩
  | true =>
    have hpair : (u.spool, u.grams) ∈ rows.map fun d => (d.spool, d.grams) := by
      rw [h.amounts]
      exact List.mem_map.mpr ⟨u, List.mem_filter.mpr ⟨hu, hnew⟩, rfl⟩
    obtain ⟨d, hd, heq⟩ := List.mem_map.mp hpair
    obtain ⟨hrun, htarget, -⟩ := h.ends d hd
    refine ⟨d, List.mem_append_right _ hd, ?_⟩
    simp [NewDeduction.covers, hrun, htarget, (Prod.mk.inj heq).1]

end Applied

/-! ## Calls with nothing to do -/

/-- The ledger has looked up every spool it was asked for. -/
theorem found_of_gives_deductAll :
    ∀ {usage : UsageTable α} {db db' : Database α} {rows : List (Deduction α)},
      Gives (deductAll now run target reason spools usage) db rows db' →
      ∀ u ∈ usage, ∃ s ∈ spools, s.id = u.spool
  | [], _, _, _, _ => nofun
  | u :: usage, db, db', rows, h => by
    obtain ⟨row, db₁, hrow, h⟩ := gives_bind.mp h
    obtain ⟨rest, db₂, hrest, -⟩ := gives_bind.mp h
    obtain ⟨s, db₃, hs, -⟩ := gives_bind.mp hrow
    obtain ⟨hs, -⟩ := gives_expect.mp hs
    intro v hv
    rcases List.mem_cons.mp hv with rfl | hv
    · exact ⟨s, List.mem_of_find?_eq_some hs, by simpa using List.find?_some hs⟩
    · exact found_of_gives_deductAll hrest v hv

/-- Where every spool is there and has a row, one after the other is left alone. -/
theorem gives_deductAll_of_journaled
    (hfound : ∀ u ∈ usage, ∃ s ∈ spools, s.id = u.spool)
    (hrows : ∀ u ∈ usage, ∃ d ∈ db.tables.deductions, d.covers run target u.spool = true) :
    Gives (deductAll now run target reason spools usage) db [] db := by
  induction usage with
  | nil => exact gives_pure.mpr ⟨rfl, rfl⟩
  | cons u usage ih =>
    obtain ⟨⟨q, hq, hid⟩, hfound⟩ := List.forall_mem_cons.mp hfound
    obtain ⟨⟨d, hd, hcovers⟩, hrows⟩ := List.forall_mem_cons.mp hrows
    have hsome : (spools.find? fun s => s.id = u.spool).isSome = true :=
      List.find?_isSome.mpr ⟨q, hq, by simpa using hid⟩
    obtain ⟨s, hs⟩ := Option.isSome_iff_exists.mp hsome
    have hrow : db.tables.deductions.any (fun d => d.covers run target u.spool) = true :=
      List.any_eq_true.mpr ⟨d, hd, hcovers⟩
    -- the journal is asked first, so the weight of the spool does not matter
    have hskip : Gives (deduct now run target reason spools u) db none db :=
      gives_bind.mpr ⟨s, db, gives_expect.mpr ⟨hs, rfl⟩, gives_bind.mpr
        ⟨true, db, gives_deductionExists.mpr ⟨hrow.symm, rfl⟩, gives_pure.mpr ⟨rfl, rfl⟩⟩⟩
    exact gives_bind.mpr ⟨none, db, hskip, gives_bind.mpr ⟨[], db, ih hfound hrows,
      gives_pure.mpr ⟨rfl, rfl⟩⟩⟩

omit [Scalar α] in
theorem mem_inOrder_filter {ids : List Uuid} {table : List (Spool α)} {s : Spool α}
    (hs : s ∈ table) (hid : s.id ∈ ids) :
    s ∈ inOrder (fun a b => !b.id.before a.id) (table.filter fun s => ids.contains s.id) :=
  (inOrder_perm _ _).mem_iff.mpr (List.mem_filter.mpr ⟨hs, List.contains_iff_mem.mpr hid⟩)

/-- A call all of whose spools have rows gives no row and leaves the database as it is. -/
theorem gives_applyDeductions_of_journaled
    (hfound : ∀ u ∈ usage, ∃ s ∈ db.tables.spools, s.id = u.spool)
    (hrows : ∀ u ∈ usage, ∃ d ∈ db.tables.deductions, d.covers run target u.spool = true) :
    Gives (applyDeductions now run target reason usage) db [] db := by
  refine gives_bind.mpr ⟨_, db, gives_spoolsOf.mpr ⟨rfl, rfl⟩, ?_⟩
  refine gives_deductAll_of_journaled (fun u hu => ?_) hrows
  obtain ⟨s, hs, hid⟩ := hfound u hu
  exact ⟨s, mem_inOrder_filter hs (hid ▸ List.mem_map_of_mem hu), hid⟩

theorem found_of_gives_applyDeductions
    (h : Gives (applyDeductions now run target reason usage) db rows db') :
    ∀ u ∈ usage, ∃ s ∈ db.tables.spools, s.id = u.spool := by
  intro u hu
  obtain ⟨spools, db₁, hspools, h⟩ := gives_bind.mp h
  obtain ⟨rfl, rfl⟩ := gives_spoolsOf.mp hspools
  obtain ⟨s, hs, hid⟩ := found_of_gives_deductAll h u hu
  exact ⟨s, mem_of_mem_inOrder_filter hs, hid⟩

/-! ## One call after another -/

/-- Whatever the database holds, a call that succeeds deducts what was due and nothing else, the
same call gives no row and changes nothing when it is repeated, and a later call for this end of the
run does what it would do without the spools of the first. -/
theorem deducted_once (hids : (db.tables.spools.map Spool.id).Nodup) (husage : usage.Sorted)
    (h : Gives (applyDeductions now run target reason usage) db rows db') :
    Applied now run target reason usage db rows db' ∧
      (∀ (again : Timestamp) (why : DeductionReason),
        Gives (applyDeductions again run target why usage) db' [] db') ∧
      ∀ (later : Database α), db'.tables.deductions ⊆ later.tables.deductions →
        (later.tables.spools.map Spool.id).Nodup →
        ∀ (again : Timestamp) (why : DeductionReason) (other : UsageTable α)
          (added : List (Deduction α)) (last : Database α), other.Sorted →
          Gives (applyDeductions again run target why other) later added last →
          Applied again run target why (other.filter fun v => usage.all fun u => u.spool ≠ v.spool)
            later added last := by
  have happlied := applied_of_gives hids husage h
  refine ⟨happlied, fun again why => ?_, ?_⟩
  · exact gives_applyDeductions_of_journaled
      (fun u hu => happlied.exists_spool (found_of_gives_applyDeductions h u hu))
      fun u hu => happlied.journaled hu
  · intro later hkept hlater again why other added last hother hagain
    refine (applied_of_gives hlater hother hagain).congr (due_filter fun v _ hv => ?_).symm
    obtain ⟨u, hu, hspool⟩ : ∃ u ∈ usage, u.spool = v.spool := by simpa using hv
    obtain ⟨d, hd, hcovers⟩ := happlied.journaled hu
    rw [← unjournaled_of_spool hspool]
    exact unjournaled_eq_false.mpr ⟨d, hkept hd, hcovers⟩

/-- A run with a spool of 100 g. -/
def stockedSession : List (Event Float) :=
  let item : NewItem Float := ⟨.numbered 9 1, none, 1, none, none, none⟩
  [.createSpool ⟨"PLA", "PLA", none, 100.0, 0.02⟩,
    .createRun ⟨⟨none, 2.0, none, none, none, none, none⟩, [item], []⟩].map
    (Event.mk .builtin ⟨1767225600, 0⟩)

/-- After 60 g were deducted from the spool, it holds less than that, and deducting them again
succeeds nevertheless. -/
theorem sixty_grams_deducted_once :
    let db := (Database.fresh {}).afterAll stockedSession
    let usage : UsageTable Float := [⟨.numbered 1 1, 60.0⟩]
    let body := applyDeductions ⟨1767232800, 0⟩ (.numbered 2 1) .completed .consumption usage
    ∃ rows db', (db.tables.spools.map Spool.id).Nodup ∧ usage.Sorted ∧ Gives body db rows db' ∧
      db'.tables.spools.all (fun s => Scalar.lt s.weight 60.0) = true ∧ Gives body db' [] db' := by
  intro db usage body
  have hids : (db.tables.spools.map Spool.id).Nodup := by decide +kernel
  have husage : usage.Sorted := List.pairwise_singleton _ _
  have hshort : (body.run db).1.isOk = true ∧
      (body.run db).2.tables.spools.all (fun s => Scalar.lt s.weight 60.0) = true := by
    decide +kernel
  rcases hrun : body.run db with ⟨why | rows, db'⟩
  · rw [hrun] at hshort
    exact nomatch hshort.1
  · rw [hrun] at hshort
    exact ⟨rows, db', hids, husage, hrun, hshort.2, (deducted_once hids husage hrun).2.1 _ _⟩

end PrintFarm.Ledger
