import PrintFarm.Proofs.Arithmetic
import PrintFarm.Proofs.Frozen

/-!
# The journal of a run

The rows that a run has in the journal are exactly what it has ended as.  A run is ended by one
operation at most, and its rows are what that operation was given: the measured lines of a completed
run, the reported usage of a run that was cancelled or has failed.

* `endings` are the operations in the past that have ended a run.
* `Run.Journaled` says, for each way a run can stand, which operation has ended it and which rows
  it has.
* `journaled_closed` proves it for a run at its end; `Run.Journaled.keeps` carries it on, for a run
  that has ended is frozen.
-/

namespace PrintFarm

open Store Tx
open Scalar (IsAmount)

variable {α : Type} [Scalar α]

/-! ## What a run has ended as -/

/-- The accepted operations in the past that have ended the run. -/
def endings (run : Uuid) (past : List (Moment α)) : List (Operation α) :=
  (past.filter fun m => m.isAccepted && m.event.operation.ends? = some run).map
    fun m => m.event.operation

/-- The rows are one for each spool with a finite positive entry, in the order of the spools, and
journal the sum of its finite positive entries in the order they were reported. -/
structure Reported (rows : List (Deduction α)) (entries : List (SpoolUsage α)) : Prop where
  ascending : rows.Pairwise fun d e => d.spool.before e.spool = true
  sums : ∀ spool grams, (∃ d ∈ rows, d.spool = spool ∧ d.grams = grams) ↔
    positiveAmounts spool entries ≠ [] ∧
      grams = (positiveAmounts spool entries).foldl (· + ·) Scalar.zero

/-- The rows are those of one status and reason, and no two are of one spool. -/
structure Attributed (rows : List (Deduction α)) (target : RunStatus) (reason : DeductionReason) :
    Prop where
  targets : ∀ d ∈ rows, d.target = target ∧ d.reason = reason
  spools : (rows.map fun d => d.spool).Nodup

/-- The spool of a line and what was used of it, if that is above zero. -/
def Material.positiveUse? (m : Material α) : Option (Uuid × α) :=
  m.actualTotal.bind fun grams =>
    if Scalar.lt Scalar.zero grams then some (m.spool, grams) else none

/-- The spool of a line and what is deducted for it when the run is completed: what was used of it, if
that is a finite weight above zero. -/
def Material.deducted? (m : Material α) : Option (Uuid × α) :=
  m.actualTotal.bind fun grams =>
    if Scalar.isPositive grams then some (m.spool, grams) else none

/-- A finite weight is deducted if it is above zero. -/
theorem Material.deducted?_eq {m : Material α}
    (hfinite : ∀ grams, m.actualTotal = some grams → Scalar.isFinite grams = true) :
    m.deducted? = m.positiveUse? := by
  unfold deducted? positiveUse?
  cases hactual : m.actualTotal with
  | none => rfl
  | some grams => simp [Scalar.isPositive, hfinite grams hactual]

theorem Material.deducted?_eq_some {m : Material α} {p : Uuid × α} :
    m.deducted? = some p ↔
      ∃ g, m.actualTotal = some g ∧ Scalar.isPositive g = true ∧ (m.spool, g) = p := by
  simp [deducted?, Option.bind_eq_some_iff]

/-- How the run stands, which operation in the past has ended it, and which rows it has. -/
inductive Run.Journaled (past : List (Moment α)) (t : Tables α) (r : Run α) : Prop
  | inProgress (hstatus : r.status = .inProgress) (hendings : endings r.id past = [])
    (hrows : t.deductionsOf r.id = [])
  | completed (hstatus : r.status = .completed)
    (hendings : endings r.id past = [.completeRun r.id])
    (hrows : Attributed (t.deductionsOf r.id) .completed .consumption)
    (hlines : (∀ m ∈ t.materialsOf r.id, ∀ grams, m.actualTotal = some grams →
        Scalar.isFinite grams = true) →
      ((t.deductionsOf r.id).map fun d => (d.spool, d.grams)).Perm
        ((t.materialsOf r.id).filterMap Material.positiveUse?))
  | reversed {request : CancelRequest α} (hstatus : r.status = .cancelled)
    (hmode : r.cancelMode = some .fullReversal) (hrequest : request.mode = .fullReversal)
    (hendings : endings r.id past = [.cancelRun r.id request])
    (hrows : t.deductionsOf r.id = [])
  | partly {request : CancelRequest α} (hstatus : r.status = .cancelled)
    (hmode : r.cancelMode = some .recordPartial) (hrequest : request.mode = .recordPartial)
    (hendings : endings r.id past = [.cancelRun r.id request])
    (hrows : Attributed (t.deductionsOf r.id) .cancelled .partialUsage)
    (hreported : Reported (t.deductionsOf r.id) request.usage)
  | failed {request : FailRequest α} (hstatus : r.status = .failed)
    (hendings : endings r.id past = [.failRun r.id request])
    (hrows : Attributed (t.deductionsOf r.id) .failed .waste)
    (hreported : Reported (t.deductionsOf r.id) request.waste)
    (hwaste : r.wasteGrams = some (Scalar.sum ((t.deductionsOf r.id).map fun d => d.grams)))

/-- What is said of a run that has ended is said of it ever after. -/
theorem Run.Journaled.keeps {past later : List (Moment α)} {t t' : Tables α} {r r' : Run α}
    (h : r.Journaled past t) (hkeeps : t.Keeps t' r r')
    (hendings : endings r.id (past ++ later) = endings r.id past) :
    r'.Journaled (past ++ later) t' := by
  have hid := hkeeps.id_eq
  have hstatus := hkeeps.status_eq
  have hmode : r'.cancelMode = r.cancelMode := by
    have hcolumn := congrArg Run.cancelMode hkeeps.record
    exact hcolumn
  have hwaste : r'.wasteGrams = r.wasteGrams := by
    have hcolumn := congrArg Run.wasteGrams hkeeps.record
    exact hcolumn
  have hrows := hkeeps.deductions
  have hlines := hkeeps.materials
  rw [← hid] at hrows hlines hendings
  cases h with
  | inProgress hs he hr =>
    rw [← hid] at he hr
    exact .inProgress (hstatus.trans hs) (hendings.trans he) (hrows.trans hr)
  | completed hs he hr hl =>
    rw [← hid] at he hr hl
    rw [← hrows] at hr hl
    rw [← hlines] at hl
    exact .completed (hstatus.trans hs) (hendings.trans he) hr hl
  | reversed hs hm hq he hr =>
    rw [← hid] at he hr
    exact .reversed (hstatus.trans hs) (hmode.trans hm) hq (hendings.trans he) (hrows.trans hr)
  | partly hs hm hq he hr hp =>
    rw [← hid] at he hr hp
    rw [← hrows] at hr hp
    exact .partly (hstatus.trans hs) (hmode.trans hm) hq (hendings.trans he) hr hp
  | failed hs he hr hp hw =>
    rw [← hid] at he hr hp hw
    rw [← hrows] at hr hp hw
    exact .failed (hstatus.trans hs) (hendings.trans he) hr hp (hwaste.trans hw)

/-! ## Rows for what was used -/

section Rows

variable {now : Timestamp} {run : Uuid} {target : RunStatus} {reason : DeductionReason}
  {spools : List (Spool α)} {usage : UsageTable α} {rows : List (Deduction α)}

theorem attributed_of_deducted (husage : (usage.map SpoolUsage.spool).Nodup)
    (hrows : List.Forall₂ (Ledger.Deducted now run target reason spools) usage rows) :
    Attributed rows target reason := by
  constructor
  · intro d hd
    obtain ⟨u, -, hu⟩ := exists_of_forall₂ hrows hd
    exact ⟨hu.target_eq, hu.reason_eq⟩
  · rw [map_eq_of_forall₂ (fun u d h => h.spool_eq) hrows]
    exact husage

/-- The rows for what was reported. -/
theorem reported_of_deducted {entries : List (SpoolUsage α)}
    (hrows : List.Forall₂ (Ledger.Deducted now run target reason spools) (positiveUsage entries)
      rows) : Reported rows entries := by
  constructor
  · have hspools : rows.map (fun d => d.spool) = (positiveUsage entries).map SpoolUsage.spool :=
      map_eq_of_forall₂ (fun u d h => h.spool_eq) hrows
    have hsorted : ((positiveUsage entries).map SpoolUsage.spool).Pairwise
        fun a b => a.before b = true := List.pairwise_map.mpr (positiveUsage_sorted entries)
    exact List.pairwise_map.mp (hspools ▸ hsorted)
  · intro spool grams
    have hpairs : (spool, grams) ∈ rows.map (fun d => (d.spool, d.grams)) ↔
        (⟨spool, grams⟩ : SpoolUsage α) ∈ positiveUsage entries := by
      rw [Ledger.map_deducted hrows, List.mem_map]
      constructor
      · intro h
        obtain ⟨u, hu, heq⟩ := h
        obtain ⟨rfl, rfl⟩ := Prod.mk.inj heq
        exact hu
      · exact fun hu => ⟨_, hu, rfl⟩
    have hsums := hpairs.trans mem_positiveUsage
    rw [List.mem_map] at hsums
    simpa only [Prod.mk.injEq] using hsums

/-- The rows of a run that was in progress are those of its end. -/
theorem Tables.Consistent.deductionsOf_closed {t : Tables α} (ht : t.Consistent) {r : Run α}
    {ending : RunEnding α} (hr : r ∈ t.runs) (hprogress : r.status = .inProgress)
    (hrows : List.Forall₂ (Ledger.Deducted now r.id target reason spools) usage rows) :
    (t.closed now r ending rows).deductionsOf r.id = rows := by
  have hold : t.deductions.filter (fun d => d.run = r.id) = [] :=
    List.filter_eq_nil_iff.mpr fun d hd hrun =>
      ht.not_journaled hr hprogress d hd (of_decide_eq_true hrun)
  have hnew : rows.filter (fun d => d.run = r.id) = rows := by
    refine List.filter_eq_self.mpr fun d hd => ?_
    obtain ⟨u, -, hu⟩ := exists_of_forall₂ hrows hd
    exact decide_eq_true hu.run_eq
  show (t.deductions ++ rows).filter _ = rows
  rw [List.filter_append, hold, hnew, List.nil_append]

end Rows

/-! ## The lines of a completed run -/

omit [Scalar α] in
/-- Lines of different spools stay so where some are dropped. -/
theorem nodup_filterMap_spool {β : Type} {lines : List (Material α)}
    (hspools : (lines.map Material.spool).Nodup) {f : Material α → Option β} {key : β → Uuid}
    (hkey : ∀ m b, f m = some b → key b = m.spool) : ((lines.filterMap f).map key).Nodup := by
  refine List.pairwise_map.mpr (List.pairwise_filterMap.mpr ?_)
  refine (List.pairwise_map.mp hspools).imp fun {m n} hne b hb c hc => ?_
  rw [hkey m b hb, hkey n c hc]
  exact hne

/-- The lines with a finite weight above zero count and no other. -/
theorem perm_positiveUsage [LawfulScalar α] {lines : List (Material α)}
    (hspools : (lines.map Material.spool).Nodup) :
    ((positiveUsage (lines.filterMap fun m => m.actualTotal.map fun grams => ⟨m.spool, grams⟩)).map
      fun u => (u.spool, u.grams)).Perm (lines.filterMap Material.deducted?) := by
  have hused : ((lines.filterMap fun m =>
      m.actualTotal.map fun grams => (⟨m.spool, grams⟩ : SpoolUsage α)).map
        SpoolUsage.spool).Nodup := by
    refine nodup_filterMap_spool hspools fun m u hu => ?_
    obtain ⟨g, -, rfl⟩ := Option.map_eq_some_iff.mp hu
    rfl
  refine (List.perm_ext_iff_of_nodup ?_ ?_).mpr fun p => ?_
  · refine List.Nodup.of_map Prod.fst ?_
    rw [List.map_map]
    exact (positiveUsage_sorted _).nodup
  · refine List.Nodup.of_map Prod.fst (nodup_filterMap_spool hspools fun m p hp => ?_)
    obtain ⟨g, -, -, rfl⟩ := Material.deducted?_eq_some.mp hp
    rfl
  · rw [List.mem_map, List.mem_filterMap]
    constructor
    · intro h
      obtain ⟨u, hu, rfl⟩ := h
      obtain ⟨hu, hamount⟩ := (mem_positiveUsage_of_nodup hused).mp hu
      obtain ⟨m, hm, hmu⟩ := List.mem_filterMap.mp hu
      obtain ⟨g, hg, rfl⟩ := Option.map_eq_some_iff.mp hmu
      exact ⟨m, hm, Material.deducted?_eq_some.mpr ⟨g, hg, hamount, rfl⟩⟩
    · intro h
      obtain ⟨m, hm, hp⟩ := h
      obtain ⟨g, hg, hamount, rfl⟩ := Material.deducted?_eq_some.mp hp
      refine ⟨⟨m.spool, g⟩, (mem_positiveUsage_of_nodup hused).mpr ⟨?_, hamount⟩, rfl⟩
      exact List.mem_filterMap.mpr ⟨m, hm, by rw [hg]; rfl⟩

/-- The end of a run changes no spool of a line and nothing that was measured. -/
theorem measured_closed {now : Timestamp} {t : Tables α} {r : Run α} {ending : RunEnding α}
    {rows : List (Deduction α)} :
    ((t.closed now r ending rows).materialsOf r.id).map (fun m => (m.spool, m.actualTotal)) =
      (t.materialsOf r.id).map fun m => (m.spool, m.actualTotal) := by
  have hfixed : ∀ m : Material α, (fixedLine now t.spools m).run = m.run ∧
      (fixedLine now t.spools m).spool = m.spool ∧
      (fixedLine now t.spools m).actualTotal = m.actualTotal := by
    intro m
    unfold fixedLine
    split <;> exact ⟨rfl, rfl, rfl⟩
  show ((changeRows _ _ t.materials).filter _).map _ = _
  rw [filter_changeRows fun m _ _ => by rw [(hfixed m).1], map_changeRows]
  · rfl
  · intro m _ _
    rw [(hfixed m).2.1, (hfixed m).2.2]

/-- What a completed run deducts is what its lines have used. -/
theorem consumed_linesOf {t : Tables α} (ht : t.Consistent) (run : Uuid) :
    Workflow.consumed (t.linesOf run) =
      (t.materialsOf run).filterMap fun m => m.actualTotal.map fun grams => ⟨m.spool, grams⟩ := by
  rw [← Workflow.linesOf_materials ht run, List.filterMap_map]
  rfl

/-- The lines of a run are of different spools. -/
theorem nodup_materialsOf {t : Tables α} (ht : t.Consistent) (run : Uuid) :
    ((t.materialsOf run).map Material.spool).Nodup := by
  have hpairs : ((t.materialsOf run).map fun m => (m.run, m.spool)).Nodup :=
    ht.materialSpools.sublist (List.filter_sublist.map _)
  have hrun : (t.materialsOf run).map (fun m => (m.run, m.spool)) =
      ((t.materialsOf run).map Material.spool).map fun spool => (run, spool) := by
    rw [List.map_map]
    refine List.map_congr_left fun m hm => ?_
    show (m.run, m.spool) = (run, m.spool)
    rw [of_decide_eq_true (List.mem_filter.mp hm).2]
  rw [hrun] at hpairs
  exact hpairs.of_map

/-- A completed run journals the lines with a finite weight above zero. -/
theorem perm_completed [LawfulScalar α] {t : Tables α} (ht : t.Consistent) {now : Timestamp}
    {r : Run α} {ending : RunEnding α} {rows : List (Deduction α)}
    (hpairs : rows.map (fun d => (d.spool, d.grams)) =
      (positiveUsage (Workflow.consumed (t.linesOf r.id))).map fun u => (u.spool, u.grams)) :
    (rows.map fun d => (d.spool, d.grams)).Perm
      (((t.closed now r ending rows).materialsOf r.id).filterMap Material.deducted?) := by
  have hmeasured : ((t.closed now r ending rows).materialsOf r.id).map
      (fun m => (m.spool, m.actualTotal)) = (t.materialsOf r.id).map
        fun m => (m.spool, m.actualTotal) := measured_closed
  have hlines : ((t.closed now r ending rows).materialsOf r.id).filterMap Material.deducted? =
      (t.materialsOf r.id).filterMap Material.deducted? := by
    have huse := congrArg (List.filterMap fun p : Uuid × Option α => p.2.bind fun grams =>
      if Scalar.isPositive grams then some (p.1, grams) else none) hmeasured
    rw [List.filterMap_map, List.filterMap_map] at huse
    exact huse
  rw [hpairs, consumed_linesOf ht, hlines]
  exact perm_positiveUsage (nodup_materialsOf ht r.id)

/-! ## The end of a run -/

/-- The end of a run journals what its operation was given. -/
theorem journaled_closed [LawfulScalar α] {catalog : Catalog} {now : Timestamp} {t : Tables α}
    (ht : t.Consistent) {r : Run α} {op : Operation α} {ending : RunEnding α}
    {reason : DeductionReason} {usage : UsageTable α} {rows : List (Deduction α)}
    {past : List (Moment α)} (hr : r ∈ t.runs) (hprogress : r.status = .inProgress)
    (hcloses : Closes catalog now t r op ending reason usage)
    (hrows : List.Forall₂ (Ledger.Deducted now r.id ending.status reason t.spools) usage rows)
    (hendings : endings r.id past = [op]) :
    (endedRun now ending r).Journaled past (t.closed now r ending rows) := by
  have hjournal : (t.closed now r ending rows).deductionsOf (endedRun now ending r).id = rows :=
    ht.deductionsOf_closed hr hprogress hrows
  have hattributed := attributed_of_deducted hcloses.nodup_spools hrows
  have hpairs := Ledger.map_deducted hrows
  cases hcloses with
  | complete hmeasured =>
    rw [← hjournal] at hattributed
    refine .completed rfl hendings hattributed fun hfinite => ?_
    rw [hjournal, ← List.filterMap_congr fun m hm => Material.deducted?_eq (hfinite m hm)]
    exact perm_completed ht hpairs
  | @cancel request _ husage =>
    rcases CancelRequest.deductible_eq_ok.mp husage with ⟨hmode, rfl⟩ | ⟨hmode, -, rfl⟩
    · cases hrows
      exact .reversed rfl (congrArg some hmode) hmode hendings hjournal
    · have hreported := reported_of_deducted hrows
      rw [← hjournal] at hattributed hreported
      exact .partly rfl (congrArg some hmode) hmode hendings hattributed hreported
  | @fail request hvalid =>
    have hreported := reported_of_deducted hrows
    have hgrams : rows.map (fun d => d.grams) =
        (positiveUsage request.waste).map SpoolUsage.grams :=
      map_eq_of_forall₂ (fun u d h => h.grams_eq) hrows
    have hamount : IsAmount (Scalar.sum (rows.map fun d => d.grams)) := by
      refine Scalar.isAmount_sum fun g hg => ?_
      obtain ⟨d, hd, rfl⟩ := List.mem_map.mp hg
      obtain ⟨u, -, hu⟩ := exists_of_forall₂ hrows hd
      exact LawfulScalar.isAmount_of_positive _ hu.positive
    have hstored : Scalar.stored? (Scalar.sum (rows.map fun d => d.grams)) =
        some (Scalar.sum (rows.map fun d => d.grams)) :=
      Scalar.stored?_eq_some.mpr ⟨hamount.isNumber, rfl⟩
    rw [← hjournal] at hattributed hreported
    refine .failed rfl hendings hattributed hreported ?_
    rw [hjournal]
    show (storedOption (some _)).or r.wasteGrams = some (Scalar.sum (rows.map fun d => d.grams))
    rw [← hgrams, storedOption, Option.bind_some, hstored, Option.some_or]

/-! ## All steps -/

/-- Another moment ends the run, or it does not. -/
theorem endings_concat {run : Uuid} {past : List (Moment α)} {m : Moment α} :
    endings run (past ++ [m]) = endings run past ++
      if m.isAccepted && m.event.operation.ends? = some run then [m.event.operation] else [] := by
  rw [endings, List.filter_append, List.map_append]
  congr 1
  rw [List.filter_singleton]
  cases m.isAccepted && m.event.operation.ends? = some run <;> rfl

/-- What has happened to the runs: one that is missing or in progress was never ended, and one that
has ended is as it was ended. -/
structure Recorded (past : List (Moment α)) (db : Database α) : Prop where
  unended : ∀ run, (∀ r ∈ db.tables.runs, r.id = run → r.status = .inProgress) →
    endings run past = []
  ended : ∀ r ∈ db.tables.runs, r.status.isTerminal = true → r.Journaled past db.tables

/-- A refused event changes nothing. -/
theorem Recorded.of_refused {past : List (Moment α)} {e : Event α} {db : Database α}
    (h : Recorded past db) {why : Refusal α} (hrun : (e.run db).1 = .error why)
    (hsame : (e.after db).tables = db.tables) : Recorded (past ++ [⟨e, db⟩]) (e.after db) := by
  have hendings : ∀ run, endings run (past ++ [⟨e, db⟩]) = endings run past := by
    intro run
    have hrefused : (⟨e, db⟩ : Moment α).isAccepted = false := Moment.isAccepted_of_error hrun
    rw [endings_concat, hrefused]
    exact List.append_nil _
  constructor
  · intro run hruns
    rw [hendings]
    exact h.unended run (hsame ▸ hruns)
  · intro r hr hend
    rw [hsame] at hr ⊢
    exact (h.ended r hr hend).keeps (.refl hr) (hendings r.id)

/-- An accepted event ends one run, or none. -/
theorem Recorded.of_step [LawfulScalar α] {past : List (Moment α)} {e : Event α} {db : Database α}
    (hdb : db.Sound) (h : Recorded past db) {answer : Answer α} (hrun : (e.run db).1 = .ok answer)
    (hstep : Step e.catalog e.now db.tables e.operation (e.after db).tables) :
    Recorded (past ++ [⟨e, db⟩]) (e.after db) := by
  have hnext := (e.sound_after hdb).consistent
  have haccepted : (⟨e, db⟩ : Moment α).isAccepted = true := Moment.isAccepted_of_ok hrun
  have hother : ∀ {run}, e.operation.ends? ≠ some run →
      endings run (past ++ [⟨e, db⟩]) = endings run past := by
    intro run hends
    rw [endings_concat, haccepted]
    simp [hends]
  constructor
  · intro run hruns
    by_cases hends : e.operation.ends? = some run
    · obtain ⟨r, ending, _, _, _, hid, hr, -, hcloses, -, htables⟩ := hstep.closes hends
      have hmem : endedRun e.now ending r ∈ (e.after db).tables.runs := by
        rw [htables]
        exact mem_changeRows.mpr ⟨r, hr, by simp⟩
      have hprogress : ending.status = .inProgress := hruns _ hmem hid
      have hterminal := hcloses.isTerminal
      rw [hprogress] at hterminal
      exact nomatch hterminal
    · rw [hother hends]
      refine h.unended run fun r hr hid => RunStatus.isTerminal_eq_false.mp ?_
      cases hend : r.status.isTerminal with
      | false => rfl
      | true =>
        obtain ⟨r', hkeeps⟩ := hstep.keeps hdb.consistent hr hend
        have hprogress := hruns r' hkeeps.present (hkeeps.id_eq.trans hid)
        rw [← hkeeps.status_eq, hprogress] at hend
        exact nomatch hend
  · intro r' hr' hend'
    rcases hstep.ended_cases hdb.consistent hnext hr' hend' with
      ⟨r, ending, _, _, _, ⟨hr, hprogress, hcloses, hrows, htables⟩, rfl⟩ |
      ⟨hends, r, hr, hend, hkeeps⟩
    · have hunended : endings r.id past = [] := by
        refine h.unended r.id fun q hq hqid => ?_
        rw [eq_of_key_eq hdb.consistent.runIds hq hr hqid]
        exact hprogress
      have hendings : endings r.id (past ++ [⟨e, db⟩]) = [e.operation] := by
        rw [endings_concat, hunended, haccepted, hcloses.ends?_eq]
        simp
      rw [htables]
      exact journaled_closed hdb.consistent hr hprogress hcloses hrows hendings
    · -- a run that this event has not ended had ended before
      exact (h.ended r hr hend).keeps hkeeps (hother (hkeeps.id_eq ▸ hends))

/-- Every run stands as the operation has left it that has ended it, with the rows that it has
journaled. -/
theorem runs_journaled [LawfulScalar α] (start : Sequences) (events : List (Event α)) :
    ∀ r ∈ ((Database.fresh start).afterAll events).tables.runs,
      r.Journaled ((Database.fresh start).history events)
        ((Database.fresh start).afterAll events).tables := by
  have hrecorded := Database.history_induction (motive := Recorded) (.fresh start)
    ⟨fun _ _ => rfl, by simp [Database.fresh]⟩
    (fun past e db hdb h => by
      rcases e.step_or_refused hdb with ⟨_, hrun, hstep⟩ | ⟨_, hrun, hsame⟩
      · exact h.of_step hdb hrun hstep
      · exact h.of_refused hrun hsame) events
  have hsound := Database.sound_afterAll (Database.Sound.fresh (α := α) start) events
  intro r hr
  cases hend : r.status.isTerminal with
  | true => exact hrecorded.ended r hr hend
  | false =>
    have hprogress := RunStatus.isTerminal_eq_false.mp hend
    refine .inProgress hprogress (hrecorded.unended r.id fun q hq hid => ?_) ?_
    · rw [eq_of_key_eq hsound.consistent.runIds hq hr hid]
      exact hprogress
    · refine List.filter_eq_nil_iff.mpr fun d hd hrun => ?_
      exact hsound.consistent.not_journaled hr hprogress d hd (of_decide_eq_true hrun)

/-- Whatever operations are performed, the rows of every run in the journal are those of what it has
ended as, and of no other operation. -/
theorem journal_tells_outcome (start : Sequences) (events : List (Event Float)) :
    ∀ r ∈ ((Database.fresh start).afterAll events).tables.runs,
      r.Journaled ((Database.fresh start).history events)
        ((Database.fresh start).afterAll events).tables :=
  runs_journaled start events

/-- A run for one model is created from one spool, and fails with what is reported in two entries,
one of them below zero. -/
def failedSession : List (Event Float) :=
  let spool : NewSpool Float := ⟨"PLA", "PLA", none, 1000.0, 0.02⟩
  let item : NewItem Float := ⟨.numbered 9 1, none, 4, none, none, none⟩
  let request : RunRequest Float :=
    ⟨⟨none, 1.5, none, none, none, none, none⟩, [item], [⟨.numbered 1 1, 20.0, none, none⟩]⟩
  let waste : List (SpoolUsage Float) := [⟨.numbered 1 1, -3.0⟩, ⟨.numbered 1 1, 12.5⟩]
  [.createSpool spool, .createRun request, .failRun (.numbered 2 1) ⟨"other", waste, none⟩].map
    (Event.mk .builtin ⟨1767225600, 0⟩)

/-- The run of the session has failed and journals its waste. -/
theorem journal_tells_failure :
    ∃ r ∈ ((Database.fresh {}).afterAll failedSession).tables.runs, r.status = .failed ∧
      r.Journaled ((Database.fresh {}).history failedSession)
        ((Database.fresh {}).afterAll failedSession).tables := by
  have hstatus : ((Database.fresh {}).afterAll failedSession).tables.runs.map Run.status =
      [.failed] := by decide +kernel
  obtain ⟨r, hr, hfailed⟩ : ∃ r ∈ ((Database.fresh {}).afterAll failedSession).tables.runs,
      r.status = .failed := List.mem_map.mp (by simp [hstatus])
  exact ⟨r, hr, hfailed, journal_tells_outcome {} failedSession r hr⟩

end PrintFarm
