import PrintFarm.Proofs.Moving
import PrintFarm.Proofs.Recording

/-!
# Resetting a run to its estimates

A run in progress can be reset: every line then tells its estimate as what it has used, whatever was
recorded before.  What that means for its completion is decided by the estimates and the spools.

* `Tables.reset` are the tables after a reset, and `Event.result_resetActuals` says that a reset
  succeeds and leaves them.
* `Material.Worthless` is the complaint about a line that has no estimate above zero.
* `Event.completed_after_reset` says when the run can be completed then.  Which spools it asks for
  is found by `mem_positiveUsage_reset`.
* `reset_decided` holds of every history.
-/

namespace PrintFarm

open Store Tx
open Scalar (IsAmount)

variable {α : Type}

/-! ## The tables after a reset -/

/-- The line with its estimate as what it has used. -/
def Material.reset (now : Timestamp) (m : Material α) : Material α :=
  { m with
    actualTotal := some m.estimatedTotal
    entryMode := some .manual
    weighedBefore := none
    weighedAfter := none
    updatedAt := now.stored }

/-- The tables with the lines of a run reset. -/
def Tables.reset (now : Timestamp) (t : Tables α) (run : Uuid) : Tables α :=
  Tables.touched now
    { t with materials := changeRows (fun m => m.run = run) (Material.reset now) t.materials } run

section Reset

variable {now : Timestamp} {t : Tables α} {run : Uuid}

/-- Nothing is left of the first of two resets. -/
theorem Tables.reset_reset (first now : Timestamp) (t : Tables α) (run : Uuid) :
    (t.reset first run).reset now run = t.reset now run := by
  have hruns : changeRows (fun r => r.id = run) (touchedRun now)
      (changeRows (fun r => r.id = run) (touchedRun first) t.runs) =
        changeRows (fun r => r.id = run) (touchedRun now) t.runs :=
    changeRows_changeRows _ (fun _ => rfl) fun _ => rfl
  have hmaterials : changeRows (fun m => m.run = run) (Material.reset now)
      (changeRows (fun m => m.run = run) (Material.reset first) t.materials) =
        changeRows (fun m => m.run = run) (Material.reset now) t.materials :=
    changeRows_changeRows _ (fun _ => rfl) fun _ => rfl
  simp only [reset, touched, hruns, hmaterials]

theorem Tables.materialsOf_reset :
    (t.reset now run).materialsOf run = (t.materialsOf run).map (Material.reset now) := by
  have hsame : ∀ m ∈ t.materials, decide (m.run = run) = true →
      decide ((m.reset now).run = run) = decide (m.run = run) := fun _ _ _ => rfl
  show (changeRows _ _ t.materials).filter _ = _
  rw [filter_changeRows hsame, changeRows]
  refine List.map_congr_left fun m hm => ?_
  rw [if_pos (List.mem_filter.mp hm).2]

/-- A run that takes changes takes them after a reset. -/
theorem Tables.mem_runs_reset {r : Run α} (hr : r ∈ t.runs) :
    touchedRun now r ∈ (t.reset now r.id).runs :=
  mem_changeRows.mpr ⟨r, hr, (if_pos (by simp)).symm⟩

variable [Scalar α]

/-- What is wrong with a line that was reset: its estimate is not above zero. -/
theorem Material.unmeasured?_reset (now : Timestamp) (m : Material α) :
    (m.reset now).unmeasured? =
      if Scalar.lt Scalar.zero m.estimatedTotal then none else some .notPositive := by
  cases habove : Scalar.lt Scalar.zero m.estimatedTotal <;>
    simp [unmeasured?, reset, habove]

/-- The complaint about a line whose estimate is not above zero. -/
structure Material.Worthless (t : Tables α) (m : Material α) (fault : FieldError α) : Prop where
  field : fault.field = s!"materials.{m.id}.actual_total_weight"
  problem : ∃ s ∈ t.spools, s.id = m.spool ∧ fault.problem = .unmeasured .notPositive s.label

theorem Material.Complained.worthless {m : Material α} {fault : FieldError α}
    (h : (m.reset now).Complained (t.reset now run) fault) : m.Worthless t fault := by
  obtain ⟨why, hwhy, s, hs, hid, hproblem⟩ := h.problem
  rw [unmeasured?_reset] at hwhy
  obtain ⟨-, hwhy⟩ := Option.ite_none_left_eq_some.mp hwhy
  obtain rfl := Option.some.inj hwhy
  exact ⟨h.field, s, hs, hid, hproblem⟩

end Reset

/-! ## Resetting -/

section Resetting

variable [Scalar α] {db : Database α} {r : Run α}

/-- A run in progress is always reset. -/
theorem Workflow.refusal?_resetActuals (now : Timestamp) (hdb : db.tables.Consistent)
    (hv : db.tables.Valued) (hr : r ∈ db.tables.runs) (hprogress : r.status = .inProgress) :
    refusal? (resetActuals now r.id) db = none := by
  have hread := gives_runInProgress_of_mem hdb hr hprogress "reset materials of"
  have hwrite : Gives (Store.resetActuals now r.id) db _ _ :=
    gives_changeMaterials.mpr ⟨fun m hm => Or.inr
      (acceptsMaterial_record (hv.figures m hm) (hv.estimates m hm).notBelow), rfl, rfl⟩
  rw [resetActuals, refusal?_atomically, refusal?_bind_of_gives hread,
    refusal?_bind_of_gives hwrite, refusal?_bind_of_gives (gives_touchRun (u := ()).mpr rfl),
    refusal?_bind_of_gives (gives_materialsOf.mpr ⟨rfl, rfl⟩), refusal?_pure]

/-- A reset puts the estimate of every line of the run in place of what was recorded. -/
theorem Event.result_resetActuals [StockScalar α] (hdb : db.Sound) (hv : db.tables.Valued)
    (hr : r ∈ db.tables.runs) (hprogress : r.status = .inProgress) (catalog : Catalog)
    (now : Timestamp) :
    Event.result ⟨catalog, now, .resetActuals r.id⟩ db = .ok (db.tables.reset now r.id) := by
  obtain ⟨t', hresult, hstep⟩ := Event.result_of_accepted hdb
    (e := ⟨catalog, now, .resetActuals r.id⟩)
    (refusal?_map.trans (Workflow.refusal?_resetActuals now hdb.consistent hv hr hprogress))
  rw [hresult]
  cases hstep with
  | read hread => exact nomatch hread
  | close _ _ hcloses => exact nomatch hcloses.ends?_eq
  | movePlate hmoves => exact nomatch hmoves
  | resetActuals =>
    have hlines : changeRows (fun m => m.run = r.id) (fun m => touchedMaterial now
        (m.record ⟨.manual, m.estimatedTotal, none, none⟩)) db.tables.materials =
          changeRows (fun m => m.run = r.id) (Material.reset now) db.tables.materials := by
      refine changeRows_congr (fun _ _ => rfl) fun m hm _ => ?_
      rw [(Reading.Stored.manual (hv.estimates m hm)).record_eq]
      rfl
    rw [hlines]
    rfl

end Resetting

/-! ## Completing a run that was reset -/

section Completing

variable [Scalar α] {now : Timestamp} {t : Tables α} {run : Uuid}

/-- The lines of a run without an estimate above zero. -/
def Tables.worthlessOf (t : Tables α) (run : Uuid) : List (Material α) :=
  (t.materialsOf run).filter fun m => !Scalar.lt Scalar.zero m.estimatedTotal

/-- The spool of the line holds what was estimated. -/
def Tables.Covers (t : Tables α) (m : Material α) : Prop :=
  ∃ s ∈ t.spools, s.id = m.spool ∧ Scalar.lt s.weight m.estimatedTotal = false

/-- There is one complaint for each line without an estimate above zero, in the order of the
lines. -/
theorem worthless_completion (ht : (t.reset now run).Consistent)
    (hmeasured : ∀ m ∈ (t.reset now run).materials, m.Measured) :
    List.Forall₂ (Material.Worthless t) (t.worthlessOf run)
      (Workflow.completionComplaints ((t.reset now run).linesOf run)
        ((t.reset now run).itemsOf run)) := by
  have hlines : ((t.reset now run).materialsOf run).filter (fun m => m.unmeasured?.isSome) =
      (t.worthlessOf run).map (Material.reset now) := by
    rw [Tables.materialsOf_reset, List.filter_map, Tables.worthlessOf]
    refine congrArg _ (List.filter_congr fun m _ => ?_)
    show (m.reset now).unmeasured?.isSome = _
    rw [Material.unmeasured?_reset]
    cases Scalar.lt Scalar.zero m.estimatedTotal <;> rfl
  have hcomplained := complained_completion ht hmeasured run
  rw [hlines, List.forall₂_map_left_iff] at hcomplained
  exact hcomplained.imp fun _ _ h => h.worthless

/-- What the lines of a run that was reset have used. -/
theorem consumed_reset (ht : (t.reset now run).Consistent) :
    Workflow.consumed ((t.reset now run).linesOf run) =
      (t.materialsOf run).map fun m => ⟨m.spool, m.estimatedTotal⟩ := by
  rw [consumed_linesOf ht, Tables.materialsOf_reset, List.filterMap_map, ← List.filterMap_eq_map]
  rfl

/-- What is deducted for a run that was reset: the estimates that are finite and above zero. -/
theorem mem_positiveUsage_reset [LawfulScalar α] (ht : (t.reset now run).Consistent)
    {u : SpoolUsage α} :
    u ∈ positiveUsage (Workflow.consumed ((t.reset now run).linesOf run)) ↔
      ∃ m ∈ t.materialsOf run, Scalar.isPositive m.estimatedTotal = true ∧
        ⟨m.spool, m.estimatedTotal⟩ = u := by
  have hspools := nodup_materialsOf ht run
  rw [Tables.materialsOf_reset, List.map_map] at hspools
  rw [consumed_reset ht, mem_positiveUsage_of_nodup (by rw [List.map_map]; exact hspools),
    List.mem_map]
  constructor
  · intro h
    obtain ⟨⟨m, hm, rfl⟩, hpositive⟩ := h
    exact ⟨m, hm, hpositive, rfl⟩
  · intro h
    obtain ⟨m, hm, hpositive, rfl⟩ := h
    exact ⟨⟨m, hm, rfl⟩, hpositive⟩

/-- Nothing is lacking after a reset where every spool holds what was estimated of it, unless that
has overflowed. -/
theorem not_lacks_reset_iff [LawfulScalar α] (ht : (t.reset now run).Consistent) :
    (∀ u ∈ positiveUsage (Workflow.consumed ((t.reset now run).linesOf run)),
        ∀ why, ¬(t.reset now run).Lacks u why) ↔
      ∀ m ∈ t.materialsOf run, Scalar.isPositive m.estimatedTotal = true → t.Covers m := by
  constructor
  · intro h m hm hpositive
    have hlacks := h ⟨m.spool, m.estimatedTotal⟩
      ((mem_positiveUsage_reset ht).mpr ⟨m, hm, hpositive, rfl⟩)
    have hreset : m.reset now ∈ (t.reset now run).materials := by
      refine List.mem_of_mem_filter (p := fun m => m.run = run) ?_
      show _ ∈ (t.reset now run).materialsOf run
      rw [Tables.materialsOf_reset]
      exact List.mem_map_of_mem hm
    obtain ⟨s, hs, hid⟩ := List.mem_map.mp (ht.lineSpools _ hreset)
    exact ⟨s, hs, hid, eq_false_of_ne_true fun hshort => hlacks _ (.grams hs hid hshort)⟩
  · intro h u hu why hlacks
    obtain ⟨m, hm, hpositive, rfl⟩ := (mem_positiveUsage_reset ht).mp hu
    obtain ⟨s, hs, hid, henough⟩ := h m hm hpositive
    cases hlacks with
    | spool hmissing => exact hmissing s hs hid
    | grams hq hqid hshort =>
      obtain rfl := eq_of_key_eq ht.spoolIds hq hs (hqid.trans hid.symm)
      exact nomatch hshort.symm.trans henough

variable {db' : Database α} {r : Run α}

/-- What comes of completing a run that was reset: there is a complaint for each line without an
estimate above zero, and if there is none, the run is completed if and only if the spools hold what
was estimated. -/
structure CompletesAsEstimated (t : Tables α) (run : Uuid)
    (result : Except (Refusal α) (Tables α)) : Prop where
  complained : t.worthlessOf run ≠ [] → ∃ faults, result = .error (.invalid faults) ∧
    List.Forall₂ (Material.Worthless t) (t.worthlessOf run) faults
  fit : t.worthlessOf run = [] → ∀ faults, result ≠ .error (.invalid faults)
  done_iff : (∀ m ∈ t.materialsOf run, Scalar.lt Scalar.zero m.estimatedTotal = true ∧
      Scalar.isFinite m.estimatedTotal = true) →
    ((∃ t', result = .ok t') ↔ ∀ m ∈ t.materialsOf run, t.Covers m)

/-- On a database that a reset of the run has left. -/
theorem Event.completed_after_reset [StockScalar α] (hdb : db'.Sound) (hv : db'.tables.Valued)
    (hmeasured : ∀ m ∈ db'.tables.materials, m.Measured) (hr : r ∈ t.runs)
    (hprogress : r.status = .inProgress) (hreset : db'.tables = t.reset now r.id)
    (catalog : Catalog) (later : Timestamp) :
    CompletesAsEstimated t r.id (Event.result ⟨catalog, later, .completeRun r.id⟩ db') := by
  have ht := hdb.consistent
  have hmem : touchedRun now r ∈ db'.tables.runs := hreset ▸ Tables.mem_runs_reset hr
  have hfaults := worthless_completion (hreset ▸ ht) (hreset ▸ hmeasured)
  rw [← hreset] at hfaults
  by_cases hnone : Workflow.completionComplaints (db'.tables.linesOf r.id)
    (db'.tables.itemsOf r.id) = []
  · have hempty : t.worthlessOf r.id = [] := by
      rw [hnone] at hfaults
      exact List.forall₂_nil_right_iff.mp hfaults
    have hcloses : Closes catalog later db'.tables (touchedRun now r) (.completeRun r.id) _ _ _ :=
      .complete hnone
    have hlacks := not_lacks_reset_iff (hreset ▸ ht)
    rw [← hreset] at hlacks
    rcases Event.result_cases (e := ⟨catalog, later, .completeRun r.id⟩) hdb hv hmem hprogress
      hcloses (positiveUsage_sorted _) with
      ⟨u, why, hfirst, hresult⟩ | ⟨hstock, ⟨htexts, -⟩ | ⟨-, t', hresult, -⟩⟩
    · rw [hresult]
      refine ⟨fun h => absurd hempty h, fun _ faults hinvalid => ?_, fun _ => ?_⟩
      · obtain rfl := Except.error.inj hinvalid
        exact nomatch hfirst.lacks
      · refine ⟨nofun, fun hcovers => ?_⟩
        exact absurd hfirst.lacks (hlacks.mpr (fun m hm _ => hcovers m hm) u hfirst.mem why)
    · exact nomatch htexts
    · rw [hresult]
      refine ⟨fun h => absurd hempty h, fun _ _ => nofun, fun hestimates => ?_⟩
      refine ⟨fun _ m hm => hlacks.mp hstock m hm ?_, fun _ => ⟨t', rfl⟩⟩
      obtain ⟨habove, hfinite⟩ := hestimates m hm
      rw [Scalar.isPositive, hfinite, habove]
      rfl
  · have hresult := Event.result_of_refusal? (e := ⟨catalog, later, .completeRun r.id⟩)
      (Operation.refusal?_unmeasured (r := touchedRun now r) ht hmem hprogress hnone)
    rw [hresult]
    have hsome : t.worthlessOf r.id ≠ [] := by
      intro hempty
      rw [hempty] at hfaults
      exact hnone (List.forall₂_nil_left_iff.mp hfaults)
    refine ⟨fun _ => ⟨_, rfl, hfaults⟩, fun hempty => absurd hempty hsome, fun hestimates => ?_⟩
    refine absurd (List.filter_eq_nil_iff.mpr fun m hm => ?_) hsome
    simp [(hestimates m hm).1]

end Completing

/-- Whatever operations were performed, a run in progress can be reset.  All its lines then tell
their estimates as what they have used, and nothing else has changed; a second reset leaves what it
would leave without the first.  Completing the run is refused for the lines without an estimate
above zero, and where all estimates are finite weights above zero, it succeeds if and only if every
spool holds what was estimated. -/
theorem reset_decided (start : Sequences) (events : List (Event Float)) :
    let db := (Database.fresh start).afterAll events
    ∀ r ∈ db.tables.runs, r.status = .inProgress → ∀ (catalog : Catalog) (now : Timestamp),
      let reset : Event Float := ⟨catalog, now, .resetActuals r.id⟩
      reset.result db = .ok (db.tables.reset now r.id) ∧
        ∀ (catalog' : Catalog) (later : Timestamp),
          Event.result ⟨catalog', later, .resetActuals r.id⟩ (reset.after db) =
              .ok (db.tables.reset later r.id) ∧
            CompletesAsEstimated db.tables r.id
              (Event.result ⟨catalog', later, .completeRun r.id⟩ (reset.after db)) := by
  intro db r hr hprogress catalog now reset
  obtain ⟨hsound, hvalued, -⟩ := staged_afterAll start events
  have hresult := Event.result_resetActuals hsound hvalued hr hprogress catalog now
  obtain ⟨-, htables⟩ := Event.after_of_result hresult
  -- the database after the reset is one that a history leaves
  have hafter : reset.after db = (Database.fresh start).afterAll (events ++ [reset]) := by
    rw [Database.afterAll_append]
    rfl
  obtain ⟨hsound', hvalued', -⟩ := staged_afterAll start (events ++ [reset])
  have hmeasured := measured_afterAll start (events ++ [reset])
  rw [← hafter] at hsound' hvalued' hmeasured
  refine ⟨hresult, fun catalog' later => ⟨?_, ?_⟩⟩
  · have hmem : touchedRun now r ∈ (reset.after db).tables.runs :=
      htables ▸ Tables.mem_runs_reset hr
    rw [← Tables.reset_reset now later db.tables r.id, ← htables]
    exact Event.result_resetActuals (r := touchedRun now r) hsound' hvalued' hmem hprogress catalog'
      later
  · exact Event.completed_after_reset hsound' hvalued' hmeasured hr hprogress htables catalog' later

/-- A run with three lines: one was weighed, one was entered, and one is planned for nothing. -/
def mixedSession : List (Event Float) :=
  let spool : NewSpool Float := ⟨"PLA", "PLA", none, 100.0, 0.02⟩
  let item : NewItem Float := ⟨.numbered 9 1, none, 4, none, some 5.0, none⟩
  let request : RunRequest Float := ⟨⟨none, 2.0, none, none, none, none, none⟩, [item],
    [⟨.numbered 1 1, 25.0, some 1.0, none⟩, ⟨.numbered 1 2, 10.0, none, none⟩,
      ⟨.numbered 1 3, 0.0, none, none⟩]⟩
  let run := Uuid.numbered 2 1
  [.createSpool spool, .createSpool spool, .createSpool spool, .createRun request,
    .recordActual run (.numbered 4 1) ⟨none, some 100.0, some 40.0⟩,
    .recordActual run (.numbered 4 2) ⟨some 30.0, none, none⟩].map
    (Event.mk .builtin ⟨1767225600, 0⟩)

/-- The run is reset, and then it is not completed for the third line alone. -/
theorem mixed_run_reset :
    let db := (Database.fresh {}).afterAll mixedSession
    let reset : Event Float := ⟨.builtin, ⟨1767232800, 0⟩, .resetActuals (.numbered 2 1)⟩
    (∃ r ∈ db.tables.runs, r.id = .numbered 2 1 ∧ r.status = .inProgress) ∧
      reset.result db = .ok (db.tables.reset ⟨1767232800, 0⟩ (.numbered 2 1)) ∧
      (db.tables.materialsOf (.numbered 2 1)).map Material.entryMode =
        [some .weighing, some .manual, none] ∧
      (reset.after db).tables.materials.map Material.entryMode =
        [some .manual, some .manual, some .manual] ∧
      ∃ fault, Event.result ⟨.builtin, ⟨1767236400, 0⟩, .completeRun (.numbered 2 1)⟩
          (reset.after db) = .error (.invalid [fault]) ∧
        fault.field = s!"materials.{Uuid.numbered 4 3}.actual_total_weight" := by
  intro db reset
  have hrun : ∃ r ∈ db.tables.runs, r.id = .numbered 2 1 ∧ r.status = .inProgress := by
    decide +kernel
  obtain ⟨r, hr, hid, hprogress⟩ := id hrun
  obtain ⟨hresult, hlater⟩ :=
    reset_decided {} mixedSession r hr hprogress .builtin ⟨1767232800, 0⟩
  rw [hid] at hresult hlater
  have hlines : (db.tables.worthlessOf (.numbered 2 1)).map Material.id = [.numbered 4 3] := by
    decide +kernel
  obtain ⟨m, hworthless, hmid⟩ := List.map_eq_singleton_iff.mp hlines
  obtain ⟨faults, hrefused, hfaults⟩ := (hlater .builtin ⟨1767236400, 0⟩).2.complained
    (by rw [hworthless]; exact List.cons_ne_nil _ _)
  rw [hworthless] at hfaults
  obtain ⟨fault, rest, hfault, hrest, rfl⟩ := List.forall₂_cons_left_iff.mp hfaults
  obtain rfl := List.forall₂_nil_left_iff.mp hrest
  refine ⟨hrun, hresult, by decide +kernel, ?_, fault, hrefused, hmid ▸ hfault.field⟩
  rw [(Event.after_of_result hresult).2]
  decide +kernel

end PrintFarm
