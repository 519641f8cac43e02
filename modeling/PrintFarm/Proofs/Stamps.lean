import PrintFarm.Proofs.Frozen

/-!
# When a run was last changed

Every run carries the time of its last change.  Each workflow writes it by hand after all else, also
where it only changes a row that the run owns.  None of them forgets to.

* `Operation.stamps?` is the run that an operation changes if it is accepted.  `Stamped` says what
  may become of the table of runs: that run gets the time of the operation, or a run with that time
  is added, and the others stay as they are.  `Step.stamped` is the step lemma.
* `Event.stamped_or_leaves` says the same of events, and `Event.stampsRun_cases` looks back from the
  table after an event.
* `stamps` are the times at which a run was created and changed in the past.  The last of them is
  the time that the run carries (`getLast?_stamps`).
* Tables keep a time in microseconds, and do not put it in another order (`Timestamp.stored_mono`).
  So as long as the clock does not go back, neither does the time of a run.
-/

namespace PrintFarm

open Store

variable {α : Type}

/-! ## Times in tables -/

namespace Timestamp

theorem toNanos_ofTableMicros (micros : Int) :
    (ofTableMicros micros).toNanos = micros * 1000 + tableEpoch * 1000000000 := by
  have hnonneg : 0 ≤ micros % 1000000 := Int.emod_nonneg _ (by decide)
  simp only [ofTableMicros, toNanos, nanosPerSecond]
  omega

/-- Tables keep the order of times. -/
theorem stored_mono {a b : Timestamp} (h : a.after b = false) :
    a.stored.after b.stored = false := by
  simp only [after, decide_eq_false_iff_not, Int.not_lt] at h ⊢
  simp only [stored, toNanos_ofTableMicros]
  have hmicros : a.tableMicros ≤ b.tableMicros := by
    unfold tableMicros
    apply Int.tdiv_le_tdiv (by decide)
    omega
  omega

theorem not_after_self (a : Timestamp) : a.after a = false := by
  simp [after]

end Timestamp

/-! ## One step -/

/-- The run that an operation changes, or changes something of, if it is accepted. -/
def Operation.stamps? (op : Operation α) : Option Uuid :=
  if op.isReading then none else op.run?

/-- The table of runs has become another one.  The run that is to carry the time `now`, if there is
one, carries it, and only a new run does so too. -/
inductive Stamped (now : Timestamp) (rows : List (Run α)) : Option Uuid → List (Run α) → Prop
  | same : Stamped now rows none rows
  | added {r : Run α} (hid : ∀ q ∈ rows, ¬q.id = r.id) (hstamp : r.updatedAt = now.stored) :
    Stamped now rows none (rows ++ [r])
  | changed {run : Uuid} {change : Run α → Run α} (hid : ∀ r, (change r).id = r.id)
      (hstamp : ∀ r, (change r).updatedAt = now.stored) :
    Stamped now rows (some run) (changeRows (fun r => r.id = run) change rows)

namespace Stamped

variable {now : Timestamp} {rows rows' : List (Run α)} {stamped? : Option Uuid} {r r' : Run α}

/-- No run is lost, and the one that is to carry the time carries it. -/
theorem exists_row (h : Stamped now rows stamped? rows') (hr : r ∈ rows) :
    ∃ r' ∈ rows', r'.id = r.id ∧ (stamped? = some r.id → r'.updatedAt = now.stored) := by
  cases h with
  | same => exact ⟨r, hr, rfl, fun h => nomatch h⟩
  | added => exact ⟨r, List.mem_append_left _ hr, rfl, fun h => nomatch h⟩
  | @changed run change hid hstamp =>
    by_cases hrun : r.id = run
    · exact ⟨change r, mem_changeRows.mpr ⟨r, hr, by simp [hrun]⟩, hid r, fun _ => hstamp r⟩
    · refine ⟨r, mem_changeRows.mpr ⟨r, hr, by simp [hrun]⟩, rfl, fun h => ?_⟩
      exact absurd (Option.some.inj h).symm hrun

/-- Looking back, a run carries the time because it was to carry it or because it is new, and every
other run was there as it is. -/
theorem cases_row (h : Stamped now rows stamped? rows') (hr' : r' ∈ rows') :
    r'.updatedAt = now.stored ∧ (stamped? = some r'.id ∨ ∀ r ∈ rows, ¬r.id = r'.id) ∨
      stamped? ≠ some r'.id ∧ r' ∈ rows := by
  cases h with
  | same => exact Or.inr ⟨nofun, hr'⟩
  | added hid hstamp =>
    rcases List.mem_append.mp hr' with hold | hnew
    · exact Or.inr ⟨nofun, hold⟩
    · obtain rfl := List.mem_singleton.mp hnew
      exact Or.inl ⟨hstamp, Or.inr hid⟩
  | @changed run change hid hstamp =>
    obtain ⟨r, hr, rfl⟩ := mem_changeRows.mp hr'
    by_cases hrun : r.id = run
    · rw [if_pos (by simpa using hrun), hid r, hrun]
      exact Or.inl ⟨hstamp r, Or.inl rfl⟩
    · rw [if_neg (by simpa using hrun)]
      exact Or.inr ⟨fun h => hrun (Option.some.inj h).symm, hr⟩

end Stamped

section Steps

variable [Scalar α] {catalog : Catalog} {now : Timestamp} {t t' : Tables α} {op : Operation α}

theorem Closes.stamps?_eq {r : Run α} {ending : RunEnding α} {reason : DeductionReason}
    {usage : UsageTable α} (h : Closes catalog now t r op ending reason usage) :
    op.stamps? = some r.id := by
  cases h <;> rfl

theorem MovesPlate.stamps?_eq {run plate : Uuid} {next : PlateStatus} {move : PlateMove α}
    (h : MovesPlate now op run plate next move) : op.stamps? = some run := by
  cases h <;> rfl

/-- An accepted operation puts its time on the run that it changes, and on a run that it creates. -/
theorem Step.stamped (h : Step catalog now t op t') :
    Stamped now t.runs op.stamps? t'.runs := by
  cases h with
  | read hread =>
    rw [Operation.stamps?, if_pos hread]
    exact .same
  | createSpool => exact .same
  | createRun _ hrow _ hid =>
    refine .added hid ?_
    rw [hrow]
    rfl
  | close _ _ hcloses =>
    rw [hcloses.stamps?_eq]
    exact .changed (fun _ => rfl) fun _ => rfl
  | movePlate hmoves =>
    rw [hmoves.stamps?_eq]
    exact .changed (fun _ => rfl) fun _ => rfl
  | _ => exact .changed (fun _ => rfl) fun _ => rfl

/-- An operation that only reads changes no table. -/
theorem Step.eq_of_isReading (h : Step catalog now t op t') (hread : op.isReading = true) :
    t' = t := by
  cases h with
  | read => rfl
  | close _ _ hcloses => cases hcloses <;> exact nomatch hread
  | movePlate hmoves => cases hmoves <;> exact nomatch hread
  | _ => exact nomatch hread

/-- A run that keeps its time is left alone. -/
theorem Step.leaves_of_stamps? (ht : t.Consistent) (h : Step catalog now t op t') {r : Run α}
    (hr : r ∈ t.runs) (hop : op.stamps? ≠ some r.id) : t.Leaves t' r := by
  by_cases hread : op.isReading = true
  · rw [h.eq_of_isReading hread]
    exact .refl hr
  · rw [Operation.stamps?, if_neg hread] at hop
    exact h.leaves ht hr hop

end Steps

/-! ## All steps -/

variable [Scalar α]

/-- The moment is one at which the run was changed or created. -/
def Moment.stampsRun (run : Uuid) (m : Moment α) : Bool :=
  m.isAccepted && m.event.operation.stamps? = some run ||
    (m.before.tables.statusOf run).isNone && (m.after.tables.statusOf run).isSome

/-- The times at which the run was created and changed, as tables keep them. -/
def stamps (run : Uuid) (past : List (Moment α)) : List Timestamp :=
  (past.filter (Moment.stampsRun run)).map fun m => m.event.now.stored

theorem stamps_append (run : Uuid) (past later : List (Moment α)) :
    stamps run (past ++ later) = stamps run past ++ stamps run later := by
  simp [stamps]

theorem stamps_concat_of_stampsRun {run : Uuid} {m : Moment α} (h : m.stampsRun run = true)
    (past : List (Moment α)) :
    stamps run (past ++ [m]) = stamps run past ++ [m.event.now.stored] := by
  simp [stamps, h]

theorem stamps_concat_of_not {run : Uuid} {m : Moment α} (h : m.stampsRun run = false)
    (past : List (Moment α)) : stamps run (past ++ [m]) = stamps run past := by
  simp [stamps, h]

/-- Looking back, the event stamps a run that is there after it, or the run was there as it is. -/
theorem Event.stampsRun_cases (e : Event α) {db : Database α} (hdb : db.Sound) {r : Run α}
    (hr : r ∈ (e.after db).tables.runs) :
    (⟨e, db⟩ : Moment α).stampsRun r.id = true ∧ r.updatedAt = e.now.stored ∨
      (⟨e, db⟩ : Moment α).stampsRun r.id = false ∧ r ∈ db.tables.runs := by
  have hafter : (e.after db).tables.statusOf r.id = some r.status :=
    (e.sound_after hdb).consistent.statusOf_eq hr
  rcases e.step_or_refused hdb with ⟨answer, hrun, hstep⟩ | ⟨why, hrun, hsame⟩
  · have haccepted : (⟨e, db⟩ : Moment α).isAccepted = true := Moment.isAccepted_of_ok hrun
    rcases hstep.stamped.cases_row hr with ⟨hstamp, hop | hnew⟩ | ⟨hother, hold⟩
    · refine Or.inl ⟨?_, hstamp⟩
      simp [Moment.stampsRun, haccepted, hop]
    · refine Or.inl ⟨?_, hstamp⟩
      have hnone : db.tables.statusOf r.id = none := by simpa [Tables.statusOf] using hnew
      simp [Moment.stampsRun, Moment.after, hnone, hafter]
    · refine Or.inr ⟨?_, hold⟩
      simp [Moment.stampsRun, hother, hdb.consistent.statusOf_eq hold]
  · have hrefused : (⟨e, db⟩ : Moment α).isAccepted = false := Moment.isAccepted_of_error hrun
    rw [hsame] at hr
    refine Or.inr ⟨?_, hr⟩
    simp [Moment.stampsRun, hrefused, hdb.consistent.statusOf_eq hr]

/-- The last time at which a run was changed or created is the time that it carries. -/
theorem getLast?_stamps (start : Sequences) (events : List (Event α)) :
    ∀ r ∈ ((Database.fresh start).afterAll events).tables.runs,
      (stamps r.id ((Database.fresh start).history events)).getLast? = some r.updatedAt := by
  refine Database.history_induction
    (motive := fun past db => ∀ r ∈ db.tables.runs,
      (stamps r.id past).getLast? = some r.updatedAt)
    (.fresh start) (fun r hr => absurd hr List.not_mem_nil) (fun past e db hdb h => ?_) events
  intro r hr
  rcases e.stampsRun_cases hdb hr with ⟨hstamps, hnow⟩ | ⟨hkept, hold⟩
  · rw [stamps_concat_of_stampsRun hstamps, List.getLast?_concat, hnow]
  · rw [stamps_concat_of_not hkept]
    exact h r hold

/-- An accepted event stamps the run that it changes.  Every other run is left alone, and by a
refused event every run. -/
theorem Event.stamped_or_leaves (e : Event α) {db : Database α} (hdb : db.Sound) {r : Run α}
    (hr : r ∈ db.tables.runs) :
    if (⟨e, db⟩ : Moment α).isAccepted ∧ e.operation.stamps? = some r.id then
      ∃ r' ∈ (e.after db).tables.runs, r'.id = r.id ∧ r'.updatedAt = e.now.stored
    else db.tables.Leaves (e.after db).tables r := by
  rcases e.step_or_refused hdb with ⟨answer, hrun, hstep⟩ | ⟨why, hrun, hsame⟩
  · have haccepted : (⟨e, db⟩ : Moment α).isAccepted = true := Moment.isAccepted_of_ok hrun
    by_cases hop : e.operation.stamps? = some r.id
    · rw [if_pos ⟨haccepted, hop⟩]
      obtain ⟨r', hr', hid, hstamp⟩ := hstep.stamped.exists_row hr
      exact ⟨r', hr', hid, hstamp hop⟩
    · rw [if_neg fun h => hop h.2]
      exact hstep.leaves_of_stamps? hdb.consistent hr hop
  · have hrefused : (⟨e, db⟩ : Moment α).isAccepted = false := Moment.isAccepted_of_error hrun
    rw [if_neg (by simp [hrefused]), hsame]
    exact .refl hr

/-- No run is ever lost. -/
theorem exists_run_afterAll {db : Database α} (hdb : db.Sound) {r : Run α}
    (hr : r ∈ db.tables.runs) (later : List (Event α)) :
    ∃ r' ∈ (db.afterAll later).tables.runs, r'.id = r.id := by
  induction later generalizing db r with
  | nil => exact ⟨r, hr, rfl⟩
  | cons e later ih =>
    have hfirst : ∃ r₁ ∈ (e.after db).tables.runs, r₁.id = r.id := by
      rcases e.step_or_refused hdb with ⟨_, -, hstep⟩ | ⟨_, -, hsame⟩
      · obtain ⟨r₁, hr₁, hid, -⟩ := hstep.stamped.exists_row hr
        exact ⟨r₁, hr₁, hid⟩
      · rw [hsame]
        exact ⟨r, hr, rfl⟩
    obtain ⟨r₁, hr₁, hid₁⟩ := hfirst
    obtain ⟨r₂, hr₂, hid₂⟩ := ih (e.sound_after hdb) hr₁
    exact ⟨r₂, hr₂, hid₂.trans hid₁⟩

/-- The events of a history are those that happened. -/
theorem Database.map_event_history (db : Database α) (events : List (Event α)) :
    (db.history events).map Moment.event = events := by
  induction events generalizing db with
  | nil => rfl
  | cons e events ih =>
    show e :: ((e.after db).history events).map Moment.event = e :: events
    rw [ih]

/-- The clock does not go back from one event to a later one. -/
def ClockKeeps (events : List (Event α)) : Prop :=
  events.Pairwise fun a b => a.now.after b.now = false

/-- While the clock does not go back, the times of a run are in order. -/
theorem pairwise_stamps {db : Database α} {events : List (Event α)} (hclock : ClockKeeps events)
    (run : Uuid) :
    (stamps run (db.history events)).Pairwise fun a b => a.after b = false := by
  rw [ClockKeeps, ← db.map_event_history events, List.pairwise_map] at hclock
  refine List.pairwise_map.mpr ((hclock.filter _).imp ?_)
  exact fun h => Timestamp.stored_mono h

/-- The last time of a run is not before any other. -/
theorem not_after_getLast? {times : List Timestamp}
    (hordered : times.Pairwise fun a b => a.after b = false) {a b : Timestamp} (ha : a ∈ times)
    (hb : times.getLast? = some b) : a.after b = false := by
  rw [List.getLast?_eq_getLast_of_ne_nil (List.ne_nil_of_mem ha)] at hb
  rw [← Option.some.inj hb]
  exact hordered.rel_getLast_of_rel_getLast_getLast ha (Timestamp.not_after_self _)

/-- The time that a run carries does not go back while the clock does not. -/
theorem updatedAt_not_after {start : Sequences} {events later : List (Event α)}
    (hclock : ClockKeeps (events ++ later)) {r r' : Run α}
    (hr : r ∈ ((Database.fresh start).afterAll events).tables.runs)
    (hr' : r' ∈ ((Database.fresh start).afterAll (events ++ later)).tables.runs)
    (hid : r'.id = r.id) : r.updatedAt.after r'.updatedAt = false := by
  have hlast := getLast?_stamps start (events ++ later) r' hr'
  rw [hid] at hlast
  refine not_after_getLast? (pairwise_stamps hclock r.id) ?_ hlast
  rw [Database.history_append, stamps_append]
  exact List.mem_append_left _ (List.mem_of_getLast? (getLast?_stamps start events r hr))

/-- Every change of a run shows in the time that it carries.  An accepted operation that changes the
run, or an item, a line or a plate of it, puts its own time on the run; every other operation, and
every refused one, leaves the run as it is.  So the run carries the last time at which it was changed
or created, and that time does not go back while the clock does not. -/
theorem updates_stamped (start : Sequences) (events : List (Event α)) :
    let db := (Database.fresh start).afterAll events
    (∀ (e : Event α), ∀ r ∈ db.tables.runs,
      if (⟨e, db⟩ : Moment α).isAccepted ∧ e.operation.stamps? = some r.id then
        ∃ r' ∈ (e.after db).tables.runs, r'.id = r.id ∧ r'.updatedAt = e.now.stored
      else db.tables.Leaves (e.after db).tables r) ∧
    (∀ r ∈ db.tables.runs,
      (stamps r.id ((Database.fresh start).history events)).getLast? = some r.updatedAt) ∧
    ∀ later, ClockKeeps (events ++ later) → ∀ r ∈ db.tables.runs,
      ∃ r' ∈ (db.afterAll later).tables.runs,
        r'.id = r.id ∧ r.updatedAt.after r'.updatedAt = false := by
  have hsound := Database.sound_afterAll (Database.Sound.fresh (α := α) start) events
  refine ⟨fun e r hr => e.stamped_or_leaves hsound hr, getLast?_stamps start events,
    fun later hclock r hr => ?_⟩
  obtain ⟨r', hr', hid⟩ := exists_run_afterAll hsound hr later
  refine ⟨r', hr', hid, updatedAt_not_after hclock hr ?_ hid⟩
  rw [Database.afterAll_append]
  exact hr'

end PrintFarm
