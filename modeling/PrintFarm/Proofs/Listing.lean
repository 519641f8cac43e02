import PrintFarm.Proofs.Counting
import PrintFarm.Proofs.Spelling
import PrintFarm.Proofs.Stamps

/-!
# How runs are listed

Runs are listed from the latest start down.  Those that begin at one time are listed by the texts of
their numbers, so that the one that was created later comes first.  That goes wrong on the day on
which the counter gets a digit more.

* `Tables.listed` is what is listed, and `runOrder_iff` the order.
* The table of runs has one row for each run that was created, in the same order
  (`forall₂_births`).
* `TieBroken` says which of two runs is listed first, and `runs_listed` puts all together.
* `newer_run_listed_last` is a run whose counter has a digit more than that of the run before it.
-/

namespace PrintFarm

open Store Tx

variable {α : Type}

/-! ## The order of listing -/

/-- The runs that are listed, those in one status or all. -/
def Tables.listed (t : Tables α) (status : Option RunStatus) : List (Run α) :=
  inOrder runOrder (t.runs.filter fun r => status.all fun s => r.status = s)

theorem runOrder_iff {a b : Run α} : runOrder a b = true ↔
    b.startedAt.toNanos < a.startedAt.toNanos ∨
      a.startedAt.toNanos = b.startedAt.toNanos ∧ b.number ≤ a.number := by
  simp only [runOrder, Timestamp.after, Bool.or_eq_true, Bool.and_eq_true, Bool.not_eq_true',
    decide_eq_true_eq, decide_eq_false_iff_not, not_lt]
  constructor
  · rintro (h | ⟨hstart, hnumber⟩)
    · exact Or.inl h
    · rcases hstart.lt_or_eq with hlt | heq
      · exact Or.inl hlt
      · exact Or.inr ⟨heq.symm, hnumber⟩
  · rintro (h | ⟨hstart, hnumber⟩)
    · exact Or.inl h
    · exact Or.inr ⟨hstart.ge, hnumber⟩

theorem runOrder_total (a b : Run α) : runOrder a b = true ∨ runOrder b a = true := by
  rw [runOrder_iff, runOrder_iff]
  rcases lt_trichotomy a.startedAt.toNanos b.startedAt.toNanos with h | h | h
  · exact Or.inr (Or.inl h)
  · rcases le_total b.number a.number with hnumber | hnumber
    · exact Or.inl (Or.inr ⟨h, hnumber⟩)
    · exact Or.inr (Or.inr ⟨h.symm, hnumber⟩)
  · exact Or.inl (Or.inl h)

theorem runOrder_trans (a b c : Run α) (hab : runOrder a b = true) (hbc : runOrder b c = true) :
    runOrder a c = true := by
  rw [runOrder_iff] at *
  rcases hab with hab | ⟨hab, hnumber⟩ <;> rcases hbc with hbc | ⟨hbc, hnumber'⟩
  · exact Or.inl (hbc.trans hab)
  · exact Or.inl (hbc ▸ hab)
  · exact Or.inl (hab ▸ hbc)
  · exact Or.inr ⟨hab.trans hbc, hnumber'.trans hnumber⟩

namespace Tables

variable (t : Tables α)

theorem listed_perm : (t.listed none).Perm t.runs := by
  have hall : t.runs.filter (fun r => (none : Option RunStatus).all fun s => r.status = s) =
      t.runs := by simp
  rw [listed, hall]
  exact inOrder_perm _ _

/-- The runs in one status are listed in the order in which all are listed. -/
theorem listed_some (s : RunStatus) :
    t.listed (some s) = (t.listed none).filter fun r => r.status = s := by
  simp only [listed, filter_inOrder runOrder_total runOrder_trans, List.filter_filter]
  simp

theorem pairwise_listed (status : Option RunStatus) :
    (t.listed status).Pairwise fun a b => runOrder a b = true :=
  pairwise_inOrder runOrder_total runOrder_trans _

/-- Every run is listed in one status. -/
theorem listed_statuses : ([RunStatus.inProgress, .completed, .failed, .cancelled].flatMap
    fun s => t.listed (some s)).Perm (t.listed none) := by
  simp only [listed_some, List.flatMap_cons, List.flatMap_nil, List.append_nil]
  induction t.listed none with
  | nil => exact .nil
  | cons r rows ih =>
    have hplaced := ih.cons r
    cases hstatus : r.status with
    | inProgress => simpa [List.filter_cons, hstatus] using hplaced
    | completed =>
      simp only [List.filter_cons, hstatus]
      exact List.perm_middle.trans hplaced
    | failed =>
      simp only [List.filter_cons, hstatus]
      exact (List.perm_middle.append_left _).trans (List.perm_middle.trans hplaced)
    | cancelled =>
      simp only [List.filter_cons, hstatus]
      exact ((List.perm_middle.append_left _).append_left _).trans
        ((List.perm_middle.append_left _).trans (List.perm_middle.trans hplaced))

end Tables

theorem Event.run_listRuns [Scalar α] {e : Event α} {status : Option RunStatus}
    (hop : e.operation = .listRuns status) (db : Database α) :
    (e.run db).1 = .ok (.runs (db.tables.listed status)) := by
  rw [Event.run, hop]
  rfl

/-! ## How runs were created -/

section Births

variable [Scalar α]

/-- No step but the creation of a run adds a run, and none gives a run another number. -/
theorem Step.numbers_eq {catalog : Catalog} {now : Timestamp} {t t' : Tables α} {op : Operation α}
    (h : Step catalog now t op t') (hop : ∀ request, op ≠ .createRun request) :
    t'.runs.map Run.number = t.runs.map Run.number := by
  cases h with
  | read => rfl
  | createSpool => rfl
  | createRun => exact absurd rfl (hop _)
  | _ => exact map_changeRows fun _ _ _ => rfl

namespace Moment

variable {m : Moment α}

theorem numbers_of_assigned? {number : String} (h : m.assigned? = some number) :
    m.after.tables.runs.map Run.number = m.before.tables.runs.map Run.number ++ [number] := by
  obtain ⟨request, view, -, rfl, hcreated⟩ := exists_of_assigned? h
  obtain ⟨r, hnumber, -, hruns, -⟩ := Workflow.shown_of_createRun hcreated
  rw [hruns, List.map_append, Workflow.number_of_createRun hcreated, ← hnumber]
  rfl

theorem numbers_of_not_assigned (hdb : m.before.Sound) (h : m.assigned? = none) :
    m.after.tables.runs.map Run.number = m.before.tables.runs.map Run.number := by
  rcases m.event.step_or_refused hdb with ⟨answer, hok, hstep⟩ | ⟨_, -, hsame⟩
  · refine hstep.numbers_eq fun request hop => ?_
    rcases gives_or_refuses_createRun hop with ⟨view, hok, -⟩ | ⟨why, herror, -⟩
    · rw [assigned?, hop, hok] at h
      cases h
    · cases hok.symm.trans herror
  · exact congrArg _ (congrArg Tables.runs hsame)

end Moment

/-- The table has a row for each run that was created, in the same order. -/
theorem numbers_afterAll (start : Sequences) (events : List (Event α)) :
    ((Database.fresh start).afterAll events).tables.runs.map Run.number =
      assignedNumbers ((Database.fresh start).history events) := by
  refine Database.history_induction
    (motive := fun past (db : Database α) => db.tables.runs.map Run.number = assignedNumbers past)
    (.fresh start) rfl (fun past e db hdb h => ?_) events
  rw [assignedNumbers_concat, ← h]
  cases hassigned : (Moment.mk e db).assigned? with
  | none => exact (Moment.numbers_of_not_assigned hdb hassigned).trans (List.append_nil _).symm
  | some number => exact Moment.numbers_of_assigned? hassigned

/-- Every run has the number that its creation gave it. -/
theorem forall₂_births {start : Sequences} (hstart : 0 ≤ start.runNumber)
    (events : List (Event α)) :
    List.Forall₂ (fun r b => r.number = b.number)
      ((Database.fresh start).afterAll events).tables.runs
      (births ((Database.fresh start).history events)) := by
  have hnumbers := (numbers_afterAll start events).trans (ascending_births hstart events).2
  rwa [← List.forall₂_eq_eq_eq, List.forall₂_map_left_iff, List.forall₂_map_right_iff] at hnumbers

/-- While the clock does not go back, later runs were not created before earlier ones. -/
theorem pairwise_births {db : Database α} {events : List (Event α)} (hclock : ClockKeeps events) :
    (births (db.history events)).Pairwise fun older newer => older.now.after newer.now = false := by
  rw [ClockKeeps, ← db.map_event_history events, List.pairwise_map] at hclock
  refine List.pairwise_filterMap.mpr (hclock.imp fun {m n} h b hb c hc => ?_)
  obtain ⟨_, -, rfl⟩ := Option.map_eq_some_iff.mp hb
  obtain ⟨_, -, rfl⟩ := Option.map_eq_some_iff.mp hc
  exact h

end Births

/-! ## Every history -/

/-- Two runs that begin at one time are listed by their numbers. -/
theorem Tables.pair_sublist_listed {t : Tables α} {older newer : Run α} (holder : older ∈ t.runs)
    (hnewer : newer ∈ t.runs) (hstart : older.startedAt.toNanos = newer.startedAt.toNanos)
    (hnumber : older.number ≠ newer.number) :
    [newer, older].Sublist (t.listed none) ↔ older.number < newer.number := by
  have horder : runOrder newer older = true ↔ older.number < newer.number := by
    rw [runOrder_iff]
    simp [hstart, lt_iff_le_and_ne, hnumber]
  have hback : runOrder older newer = true ↔ newer.number < older.number := by
    rw [runOrder_iff]
    simp [hstart, lt_iff_le_and_ne, hnumber.symm]
  rw [pair_sublist_iff (t.pairwise_listed none) (t.listed_perm.mem_iff.mpr hnewer)
    (t.listed_perm.mem_iff.mpr holder) (fun h => hnumber (congrArg Run.number h.symm)), horder]
  rw [horder, hback]
  exact fun h => lt_asymm h.1 h.2

/-- Of two runs that begin at one time the one with the larger number stands first among the rows.
That is the newer one, unless both were created on one day, its counter is longer and its first
digits count less. -/
structure TieBroken (rows : List (Run α)) (older newer : Run α × Birth) : Prop where
  counters : older.2.counter < newer.2.counter
  listed : older.1.startedAt.toNanos = newer.1.startedAt.toNanos →
    ([newer.1, older.1].Sublist rows ↔ older.1.number < newer.1.number)
  numbers : older.2.now.IsPlain → newer.2.now.IsPlain →
    (older.1.number < newer.1.number ↔ older.2.now.date ≠ newer.2.now.date ∨
      older.2.counter ≤ newer.2.counter /
        10 ^ (counterWidth newer.2.counter - counterWidth older.2.counter))

/-- Rows are listed as their births say, in which the counters ascend and the clock does not go
back. -/
theorem tieBroken_zip {t : Tables α} {born : List Birth} {last : Int}
    (hrows : List.Forall₂ (fun r b => r.number = b.number) t.runs born)
    (hborn : Ascending born last)
    (hclock : born.Pairwise fun older newer => older.now.after newer.now = false) :
    (t.runs.zip born).Pairwise (TieBroken (t.listed none)) := by
  obtain ⟨hlength, hnumber⟩ := List.forall₂_iff_zip.mp hrows
  have hordered : (t.runs.zip born).Pairwise fun older newer =>
      older.2.counter < newer.2.counter ∧ older.2.now.after newer.2.now = false := by
    rw [← List.pairwise_map (f := Prod.snd) (R := fun older newer : Birth =>
      older.counter < newer.counter ∧ older.now.after newer.now = false),
      List.map_snd_zip hlength.ge]
    exact hborn.counters.and hclock
  refine hordered.imp_of_mem ?_
  rintro ⟨older, birth⟩ ⟨newer, birth'⟩ holder hnewer ⟨hcounter, hclock⟩
  have hbirth := hnumber holder
  have hbirth' := hnumber hnewer
  refine ⟨hcounter, fun hstart => ?_, fun hplain hplain' => ?_⟩
  · refine Tables.pair_sublist_listed (List.of_mem_zip holder).1 (List.of_mem_zip hnewer).1 hstart
      fun hsame => ?_
    rw [hbirth, hbirth'] at hsame
    exact hcounter.ne (runNumber_inj hsame)
  · rw [hbirth, hbirth']
    exact runNumber_lt_iff hplain hplain' hclock hcounter

/-- Whatever operations were performed before, all runs are listed, each once and from the latest
start down, and those in one status in the same order.  Of runs that begin at one time the one that
was created later is listed first, unless its number has the same day and a longer counter with
smaller digits in front. -/
theorem runs_listed [Scalar α] (start : Sequences) (hstart : 0 ≤ start.runNumber) (events : List (Event α))
    (hclock : ClockKeeps events) :
    let past := (Database.fresh start).history events
    let db := (Database.fresh start).afterAll events
    (∀ (e : Event α) (status : Option RunStatus), e.operation = .listRuns status →
      (e.run db).1 = .ok (.runs (db.tables.listed status))) ∧
    ((db.tables.listed none).Perm db.tables.runs ∧ (db.tables.runs.map Run.id).Nodup) ∧
    ((db.tables.listed none).Pairwise fun a b => b.startedAt.after a.startedAt = false) ∧
    ((∀ s, db.tables.listed (some s) = (db.tables.listed none).filter fun r => r.status = s) ∧
      ([RunStatus.inProgress, .completed, .failed, .cancelled].flatMap
        fun s => db.tables.listed (some s)).Perm (db.tables.listed none)) ∧
    List.Forall₂ (fun r b => r.number = b.number) db.tables.runs (births past) ∧
    (db.tables.runs.zip (births past)).Pairwise (TieBroken (db.tables.listed none)) := by
  intro past db
  have hborn := forall₂_births hstart events
  have hsound := Database.sound_afterAll (Database.Sound.fresh (α := α) start) events
  refine ⟨fun e status hop => Event.run_listRuns hop db,
    ⟨db.tables.listed_perm, hsound.consistent.runIds⟩,
    (db.tables.pairwise_listed none).imp fun {a b} h => ?_,
    ⟨db.tables.listed_some, db.tables.listed_statuses⟩, hborn,
    tieBroken_zip hborn (ascending_births hstart events).1 (pairwise_births hclock)⟩
  rw [Timestamp.after, decide_eq_false_iff_not, not_lt]
  rcases runOrder_iff.mp h with h | ⟨h, -⟩
  · exact h.le
  · exact h.ge

/-- Three runs are created at one time, the first with the last number that has four digits. -/
def tiedSession : List (Event Float) :=
  [creationOf none 1772323200, creationOf none 1772323200, creationOf none 1772323200]

/-- The third run is listed before the second one, and both behind the first one. -/
theorem third_run_listed_second :
    let start : Sequences := { runNumber := 9998 }
    let past := (Database.fresh start).history tiedSession
    let db := (Database.fresh start).afterAll tiedSession
    (0 : Int) ≤ start.runNumber ∧ ClockKeeps tiedSession ∧
      (births past).map (fun b => (b.now.seconds, b.counter)) =
        [(1772323200, 9999), (1772323200, 10000), (1772323200, 10001)] ∧
      (⟨1772323200, 0⟩ : Timestamp).IsPlain ∧
      (db.tables.listed none).map Run.number =
        ["RUN-20260301-9999", "RUN-20260301-10001", "RUN-20260301-10000"] ∧
      (db.tables.runs.zip (births past)).Pairwise (TieBroken (db.tables.listed none)) := by
  intro start past db
  have hstart : (0 : Int) ≤ start.runNumber := by decide
  have hclock : ClockKeeps tiedSession := by
    unfold ClockKeeps
    decide +kernel
  obtain ⟨-, -, -, -, -, hties⟩ := runs_listed start hstart tiedSession hclock
  exact ⟨hstart, hclock, by decide +kernel, by constructor <;> decide +kernel, by decide +kernel,
    hties⟩

/-- The run with the first number that has five digits begins when the one before it begins, and is
listed behind it. -/
theorem newer_run_listed_last :
    let events := [creationOf none 1772323200, creationOf none 1772323200]
    let db := (Database.fresh { runNumber := 9998 }).afterAll events
    ClockKeeps events ∧
      db.tables.runs.map Run.number = ["RUN-20260301-9999", "RUN-20260301-10000"] ∧
      (db.tables.listed none).map Run.number = ["RUN-20260301-9999", "RUN-20260301-10000"] ∧
      (db.tables.listed none).map (fun r => r.startedAt.toNanos) =
        [1772323200000000000, 1772323200000000000] := by
  refine ⟨?_, ?_⟩
  · unfold ClockKeeps
    decide +kernel
  · decide +kernel

end PrintFarm
