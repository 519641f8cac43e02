import PrintFarm.Proofs.Complaints
import PrintFarm.Proofs.Guards
import PrintFarm.Proofs.Interference
import PrintFarm.Proofs.Settling

/-!
# Why operations are refused

A refusal tells of something.  `Refusal.Founded` lists what the tables bear out as they were before
the operation: a field that is wrong, a status that does not allow the change, a row that is not
there, a spool that holds too little, a row that the tables do not take.  There is no case for a
concurrent modification, and a row is reported missing only if it is.

* `Regular` complaints are about the request and the rows as they were read.  There is one lemma for
  each check.
* `Tx.RefusedByTables` is about queries: they are refused by the rules of the tables alone.
* `Tx.RefusesOnly` is carried along a computation.  `RefusesOnly.bind` keeps what was given before,
  and that is what closes a fallback: the row that was found, and the agreement of check and guard.
-/

namespace PrintFarm

open Store Tx

variable {α β γ : Type}

/-! ## Complaints -/

/-- The complaint is about a row that was found, or counts that were checked, a moment before. -/
def Problem.isFallback : Problem α → Bool
  | .bedBeyondOpenUnits | .untrackedModel _ => true
  | _ => false

/-- All complaints are about the request and the rows as they were read. -/
def Regular (complaints : List (FieldError α)) : Prop :=
  ∀ c ∈ complaints, c.problem.isFallback = false

section Complaints

@[simp] theorem regular_nil : Regular ([] : List (FieldError α)) :=
  fun _ h => absurd h List.not_mem_nil

@[simp] theorem regular_append {first second : List (FieldError α)} :
    Regular (first ++ second) ↔ Regular first ∧ Regular second :=
  List.forall_mem_append

@[simp] theorem regular_singleton {field : String} {problem : Problem α} :
    Regular [⟨field, problem⟩] ↔ problem.isFallback = false :=
  List.forall_mem_singleton

@[simp] theorem regular_complaint {wrong : Bool} {field : String} {problem : Problem α} :
    Regular (complaint wrong field problem) ↔ (wrong = true → problem.isFallback = false) := by
  cases wrong <;> simp [complaint]

theorem Outcome.regular_complaints (place : String) (quantity : Int) (o : Outcome) :
    Regular (o.complaints place quantity : List (FieldError α)) := by
  simp [complaints, Problem.isFallback]

theorem Item.regular_rollupComplaints (i : Item α) (added : Outcome) :
    Regular (i.rollupComplaints added) := by
  unfold rollupComplaints
  dsimp only
  split
  · exact Outcome.regular_complaints _ _ _
  · simp [Problem.isFallback]

theorem regular_printCountComplaints (bed : Int) (o : Outcome) :
    Regular (printCountComplaints bed o : List (FieldError α)) := by
  simp [printCountComplaints, Problem.isFallback]

variable [Scalar α]

theorem NewSpool.regular_complaints (new : NewSpool α) : Regular new.complaints := by
  simp [complaints, Problem.isFallback]

theorem NewMaterial.regular_complaints (place : String) (new : NewMaterial α) :
    Regular (new.complaints place) := by
  simp [complaints, Problem.isFallback]

theorem RunRequest.regular_complaints (request : RunRequest α) : Regular request.complaints := by
  rw [request.complaints_eq]
  intro e he
  obtain ⟨c, -, rfl⟩ := List.mem_map.mp he
  match c with
  | .hours | .items => rfl
  | .item _ check => cases check <;> rfl
  | .material _ check => cases check <;> rfl

theorem RunPatch.regular_complaints (patch : RunPatch α) : Regular patch.complaints := by
  simp [complaints, Problem.isFallback]

theorem NewPlate.regular_complaints (new : NewPlate α) : Regular new.complaints := by
  simp [complaints, plateDetailComplaints, Problem.isFallback]

theorem PlatePatch.regular_complaints (patch : PlatePatch α) : Regular patch.complaints := by
  simp [complaints, plateDetailComplaints, Problem.isFallback]

theorem PlateReport.regular_complaints (report : PlateReport α) : Regular report.complaints := by
  simp [complaints, Problem.isFallback]

theorem regular_completionComplaints (lines : List (PricedMaterial α)) (items : List (Item α)) :
    Regular (Workflow.completionComplaints lines items) := by
  unfold Workflow.completionComplaints
  refine regular_append.mpr ⟨fun c hc => ?_, fun c hc => ?_⟩
  · obtain ⟨l, -, hl⟩ := List.mem_filterMap.mp hc
    obtain ⟨problem, -, rfl⟩ := Option.map_eq_some_iff.mp hl
    rfl
  · obtain ⟨i, -, hi⟩ := List.mem_flatMap.mp hc
    exact Outcome.regular_complaints _ _ _ c hi

omit [Scalar α] in
theorem regular_failureComplaints (catalog : Catalog) (reason : String) (waste : UsageTable α) :
    Regular (Workflow.failureComplaints catalog reason waste) := by
  simp [Workflow.failureComplaints, Problem.isFallback]

/-! ### Checks of whole requests -/

/-- The check refuses nothing but fields of the request. -/
def ChecksFields (outcome : Except (Refusal α) β) : Prop :=
  ∀ why, outcome = .error why → ∃ fields, why = .invalid fields ∧ Regular fields

omit [Scalar α] in
theorem checksFields_ok (b : β) : ChecksFields (.ok b : Except (Refusal α) β) :=
  fun _ h => nomatch h

omit [Scalar α] in
theorem checksFields_field {field : String} {problem : Problem α}
    (h : problem.isFallback = false) :
    ChecksFields (.error (.field field problem) : Except (Refusal α) β) := by
  intro why hwhy
  cases hwhy
  exact ⟨_, rfl, regular_singleton.mpr h⟩

omit [Scalar α] in
theorem checksFields_refuseIfAny {complaints : List (FieldError α)} (h : Regular complaints) :
    ChecksFields (refuseIfAny complaints) := by
  intro why hwhy
  unfold refuseIfAny at hwhy
  split at hwhy
  · exact nomatch hwhy
  · cases hwhy
    exact ⟨complaints, rfl, h⟩

omit [Scalar α] in
theorem ChecksFields.bind {outcome : Except (Refusal α) β} {rest : β → Except (Refusal α) γ}
    (hfirst : ChecksFields outcome) (hrest : ∀ b, ChecksFields (rest b)) :
    ChecksFields (outcome >>= rest) := by
  intro why hwhy
  cases outcome with
  | error first =>
    cases hwhy
    exact hfirst _ rfl
  | ok b => exact hrest b why hwhy

omit [Scalar α] in
theorem MeasurementRequest.checksFields (request : MeasurementRequest α) :
    ChecksFields request.measurement := by
  unfold measurement
  split
  case h_1 | h_2 => exact checksFields_ok _
  all_goals exact checksFields_field rfl

theorem checksFields_weightUsed (before after : α) : ChecksFields (weightUsed before after) := by
  unfold weightUsed
  split
  · exact checksFields_field rfl
  · exact checksFields_ok _

theorem Measurement.checksFields (measurement : Measurement α) :
    ChecksFields measurement.reading := by
  cases measurement with
  | manual grams =>
    simp only [reading]
    split
    · exact checksFields_ok _
    · exact checksFields_field rfl
  | weighing before after =>
    apply ChecksFields.bind
    · apply checksFields_refuseIfAny
      simp [Problem.isFallback]
    · intro _
      exact (checksFields_weightUsed before after).bind fun _ => checksFields_ok _

theorem CancelRequest.checksFields (request : CancelRequest α) :
    ChecksFields request.deductible := by
  unfold deductible
  split
  · exact checksFields_ok _
  · dsimp only
    split
    · exact checksFields_field rfl
    · exact checksFields_ok _

end Complaints

/-! ## What a computation is refused for -/

namespace Tx

/-- The computation is refused on `db` for nothing but what is allowed. -/
def RefusesOnly (allowed : Refusal α → Prop) (body : Tx α β) (db : Database α) : Prop :=
  ∀ why db', Refuses body db why db' → allowed why

/-- Where the computation is refused, it is the tables that refuse it. -/
def RefusedByTables (body : Tx α β) : Prop :=
  ∀ db why db', Refuses body db why db' → ∃ fault, why = .storage fault

namespace RefusesOnly

variable {allowed : Refusal α → Prop} {db db₁ : Database α} {x : Tx α β} {f : β → Tx α γ}
  {why : Refusal α}

theorem of_gives {b : β} (h : Gives x db b db₁) : RefusesOnly allowed x db :=
  fun _ _ hrefuses => absurd hrefuses (not_refuses_of_gives h)

theorem pure (b : β) : RefusesOnly allowed (Pure.pure b : Tx α β) db :=
  of_gives rfl

/-- What was given before is known where the computation goes on. -/
theorem bind (hx : RefusesOnly allowed x db)
    (hf : ∀ b db₁, Gives x db b db₁ → RefusesOnly allowed (f b) db₁) :
    RefusesOnly allowed (x >>= f) db := by
  intro why db' h
  rcases refuses_bind.mp h with h | ⟨b, db₁, hb, h⟩
  · exact hx why db' h
  · exact hf b db₁ hb why db' h

theorem map (hx : RefusesOnly allowed x db) (f : β → γ) : RefusesOnly allowed (f <$> x) db :=
  fun why db' h => hx why db' (refuses_map.mp h)

theorem atomically (hx : RefusesOnly allowed x db) : RefusesOnly allowed (atomically x) db := by
  intro why db' h
  obtain ⟨db₁, hbody, -⟩ := refuses_atomically.mp h
  exact hx why db₁ hbody

theorem ite {p : Prop} [Decidable p] {x y : Tx α β} (hx : p → RefusesOnly allowed x db)
    (hy : ¬p → RefusesOnly allowed y db) : RefusesOnly allowed (if p then x else y) db := by
  split
  · exact hx ‹_›
  · exact hy ‹_›

theorem refuse (h : allowed why) : RefusesOnly allowed (Tx.refuse why : Tx α β) db := by
  intro why' db' hwhy
  obtain ⟨rfl, -⟩ := refuses_refuse.mp hwhy
  exact h

/-- Where a refusal stands in between, nothing goes on. -/
theorem refused (h : allowed why) : RefusesOnly allowed (Tx.refuse why >>= f) db :=
  bind (refuse h) fun _ _ hgives => absurd hgives gives_refuse

theorem check {outcome : Except (Refusal α) β} (hwhy : ∀ why, outcome = .error why → allowed why)
    (hf : ∀ b, outcome = .ok b → RefusesOnly allowed (f b) db) :
    RefusesOnly allowed (Tx.check outcome >>= f) db := by
  apply bind
  · intro why db' h
    exact hwhy why (refuses_check.mp h).1
  · intro b db₁ h
    obtain ⟨hok, rfl⟩ := gives_check.mp h
    exact hf b hok

theorem expected {value : Option β} (h : value = none → allowed why) :
    RefusesOnly allowed (Tx.expect value why) db := by
  intro why' db' hwhy
  obtain ⟨hnone, rfl, -⟩ := refuses_expect.mp hwhy
  exact h hnone

theorem expect {value : Option β} (h : value = none → allowed why)
    (hf : ∀ b, value = some b → RefusesOnly allowed (f b) db) :
    RefusesOnly allowed (Tx.expect value why >>= f) db := by
  refine bind (expected h) fun b db₁ hb => ?_
  obtain ⟨hvalue, rfl⟩ := gives_expect.mp hb
  exact hf b hvalue

/-- What is read off the tables is known where the computation goes on. -/
theorem read {g : Tables α → β} (hf : RefusesOnly allowed (f (g db.tables)) db) :
    RefusesOnly allowed ((do return g (← tables)) >>= f) db := by
  refine bind (of_gives ((gives_read g).mpr ⟨rfl, rfl⟩)) fun b db₁ h => ?_
  obtain ⟨rfl, rfl⟩ := (gives_read g).mp h
  exact hf

end RefusesOnly

/-! ### Refusals of the tables -/

namespace RefusedByTables

theorem pure (b : β) : (Pure.pure b : Tx α β).RefusedByTables :=
  fun _ _ _ h => absurd h refuses_pure

theorem tables : (Tx.tables : Tx α _).RefusedByTables :=
  fun _ _ _ h => absurd h refuses_tables

theorem draw (d : Draw) : (Tx.draw d : Tx α _).RefusedByTables :=
  fun _ _ _ h => absurd h refuses_draw

theorem changeTables (change : Tables α → Tables α) : (Tx.changeTables change).RefusedByTables :=
  fun _ _ _ h => absurd h refuses_changeTables

theorem require (holds : Bool) (fault : StorageFault) :
    (Tx.require holds fault : Tx α Unit).RefusedByTables :=
  fun _ _ _ h => ⟨fault, (refuses_require.mp h).2.1⟩

theorem expect (value : Option β) (fault : StorageFault) :
    (Tx.expect value (.storage fault) : Tx α β).RefusedByTables :=
  fun _ _ _ h => ⟨fault, (refuses_expect.mp h).2.1⟩

theorem bind {x : Tx α β} {f : β → Tx α γ} (hx : x.RefusedByTables)
    (hf : ∀ b, (f b).RefusedByTables) : (x >>= f).RefusedByTables := by
  intro db why db' h
  rcases refuses_bind.mp h with h | ⟨b, db₁, -, h⟩
  · exact hx db why db' h
  · exact hf b db₁ why db' h

theorem ite {p : Prop} [Decidable p] {x y : Tx α β} (hx : x.RefusedByTables)
    (hy : y.RefusedByTables) : (if p then x else y).RefusedByTables := by
  split
  · exact hx
  · exact hy

theorem forM {xs : List β} {f : β → Tx α γ} (hf : ∀ x, (f x).RefusedByTables) :
    (xs.forM fun x => do let _ ← f x).RefusedByTables := by
  induction xs with
  | nil => exact .pure _
  | cons x xs ih => exact ((hf x).bind fun _ => .pure _).bind fun _ => ih

theorem mapM {xs : List β} {f : β → Tx α γ} (hf : ∀ x, (f x).RefusedByTables) :
    (xs.mapM f).RefusedByTables := by
  induction xs with
  | nil => exact .pure _
  | cons x xs ih =>
    rw [List.mapM_cons]
    exact (hf x).bind fun _ => ih.bind fun _ => .pure _

/-- The end of a query: the rows are looked at and then changed. -/
theorem write (holds : Bool) (fault : StorageFault) (change : Tables α → Tables α) (b : β) :
    (do Tx.require holds fault; Tx.changeTables change; return b : Tx α β).RefusedByTables :=
  (require holds fault).bind fun _ => (changeTables change).bind fun _ => pure b

end RefusedByTables

end Tx

section Queries

variable [Scalar α] {now : Timestamp} {run id : Uuid}

theorem refusedByTables_insertSpool (new : NewSpool α) :
    (insertSpool now new).RefusedByTables := by
  refine .bind (.require _ _) fun _ => .bind (.bind (.draw _) fun _ => .pure _) fun _ => ?_
  refine .bind (.expect _ _) fun _ => .bind (.expect _ _) fun _ => .bind (.require _ _) fun _ => ?_
  exact .bind .tables fun _ => .write _ _ _ _

theorem refusedByTables_insertRun (now : Timestamp) (new : NewRun α) :
    (insertRun now new).RefusedByTables := by
  refine .bind (.require _ _) fun _ => .bind (.bind (.draw _) fun _ => .pure _) fun _ => ?_
  refine .bind (.expect _ _) fun _ => .bind (.require _ _) fun _ => .bind .tables fun _ => ?_
  exact .bind (.require _ _) fun _ => .write _ _ _ _

theorem refusedByTables_insertItem (now : Timestamp) (run : Uuid) (new : NewItem α) :
    (insertItem now run new).RefusedByTables := by
  refine .bind (.require _ _) fun _ => .bind (.bind (.draw _) fun _ => .pure _) fun _ => ?_
  refine .bind .tables fun _ => .bind (.require _ _) fun _ => .bind (.require _ _) fun _ => ?_
  exact .bind (.require _ _) fun _ => .write _ _ _ _

theorem refusedByTables_insertMaterial (now : Timestamp) (run : Uuid) (new : NewMaterial α)
    (total : α) : (insertMaterial now run new total).RefusedByTables := by
  refine .bind (.bind (.draw _) fun _ => .pure _) fun _ => .bind (.expect _ _) fun _ => ?_
  refine .bind (.expect _ _) fun _ => .bind .tables fun _ => .bind (.require _ _) fun _ => ?_
  refine .bind (.require _ _) fun _ => .bind (.require _ _) fun _ => ?_
  exact .bind (.require _ _) fun _ => .write _ _ _ _

theorem refusedByTables_insertPlate (new : NewPlate α) (number : Int) (name : String) :
    (insertPlate now run new number name).RefusedByTables := by
  refine .bind (.require _ _) fun _ => .bind (.bind (.draw _) fun _ => .pure _) fun _ => ?_
  refine .bind .tables fun _ => .bind (.require _ _) fun _ => .bind (.require _ _) fun _ => ?_
  exact .bind (.require _ _) fun _ => .write _ _ _ _

theorem refusedByTables_insertDeduction (new : NewDeduction α) :
    (insertDeduction now new).RefusedByTables := by
  refine .bind (.bind (.draw _) fun _ => .pure _) fun _ => .bind (.expect _ _) fun _ => ?_
  refine .bind (.require _ _) fun _ => .bind .tables fun _ => .ite (.pure _) ?_
  exact .bind (.require _ _) fun _ => .write _ _ _ _

theorem refusedByTables_setSpoolWeight (weight : α) :
    (setSpoolWeight now id weight).RefusedByTables := by
  refine .bind .tables fun _ => .ite (.pure _) (.bind (.expect _ _) fun _ => ?_)
  exact .write _ _ _ _

theorem refusedByTables_updateRun (patch : RunPatch α) :
    (updateRun now id patch).RefusedByTables := by
  refine .bind (.require _ _) fun _ => .bind (.bind .tables fun _ => .pure _) fun found => ?_
  cases found with
  | none => exact .pure _
  | some r => exact .write _ _ _ _

theorem refusedByTables_endRun (current : RunStatus) (ending : RunEnding α) :
    (endRun now id current ending).RefusedByTables := by
  refine .bind (.require _ _) fun _ => .bind (.bind .tables fun _ => .pure _) fun found => ?_
  cases found with
  | none => exact .pure _
  | some r => exact .ite (.write _ _ _ _) (.pure _)

theorem refusedByTables_setOutcome (outcome : Outcome) :
    (setOutcome id outcome : Tx α _).RefusedByTables := by
  refine .bind .tables fun t => ?_
  split
  · exact .pure _
  · exact .write _ _ _ _

theorem refusedByTables_addOutcome (added : Outcome) :
    (addOutcome id added : Tx α _).RefusedByTables := by
  refine .bind .tables fun t => ?_
  split
  · exact .pure _
  · exact .ite (.write _ _ _ _) (.pure _)

theorem refusedByTables_changeMaterials (fault : StorageFault) (selected : Material α → Bool)
    (change : Material α → Material α) :
    (changeMaterials now fault selected change).RefusedByTables :=
  .bind .tables fun _ => .write _ _ _ _

theorem refusedByTables_updatePlate (patch : PlatePatch α) :
    (updatePlate now id patch).RefusedByTables := by
  refine .bind (.require _ _) fun _ => .bind .tables fun t => ?_
  split
  · exact .pure _
  · exact .write _ _ _ _

theorem refusedByTables_movePlate (current next : PlateStatus) (move : PlateMove α) :
    (movePlate now id current next move).RefusedByTables := by
  refine .bind (.require _ _) fun _ => .bind .tables fun t => ?_
  split
  · exact .pure _
  · exact .write _ _ _ _

omit [Scalar α] in
theorem refusedByTables_nextPlateNumber :
    (nextPlateNumber run : Tx α _).RefusedByTables :=
  .bind .tables fun _ => .bind (.require _ _) fun _ => .pure _

theorem refusedByTables_balances : (Ledger.balances : Tx α _).RefusedByTables := by
  refine .bind (.bind .tables fun _ => .pure _) fun _ => .mapM fun s => ?_
  exact .bind (.bind .tables fun _ => .bind (.require _ _) fun _ => .pure _) fun _ => .pure _

end Queries

/-! ### Reading what was written -/

section Reading

variable [Scalar α] {db db' : Database α} {why : Refusal α} {run : Uuid}

/-- A line that is there can be shown. -/
theorem not_refuses_line {id : Uuid}
    (hspools : ∀ m ∈ db.tables.materials, m.spool ∈ db.tables.spools.map Spool.id)
    (hline : ∃ m ∈ db.tables.materials, m.id = id ∧ m.run = run) :
    ¬Refuses (Store.line run id) db why db' := by
  obtain ⟨m, hm, hid, hrun⟩ := hline
  have hsome : (db.tables.materials.find? fun m => m.id = id && m.run = run).isSome = true :=
    List.find?_isSome.mpr ⟨m, hm, by simp [hid, hrun]⟩
  obtain ⟨n, hn⟩ := Option.isSome_iff_exists.mp hsome
  obtain ⟨s, hs, hspool⟩ := List.mem_map.mp (hspools n (List.mem_of_find?_eq_some hn))
  have hpriced : (priced? db.tables.spools n).isSome = true := by
    simpa [priced?] using ⟨s, hs, hspool⟩
  obtain ⟨line, hl⟩ := Option.isSome_iff_exists.mp hpriced
  exact not_refuses_of_gives (gives_line.mpr ⟨⟨line, by rw [hn]; exact hl, rfl⟩, rfl⟩)

/-- A run that is there can be shown. -/
theorem not_refuses_snapshot {r : Run α} (hr : r ∈ db.tables.runs) :
    ¬Refuses (snapshot r.id) db why db' := by
  have hsome : (db.tables.runs.find? fun s => s.id = r.id).isSome = true :=
    List.find?_isSome.mpr ⟨r, hr, decide_eq_true rfl⟩
  obtain ⟨s, hs⟩ := Option.isSome_iff_exists.mp hsome
  exact not_refuses_of_gives (gives_snapshot.mpr ⟨s, hs, rfl, rfl⟩)

end Reading

/-! ### Parts of workflows -/

namespace Workflow

variable [Scalar α] {now : Timestamp} {db db' : Database α} {run : Uuid}

omit [Scalar α] in
theorem reads_findSpool (spool : Uuid) :
    (do let _ ← expect (← spool? spool) (.notFound .spool spool) : Tx α PUnit).Reads :=
  (reads_tables.bind fun _ => reads_pure _).bind fun _ =>
    (reads_expect _ _).bind fun _ => reads_pure _

omit [Scalar α] in
/-- The first spool that is missing is reported. -/
theorem refuses_findSpools {materials : List (NewMaterial α)} {why : Refusal α}
    (h : Refuses (materials.forM fun m => do
      let _ ← expect (← spool? m.spool) (.notFound .spool m.spool)) db why db') :
    ∃ earlier m later, materials = earlier ++ m :: later ∧
      (∀ l ∈ earlier, ∃ s ∈ db.tables.spools, s.id = l.spool) ∧
      (∀ s ∈ db.tables.spools, s.id ≠ m.spool) ∧ why = .notFound .spool m.spool := by
  induction materials with
  | nil => exact absurd h refuses_pure
  | cons m materials ih =>
    rcases refuses_bind.mp h with hfirst | ⟨_, db₁, hfirst, hrest⟩
    · simp only [refuses_bind, refuses_spool?, gives_spool?, refuses_expect, refuses_pure,
        and_false, exists_false, or_false, false_or] at hfirst
      obtain ⟨_, _, ⟨rfl, rfl⟩, hnone, rfl, -⟩ := hfirst
      exact ⟨[], m, materials, rfl, by simp, by simpa using hnone, rfl⟩
    · simp only [gives_bind, gives_spool?, gives_expect, gives_pure] at hfirst
      obtain ⟨_, _, ⟨rfl, rfl⟩, s, _, ⟨hs, rfl⟩, -, rfl⟩ := hfirst
      obtain ⟨earlier, n, later, rfl, hearlier, hmissing, hwhy⟩ := ih hrest
      refine ⟨m :: earlier, n, later, rfl, List.forall_mem_cons.mpr ⟨⟨s, ?_, ?_⟩, hearlier⟩,
        hmissing, hwhy⟩
      · exact List.mem_of_find?_eq_some hs
      · simpa using List.find?_some hs

theorem runs_of_gives_insertItems {items : List (NewItem α)} {u : PUnit}
    (h : Gives (items.forM fun i => do let _ ← insertItem now run i) db u db') :
    db'.tables.runs = db.tables.runs := by
  refine gives_forM (fun d => d.tables.runs = db.tables.runs) (fun i _ d u d' hd h => ?_) rfl h
  simp only [gives_bind, gives_pure, gives_insertItem] at h
  obtain ⟨_, _, ⟨-, -, -, -, -, -, rfl⟩, -, rfl⟩ := h
  exact hd

theorem runs_of_gives_insertMaterials {materials : List (NewMaterial α)} {u : PUnit}
    (h : Gives (materials.forM fun m => do let _ ← insertMaterial now run m m.estimatedTotal)
      db u db') : db'.tables.runs = db.tables.runs := by
  refine gives_forM (fun d => d.tables.runs = db.tables.runs) (fun m _ d u d' hd h => ?_) rfl h
  simp only [gives_bind, gives_pure, gives_insertMaterial] at h
  obtain ⟨_, _, ⟨-, -, -, -, -, -, rfl⟩, -, rfl⟩ := h
  exact hd

/-- Of a run that is created the new row is shown, with the next number. -/
theorem shown_of_createRun {request : RunRequest α} {view : Snapshot α}
    (h : Gives (createRun now request) db view db') :
    ∃ r, r.number = runNumber now (db.sequences.runNumber + 1) ∧
      (∀ s ∈ db.tables.runs, s.id ≠ r.id) ∧ db'.tables.runs = db.tables.runs ++ [r] ∧
      Gives (snapshot r.id) db' view db' := by
  simp only [createRun, gives_atomically, gives_bind, gives_check] at h
  obtain ⟨_, _, ⟨-, rfl⟩, _, _, hspools, r, db₂, hrun, _, _, hitems, _, _, hmaterials, hview⟩ := h
  obtain rfl := gives_findSpools hspools
  obtain rfl := (reads_snapshot _).gives hview
  have hruns := (runs_of_gives_insertMaterials hmaterials).trans (runs_of_gives_insertItems hitems)
  obtain ⟨-, ⟨_, -, rfl⟩, -, hid, -, rfl⟩ := gives_insertRun.mp hrun
  exact ⟨_, rfl, hid, hruns, hview⟩

/-- Once the spools of a new run are found, only the tables can refuse it. -/
theorem refusedByTables_addRun (now : Timestamp) (request : RunRequest α) :
    (do
      let run ← Store.insertRun now request.run
      request.items.forM fun i => do
        let _ ← Store.insertItem now run.id i
      request.materials.forM fun m => do
        let _ ← Store.insertMaterial now run.id m m.estimatedTotal
      Store.snapshot run.id).RefusedByTables := by
  intro db why db' h
  rcases refuses_bind.mp h with hrefused | ⟨r, _, hrun, hadd⟩
  · exact refusedByTables_insertRun _ _ _ _ _ hrefused
  rcases refuses_bind.mp hadd with hrefused | ⟨_, _, hadded, huse⟩
  · exact RefusedByTables.forM (refusedByTables_insertItem _ _) _ _ _ hrefused
  rcases refuses_bind.mp huse with hrefused | ⟨_, _, hused, hshow⟩
  · exact RefusedByTables.forM (fun m => refusedByTables_insertMaterial _ _ m _) _ _ _ hrefused
  refine absurd hshow (not_refuses_snapshot ?_)
  rw [runs_of_gives_insertMaterials hused, runs_of_gives_insertItems hadded]
  obtain ⟨-, -, -, -, -, rfl⟩ := gives_insertRun.mp hrun
  simp

theorem refusedByTables_fixLines (now : Timestamp) (lines : List (PricedMaterial α)) :
    (fixLines now lines).RefusedByTables := by
  induction lines with
  | nil => exact .pure _
  | cons l lines ih => exact .bind (.changeTables _) fun _ => .bind ih fun _ => .pure _

theorem refusedByTables_setUnitCosts (cost : Item α → Option α) (items : List (Item α)) :
    (items.forM fun i => setUnitCost i.id (cost i) : Tx α PUnit).RefusedByTables := by
  induction items with
  | nil => exact .pure _
  | cons i items ih => exact .bind (.changeTables _) fun _ => ih

end Workflow

/-! ## Refusals that the tables bear out -/

/-- The tables `t` bear out the refusal of `op`: fields of the request are wrong, a row is in the
status that is told, the row that the operation names is not there, a spool that is to be deducted
from is missing or holds too little, or the tables do not take a row. -/
inductive Refusal.Founded [Scalar α] (t : Tables α) (op : Operation α) : Refusal α → Prop
  | fields {fields : List (FieldError α)} (hregular : Regular fields) :
    Founded t op (.invalid fields)
  | runEnded {r : Run α} {action : String} (hrun : op.run? = some r.id) (hr : r ∈ t.runs)
      (hended : r.status.isTerminal = true) : Founded t op (r.illegal action)
  | plateStarted {p : Plate α} {action : String} (hplate : op.child? = some (.plate, p.id))
      (hp : p ∈ t.plates) (hstarted : p.status ≠ .pending) : Founded t op (p.illegal action)
  | noRun {id : Uuid} (hrun : op.run? = some id) (hmissing : ∀ r ∈ t.runs, r.id ≠ id) :
    Founded t op (.notFound .run id)
  | noRow {run id : Uuid} {kind : Entity} (hrun : op.run? = some run)
      (hchild : op.child? = some (kind, id)) (hmissing : ¬t.Owns run kind id) :
    Founded t op (.notFound kind id)
  | noSpool {id : Uuid} (hmissing : ∀ s ∈ t.spools, s.id ≠ id) : Founded t op (.notFound .spool id)
  | shortSpool {s : Spool α} {grams : α} (hs : s ∈ t.spools)
      (hshort : Scalar.lt s.weight grams = true) :
    Founded t op (.insufficientStock s.id grams s.weight)
  | tables {fault : StorageFault} : Founded t op (.storage fault)

section Founded

variable [Scalar α] {t : Tables α} {op : Operation α} {db : Database α} {id : Uuid}

theorem Tx.RefusedByTables.founded {x : Tx α β} (h : x.RefusedByTables) :
    RefusesOnly (Refusal.Founded t op) x db := by
  intro why db' hwhy
  obtain ⟨fault, rfl⟩ := h db why db' hwhy
  exact .tables

namespace Tx.RefusesOnly

variable {f : Unit → Tx α γ}

theorem refuseIfAny {complaints : List (FieldError α)} (h : Regular complaints)
    (hf : complaints = [] → RefusesOnly (Refusal.Founded t op) (f ()) db) :
    RefusesOnly (Refusal.Founded t op) (Tx.check (PrintFarm.refuseIfAny complaints) >>= f) db := by
  apply check
  · intro why hwhy
    obtain ⟨_, rfl, hregular⟩ := checksFields_refuseIfAny h why hwhy
    exact .fields hregular
  · intro _ hok
    exact hf (refuseIfAny_eq_ok.mp hok)

theorem checkFields {outcome : Except (Refusal α) β} {f : β → Tx α γ} (h : ChecksFields outcome)
    (hf : ∀ b, outcome = .ok b → RefusesOnly (Refusal.Founded t op) (f b) db) :
    RefusesOnly (Refusal.Founded t op) (Tx.check outcome >>= f) db := by
  refine check (fun why hwhy => ?_) hf
  obtain ⟨_, rfl, hregular⟩ := h why hwhy
  exact .fields hregular

theorem checkMutable {r : Run α} {action : String} (hop : op.run? = some r.id) (hr : r ∈ t.runs)
    (hf : r.status = .inProgress → RefusesOnly (Refusal.Founded t op) (f ()) db) :
    RefusesOnly (Refusal.Founded t op) (Tx.check (r.checkMutable action) >>= f) db := by
  refine check (fun why hwhy => ?_) fun _ hok => hf (Run.checkMutable_eq_ok.mp hok)
  obtain ⟨hended, rfl⟩ := Run.checkMutable_eq_error.mp hwhy
  exact .runEnded hop hr hended

theorem checkMove {r : Run α} {next : RunStatus} {action : String} (hop : op.run? = some r.id)
    (hr : r ∈ t.runs) (hnext : next.isTerminal = true)
    (hf : r.status = .inProgress → RefusesOnly (Refusal.Founded t op) (f ()) db) :
    RefusesOnly (Refusal.Founded t op) (Tx.check (r.checkMove next action) >>= f) db := by
  refine check (fun why hwhy => ?_) fun _ hok => hf (Run.checkMove_eq_ok.mp hok).1
  obtain ⟨hended | hnot, rfl⟩ := Run.checkMove_eq_error.mp hwhy
  · exact .runEnded hop hr hended
  · rw [hnext] at hnot
    exact nomatch hnot

theorem run {f : Run α → Tx α γ} (hop : op.run? = some id)
    (hf : ∀ r ∈ db.tables.runs, r.id = id →
      RefusesOnly (Refusal.Founded db.tables op) (f r) db) :
    RefusesOnly (Refusal.Founded db.tables op) (Store.run id >>= f) db := by
  refine bind (read (expected fun hnone => ?_)) fun r db₁ h => ?_
  · exact .noRun hop (by simpa using hnone)
  · obtain ⟨hr, rfl⟩ := gives_run.mp h
    exact hf r (List.mem_of_find?_eq_some hr) (by simpa using List.find?_some hr)

theorem runInProgress {action : String} {f : Run α → Tx α γ} (hop : op.run? = some id)
    (hf : ∀ r ∈ db.tables.runs, r.id = id → r.status = .inProgress →
      RefusesOnly (Refusal.Founded db.tables op) (f r) db) :
    RefusesOnly (Refusal.Founded db.tables op) (Store.runInProgress id action >>= f) db := by
  refine bind (run hop fun r hr hid => checkMutable (hid ▸ hop) hr fun _ => pure r)
    fun r db₁ h => ?_
  obtain ⟨hr, hprogress, rfl⟩ := gives_runInProgress.mp h
  exact hf r (List.mem_of_find?_eq_some hr) (by simpa using List.find?_some hr) hprogress

theorem plate {run : Uuid} {f : Plate α → Tx α γ} (hop : op.run? = some run)
    (hchild : op.child? = some (.plate, id))
    (hf : ∀ p ∈ db.tables.plates, p.id = id → p.run = run →
      RefusesOnly (Refusal.Founded db.tables op) (f p) db) :
    RefusesOnly (Refusal.Founded db.tables op) (Store.plate run id >>= f) db := by
  refine bind (read (expected fun hnone => ?_)) fun p db₁ h => ?_
  · refine .noRow hop hchild fun howns => ?_
    obtain ⟨p, hp, hid, hrun⟩ := howns
    simpa [hid, hrun] using List.find?_eq_none.mp hnone p hp
  · obtain ⟨hp, rfl⟩ := gives_plate.mp h
    obtain ⟨hid, hrun⟩ : p.id = id ∧ p.run = run := by simpa using List.find?_some hp
    exact hf p (List.mem_of_find?_eq_some hp) hid hrun

end Tx.RefusesOnly

end Founded

end PrintFarm
