import PrintFarm.Proofs.Closing
import PrintFarm.Proofs.Planning
import PrintFarm.Proofs.Printing

/-!
# Accepted and refused operations

`perform_step` is the only theorem about what the workflows do that the development goes on with: an
operation that is accepted is a `Step`.  One that is refused leaves the tables as they were
(`perform_refused`).  In both cases the journal grows (`perform_grows`).
-/

namespace PrintFarm.Operation

open Tx Workflow

variable {α : Type} [Scalar α] {catalog : Catalog} {now : Timestamp} {db db' : Database α}

/-! ## Reading -/

/-- The listing of balances sums up what was deducted from one spool after the other. -/
theorem reads_balances : (Ledger.balances : Tx α _).Reads := by
  refine (reads_tables.bind fun _ => reads_pure _).bind fun spools => .mapM fun s => ?_
  refine (reads_tables.bind fun t => ?_).bind fun _ => reads_pure _
  exact (reads_require _ _).bind fun _ => reads_pure _

/-- An operation that only reads leaves the database as it is, whether it is accepted or not. -/
theorem reads_perform {op : Operation α} (hread : op.isReading = true) :
    (op.perform catalog now).Reads := by
  cases op with
  | listSpools => exact reads_balances.map _
  | listReasons => exact reads_pure _
  | listRuns status => exact (reads_tables.bind fun _ => reads_pure _).map _
  | showRun run => exact (Store.reads_snapshot run).map _
  | listDeductions run =>
    exact (Store.reads_run run).bind fun _ => (reads_tables.bind fun _ => reads_pure _).map _
  | listPlates run =>
    exact (Store.reads_run run).bind fun _ => (reads_tables.bind fun _ => reads_pure _).map _
  | _ => exact nomatch hread

/-! ## Accepted operations -/

/-- Where no run ends, the journal stays as it is. -/
theorem step_and_grows {op : Operation α} {answer : Answer α}
    (h : Gives (op.perform catalog now) db answer db') (hop : op.ends? = none)
    (hstep : Step catalog now db.tables op db'.tables) :
    Step catalog now db.tables op db'.tables ∧ db.Grows db' :=
  ⟨hstep, .of_gives h (hstep.deductions_eq hop)⟩

/-- An accepted operation is a step, and the journal grows. -/
theorem perform_step (hdb : db.tables.Consistent) {op : Operation α} {answer : Answer α}
    (h : Gives (op.perform catalog now) db answer db') :
    Step catalog now db.tables op db'.tables ∧ db.Grows db' := by
  cases op with
  | listSpools | listReasons | listRuns | showRun | listDeductions | listPlates =>
    obtain rfl := (reads_perform rfl).gives h
    exact step_and_grows h rfl (.read rfl)
  | completeRun run =>
    obtain ⟨view, hview, -⟩ := gives_map.mp h
    exact step_completeRun hdb hview
  | cancelRun run request =>
    obtain ⟨view, hview, -⟩ := gives_map.mp h
    exact step_cancelRun hdb hview
  | failRun run request =>
    obtain ⟨view, hview, -⟩ := gives_map.mp h
    exact step_failRun hdb hview
  | createSpool new =>
    obtain ⟨s, hs, -⟩ := gives_map.mp h
    exact step_and_grows h rfl (step_createSpool hs)
  | createRun request =>
    obtain ⟨view, hview, -⟩ := gives_map.mp h
    exact step_and_grows h rfl (step_createRun hdb hview)
  | updateRun run patch =>
    obtain ⟨r, hr, -⟩ := gives_map.mp h
    exact step_and_grows h rfl (step_updateRun hdb hr)
  | updateOutcome run item outcome =>
    obtain ⟨i, hi, -⟩ := gives_map.mp h
    exact step_and_grows h rfl (step_updateOutcome hdb hi)
  | addMaterial run new =>
    obtain ⟨line, hline, -⟩ := gives_map.mp h
    exact step_and_grows h rfl (step_addMaterial hline)
  | recordActual run material request =>
    obtain ⟨line, hline, -⟩ := gives_map.mp h
    exact step_and_grows h rfl (step_recordActual hline)
  | resetActuals run =>
    obtain ⟨lines, hlines, -⟩ := gives_map.mp h
    exact step_and_grows h rfl (step_resetActuals hlines)
  | removeMaterial run material =>
    obtain ⟨_, _, hgone, hnothing⟩ := gives_bind.mp h
    obtain ⟨-, rfl⟩ := gives_pure.mp hnothing
    exact step_and_grows h rfl (step_removeMaterial hgone)
  | createPlate run new =>
    obtain ⟨p, hp, -⟩ := gives_map.mp h
    exact step_and_grows h rfl (step_createPlate hp)
  | updatePlate run plate patch =>
    obtain ⟨p, hp, -⟩ := gives_map.mp h
    exact step_and_grows h rfl (step_updatePlate hdb hp)
  | deletePlate run plate =>
    obtain ⟨_, _, hgone, hnothing⟩ := gives_bind.mp h
    obtain ⟨-, rfl⟩ := gives_pure.mp hnothing
    exact step_and_grows h rfl (step_deletePlate hdb hgone)
  | startPlate run plate =>
    obtain ⟨p, hp, -⟩ := gives_map.mp h
    exact step_and_grows h rfl (step_movePlate hdb .start hp)
  | completePlate run plate report =>
    obtain ⟨p, hp, -⟩ := gives_map.mp h
    obtain ⟨_, _, hcheck, hmove⟩ := gives_bind.mp hp
    obtain ⟨hvalid, rfl⟩ := gives_check.mp hcheck
    exact step_and_grows h rfl
      (step_movePlate hdb (.complete (refuseIfAny_eq_ok.mp hvalid)) hmove)
  | failPlate run plate notes =>
    obtain ⟨p, hp, -⟩ := gives_map.mp h
    exact step_and_grows h rfl (step_movePlate hdb .fail hp)
  | cancelPlate run plate notes =>
    obtain ⟨p, hp, -⟩ := gives_map.mp h
    exact step_and_grows h rfl (step_movePlate hdb .cancel hp)

/-! ## Refused operations -/

omit [Scalar α] in
/-- What is done as a whole changes no table where it is refused. -/
theorem atomically_refused {β : Type} {body : Tx α β} {why : Refusal α}
    (h : Refuses (atomically body) db why db') : db'.tables = db.tables := by
  obtain ⟨after, -, rfl⟩ := refuses_atomically.mp h
  rfl

/-- An operation that is refused leaves the tables as they were. -/
theorem perform_refused {op : Operation α} {why : Refusal α}
    (h : Refuses (op.perform catalog now) db why db') : db'.tables = db.tables := by
  cases op with
  | listSpools | listReasons | listRuns | showRun | listDeductions | listPlates =>
    exact congrArg Database.tables ((reads_perform rfl).refuses h)
  | removeMaterial run material =>
    rcases refuses_bind.mp h with h | ⟨_, _, -, h⟩
    · exact atomically_refused h
    · exact absurd h refuses_pure
  | deletePlate run plate =>
    rcases refuses_bind.mp h with h | ⟨_, _, -, h⟩
    · exact atomically_refused h
    · exact absurd h refuses_pure
  | completePlate run plate report =>
    rcases refuses_bind.mp (refuses_map.mp h) with hcheck | ⟨_, _, hcheck, hmove⟩
    · exact congrArg Database.tables (refuses_check.mp hcheck).2
    · obtain ⟨-, rfl⟩ := gives_check.mp hcheck
      exact atomically_refused hmove
  | _ => exact atomically_refused (refuses_map.mp h)

/-- Whether an operation is accepted or not, the journal grows. -/
theorem perform_grows (hdb : db.tables.Consistent) (op : Operation α) :
    db.Grows ((op.perform catalog now).run db).2 := by
  rcases gives_or_refuses (op.perform catalog now) db with ⟨b, db', h⟩ | ⟨why, db', h⟩
  · rw [h]
    exact (perform_step hdb h).2
  · have hforward := (op.perform catalog now).forward db
    rw [h] at hforward ⊢
    exact .of_eq (congrArg Tables.deductions (perform_refused h)) hforward

end PrintFarm.Operation
