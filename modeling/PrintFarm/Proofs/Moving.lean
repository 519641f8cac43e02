import PrintFarm.Proofs.Deciding
import PrintFarm.Proofs.Fallbacks

/-!
# When a plate moves

Five operations take a plate from one status to another, or away.  Four of them are one workflow,
which checks the status of the plate, then the counts against its bed and its item, and writes the
item before the plate.

* `countFaults` is what a move is refused for once the status allows it, and `refusal?_movePlate`
  says that nothing but the notes is left to refuse then.
* `Plate.starting`, `Plate.completing` and the like say what each operation comes to, by the counts
  of the plate and its item alone.
* `plate_changes_decided` holds of every history: each operation succeeds exactly where it may, and
  then changes one plate and at most one item.
-/

namespace PrintFarm

open Store Tx
open Scalar (IsAmount)

variable {α : Type} [Scalar α]

/-! ## Refusals of a move -/

/-- What is wrong with the counts of a move: they have to be within the bed of a completed plate,
and what they bring within what the item plans. -/
def countFaults (i : Item α) (p : Plate α) (next : PlateStatus) (reported : Outcome) :
    List (FieldError α) :=
  let bed : List (FieldError α) :=
    if next = .completed then printCountComplaints p.printsPerPlate reported else []
  if bed = [] then
    if (rollup next p.printsPerPlate reported).isEmpty then []
    else i.rollupComplaints (i.gained next p.printsPerPlate reported)
  else bed

omit [Scalar α] in
/-- A bed whose counts are in order leaves those of the item. -/
theorem countFaults_of_bed {i : Item α} {p : Plate α} {next : PlateStatus} {reported : Outcome}
    (hbed : next = .completed →
      (printCountComplaints p.printsPerPlate reported : List (FieldError α)) = []) :
    countFaults i p next reported =
      if (rollup next p.printsPerPlate reported).isEmpty then []
      else i.rollupComplaints (i.gained next p.printsPerPlate reported) := by
  have hnone : (if next = .completed then printCountComplaints p.printsPerPlate reported else [] :
      List (FieldError α)) = [] := by
    split
    · rename_i hcompleted
      exact hbed hcompleted
    · rfl
  exact if_pos hnone

namespace Workflow

variable {catalog : Catalog} {now : Timestamp} {db db₁ : Database α} {r : Run α} {p : Plate α}
  {i : Item α} {next : PlateStatus} {action : String} {move : PlateMove α} {op : Operation α}

/-- A run in progress is read, and nothing changes. -/
theorem gives_runInProgress_of_mem (hdb : db.tables.Consistent) (hr : r ∈ db.tables.runs)
    (hprogress : r.status = .inProgress) (action : String) :
    Gives (runInProgress r.id action) db r db :=
  gives_runInProgress.mpr ⟨hdb.find_run hr, hprogress, rfl⟩

omit [Scalar α] in
theorem gives_plate_of_mem (hids : (db.tables.plates.map Plate.id).Nodup)
    (hp : p ∈ db.tables.plates) : Gives (Store.plate p.run p.id) db p db := by
  refine gives_plate.mpr ⟨find?_of_unique hp (by simp) fun q hq hsel => ?_, rfl⟩
  exact eq_of_key_eq hids hq hp (of_decide_eq_true (Bool.and_eq_true_iff.mp hsel).1)

/-- What a plate brings is refused for not being within what its item plans. -/
theorem refusal?_rollIntoItem (hdb : db.tables.Consistent) (hi : i ∈ db.tables.items)
    (hrun : i.run = p.run) (hmodel : i.model = p.model) {reported : Outcome} :
    refusal? (rollIntoItem p.run p next reported) db =
      if (rollup next p.printsPerPlate reported).isEmpty then none
      else if i.rollupComplaints (i.gained next p.printsPerPlate reported) = [] then none
      else some (.invalid (i.rollupComplaints (i.gained next p.printsPerPlate reported))) := by
  have hfound : db.tables.items.find? (fun j => j.run = p.run && j.model = p.model) = some i := by
    refine find?_of_unique hi (by simp [hrun, hmodel]) fun j hj hsel => ?_
    obtain ⟨hjrun, hjmodel⟩ := Bool.and_eq_true_iff.mp hsel
    exact eq_of_model_eq hdb hj hi ((of_decide_eq_true hjrun).trans hrun.symm)
      ((of_decide_eq_true hjmodel).trans hmodel.symm)
  rw [rollIntoItem]
  cases hempty : (rollup next p.printsPerPlate reported).isEmpty with
  | true => rfl
  | false =>
    rw [if_neg Bool.false_ne_true, if_neg Bool.false_ne_true,
      refusal?_bind_of_gives (gives_itemFor?.mpr ⟨rfl, rfl⟩), hfound,
      refusal?_bind_of_gives (gives_expect.mpr ⟨rfl, rfl⟩), refusal?_refuseIfAny]
    split
    · rename_i hvalid
      split
      · obtain ⟨db', hone⟩ := gives_addOutcome_of_check hdb hi hvalid
        exact refusal?_bind_of_gives hone
      · rfl
    · rfl

variable (now) in
/-- A plate moves from the status it was read in, unless its notes cannot be stored. -/
theorem refusal?_storeMove {plate : Uuid} {current : PlateStatus}
    (hfound : db.tables.plates.find? (fun q => q.id = plate && q.status = current) = some p)
    (haccepts : acceptsPlate (movedPlate now next move p) = true) :
    refusal? (Store.movePlate now plate current next move) db =
      if allStorable [move.notes] then none else some (.storage .movePlate) := by
  cases htexts : allStorable [move.notes] with
  | true =>
    have hmoved := gives_movePlate.mpr ⟨htexts, p, hfound, haccepts, rfl, rfl⟩
    exact refusal?_eq_none.mpr ⟨_, _, hmoved⟩
  | false => exact refusal?_eq_some.mpr ⟨db, refuses_first (refuses_require.mpr ⟨htexts, rfl, rfl⟩)⟩

/-- What is left of a move when its status and the counts of its bed are in order. -/
theorem refusal?_writeMove (hdb : db.tables.Consistent) (hp : p ∈ db.tables.plates)
    (haccepts : acceptsPlate (movedPlate now next (move.counted next p.printsPerPlate) p) = true) :
    refusal? (do
      rollIntoItem p.run p next move.reported
      match ← Store.movePlate now p.id p.status next (move.counted next p.printsPerPlate) with
      | some row =>
        Store.touchRun now p.run
        return row
      | none => Tx.refuse (plateChanged (← Store.plate p.run p.id) p.status.word)) db =
    (refusal? (rollIntoItem p.run p next move.reported) db).or
      (if allStorable [move.notes] then none else some (.storage .movePlate)) := by
  rcases gives_or_refuses (rollIntoItem p.run p next move.reported) db with
    ⟨u, db₁, h⟩ | ⟨why, db₁, h⟩
  · have hplates : db₁.tables.plates = db.tables.plates := by rw [(gives_rollIntoItem hdb h).1]
    have hfound :
        db₁.tables.plates.find? (fun q => q.id = p.id && q.status = p.status) = some p := by
      rw [hplates]
      refine find?_of_unique hp (by simp) fun q hq hsel => ?_
      exact eq_of_key_eq hdb.plateIds hq hp (of_decide_eq_true (Bool.and_eq_true_iff.mp hsel).1)
    have hnotes : (move.counted next p.printsPerPlate).notes = move.notes := by
      unfold PlateMove.counted
      split <;> rfl
    have hmove := refusal?_storeMove now hfound haccepts
    rw [refusal?_bind_of_gives h, refusal?_eq_none.mpr ⟨u, db₁, h⟩, Option.none_or, ← hnotes,
      ← hmove]
    rcases gives_or_refuses (Store.movePlate now p.id p.status next
      (move.counted next p.printsPerPlate)) db₁ with ⟨row, db₂, hrow⟩ | ⟨why, db₂, hwhy⟩
    · rw [refusal?_bind_of_gives hrow, refusal?_eq_none.mpr ⟨row, db₂, hrow⟩]
      cases row with
      | some row => rfl
      | none =>
        -- the plate is still as it was read
        obtain ⟨-, hnone, -⟩ := gives_movePlate_none.mp hrow
        exact nomatch hfound.symm.trans hnone
    · rw [refusal?_bind_of_refuses hwhy, refusal?_eq_some.mpr ⟨db₂, hwhy⟩]
  · rw [refusal?_bind_of_refuses h, refusal?_eq_some.mpr ⟨db₁, h⟩, Option.some_or]

/-- A move is refused for the status of the plate, or else for its counts, or else for its notes. -/
theorem refusal?_movePlate (hdb : db.tables.Consistent) (hr : r ∈ db.tables.runs)
    (hprogress : r.status = .inProgress) (hp : p ∈ db.tables.plates) (hpr : p.run = r.id)
    (hi : i ∈ db.tables.items) (hrun : i.run = p.run) (hmodel : i.model = p.model)
    (hmoves : MovesPlate now op p.run p.id next move) :
    refusal? (movePlate now p.run p.id next action move) db =
      if p.status.canBecome next then
        if countFaults i p next move.reported = [] then
          if allStorable [move.notes] then none else some (.storage .movePlate)
        else some (.invalid (countFaults i p next move.reported))
      else some (p.illegal action) := by
  have hread := gives_runInProgress_of_mem hdb hr hprogress (action ++ " plate in")
  rw [← hpr] at hread
  have hwrite : (next = .completed →
      (printCountComplaints p.printsPerPlate move.reported : List (FieldError α)) = []) →
      refusal? (do
        rollIntoItem p.run p next move.reported
        match ← Store.movePlate now p.id p.status next (move.counted next p.printsPerPlate) with
        | some row =>
          Store.touchRun now p.run
          return row
        | none => Tx.refuse (plateChanged (← Store.plate p.run p.id) p.status.word)) db =
      if countFaults i p next move.reported = [] then
        if allStorable [move.notes] then none else some (.storage .movePlate)
      else some (.invalid (countFaults i p next move.reported)) := by
    intro hbed
    rw [refusal?_writeMove hdb hp (acceptsPlate_moved hmoves (hdb.beds p hp) hbed),
      refusal?_rollIntoItem hdb hi hrun hmodel, countFaults_of_bed hbed]
    cases (rollup next p.printsPerPlate move.reported).isEmpty with
    | true => rfl
    | false =>
      rw [if_neg Bool.false_ne_true, if_neg Bool.false_ne_true]
      split
      · exact Option.none_or
      · exact Option.some_or
  rw [movePlate, refusal?_atomically, refusal?_bind_of_gives hread,
    refusal?_bind_of_gives (gives_plate_of_mem hdb.plateIds hp), Plate.checkMove]
  cases p.status.canBecome next with
  | false => rfl
  | true =>
    rw [if_pos rfl, if_pos rfl, refusal?_check_ok]
    by_cases hcompleted : next = .completed
    · rw [if_pos hcompleted, refusal?_refuseIfAny]
      by_cases hbed : (printCountComplaints p.printsPerPlate move.reported : List (FieldError α)) = []
      · rw [if_pos hbed]
        exact hwrite fun _ => hbed
      · have hfaults : countFaults i p next move.reported =
            printCountComplaints p.printsPerPlate move.reported := by
          unfold countFaults
          rw [if_pos hcompleted]
          exact if_neg hbed
        rw [if_neg hbed, hfaults, if_neg hbed]
    · rw [if_neg hcompleted]
      exact hwrite fun h => absurd h hcompleted

/-- A plate that was started is not deleted. -/
theorem refusal?_deletePlate (hdb : db.tables.Consistent) (hr : r ∈ db.tables.runs)
    (hprogress : r.status = .inProgress) (hp : p ∈ db.tables.plates) (hpr : p.run = r.id) :
    refusal? (deletePlate now p.run p.id) db =
      if p.status = .pending then none else some (p.illegal "delete") := by
  have hread := gives_runInProgress_of_mem hdb hr hprogress "delete plates of"
  rw [← hpr] at hread
  rw [deletePlate, refusal?_atomically, refusal?_bind_of_gives hread,
    refusal?_bind_of_gives (gives_plate_of_mem hdb.plateIds hp), Plate.checkDeletable]
  by_cases hpending : p.status = .pending
  · rw [if_pos hpending, if_pos hpending, refusal?_check_ok,
      refusal?_bind_of_gives (gives_deletePendingPlate.mpr ⟨rfl, rfl⟩)]
    have hhits : db.tables.plates.countP
        (fun q => q.id = p.id && q.run = p.run && q.status = .pending) ≠ 0 :=
      fun hzero => absurd (List.countP_eq_zero.mp hzero p hp) (by simp [hpending])
    rw [if_neg hhits]
    rfl
  · rw [if_neg hpending, if_neg hpending, refusal?_check_error]

end Workflow

/-! ## Operations on a plate -/

/-- What an operation on a plate comes to: what is wrong with its details, whether the status of the
plate allows it, whether its counts fit, which notes it writes, and how it leaves the item of the
plate and the plate itself, unless that is gone. -/
structure PlateChange (α : Type) where
  action : String
  details : List (FieldError α)
  allowed : Bool
  fits : Prop
  notes : Option String
  item : Item α
  plate : Option (Plate α)

namespace Plate

variable (p : Plate α) (i : Item α) (now : Timestamp)

/-- The plate has not ended. -/
def isOpen : Bool :=
  p.status = .pending || p.status = .printing

/-- A pending plate is started. -/
def starting : PlateChange α where
  action := "start"
  details := []
  allowed := p.status = .pending
  fits := True
  notes := none
  item := i
  plate := some { p with
    status := .printing, startedAt := some now.stored, updatedAt := now.stored }

/-- The counts of an open plate are added to its item, if both hold them. -/
def completing (report : PlateReport α) : PlateChange α where
  action := "complete"
  details :=
    complaint (report.actualPrintMinutes.any fun m => m < 0) "actual_print_time_minutes" .negative ++
    complaint (report.actualWeight.any fun x => !Scalar.isNonNegative x)
      "actual_material_weight_grams" .negative
  allowed := p.isOpen
  fits := 0 ≤ report.successful ∧ 0 ≤ report.failed ∧
    report.successful + report.failed ≤ p.printsPerPlate ∧
    i.successful + i.failed + report.successful + report.failed ≤ i.quantity
  notes := report.notes
  item := { i with
    successful := i.successful + report.successful, failed := i.failed + report.failed }
  plate := some { p with
    status := .completed
    completedAt := some now.stored
    successful := report.successful
    failed := report.failed
    actualPrintMinutes := report.actualPrintMinutes.or p.actualPrintMinutes
    actualWeight := report.actualWeight.or p.actualWeight
    notes := report.notes.or p.notes
    updatedAt := now.stored }

/-- An open plate loses the whole bed, and its item as many of what is open. -/
def failing (notes : Option String) : PlateChange α where
  action := "fail"
  details := []
  allowed := p.isOpen
  fits := True
  notes := notes
  item := { i with
    failed := i.failed + min p.printsPerPlate (i.quantity - i.successful - i.failed) }
  plate := some { p with
    status := .failed
    completedAt := some now.stored
    successful := 0
    failed := p.printsPerPlate
    notes := notes.or p.notes
    updatedAt := now.stored }

/-- An open plate is cancelled and counts for nothing. -/
def cancelling (notes : Option String) : PlateChange α where
  action := "cancel"
  details := []
  allowed := p.isOpen
  fits := True
  notes := notes
  item := i
  plate := some { p with
    status := .cancelled
    completedAt := some now.stored
    notes := notes.or p.notes
    updatedAt := now.stored }

/-- A pending plate is deleted. -/
def deleting : PlateChange α where
  action := "delete"
  details := []
  allowed := p.status = .pending
  fits := True
  notes := none
  item := i
  plate := none

end Plate

/-- The tables after the change of a plate: one plate, at most one item, and the time of the run. -/
def Tables.changedBy (now : Timestamp) (t : Tables α) (p : Plate α) (i : Item α)
    (c : PlateChange α) : Tables α :=
  { t with
    runs := changeRows (fun r => r.id = p.run) (fun r => { r with updatedAt := now.stored }) t.runs
    items := changeRows (fun j => j.id = i.id) (fun _ => c.item) t.items
    plates := t.plates.filterMap fun q => if q.id = p.id then c.plate else some q }

/-- What comes of an operation on a plate: why it is refused, or the tables after it. -/
inductive PlateChanged (now : Timestamp) (t : Tables α) (p : Plate α) (i : Item α)
    (c : PlateChange α) : Except (Refusal α) (Tables α) → Prop
  | details (hdetails : c.details ≠ []) : PlateChanged now t p i c (.error (.invalid c.details))
  | illegal (hdetails : c.details = []) (hstatus : c.allowed = false) :
    PlateChanged now t p i c (.error (.illegalTransition .plate p.id p.status.word c.action))
  | counts {faults : List (FieldError α)} (hdetails : c.details = []) (hstatus : c.allowed = true)
    (hcounts : ¬c.fits) (hfaults : faults ≠ []) :
    PlateChanged now t p i c (.error (.invalid faults))
  | unstorable (hdetails : c.details = []) (hstatus : c.allowed = true) (hcounts : c.fits)
    (hnotes : c.notes.all storable = false) :
    PlateChanged now t p i c (.error (.storage .movePlate))
  | done (hdetails : c.details = []) (hstatus : c.allowed = true) (hcounts : c.fits)
    (hnotes : c.notes.all storable = true) :
    PlateChanged now t p i c (.ok (t.changedBy now p i c))

section Changing

variable {catalog : Catalog} {now : Timestamp} {t t' : Tables α} {op : Operation α} {r : Run α}
  {p : Plate α} {i : Item α} {next : PlateStatus} {move : PlateMove α}

/-- An accepted operation that moves a plate is the move of the plate. -/
theorem Step.moves (h : Step catalog now t op t') (hmoves : MovesPlate now op p.run p.id next move)
    (ht : t.Consistent) (hp : p ∈ t.plates) :
    t' = Tables.touched now { t with
      items := changeRows (fun i => i.run = p.run && i.model = p.model)
        (fun i => i.gaining next p.printsPerPlate move.reported) t.items
      plates := changeRows (fun q => q.id = p.id)
        (movedPlate now next (move.counted next p.printsPerPlate)) t.plates } p.run := by
  cases h with
  | movePlate hsame htakes hq hid hrun =>
    obtain ⟨rfl, rfl, rfl, rfl⟩ := hsame.unique hmoves
    obtain rfl := eq_of_key_eq ht.plateIds hq hp hid
    rfl
  | read hread => cases hmoves <;> exact nomatch hread
  | close _ _ hcloses => cases hmoves <;> exact nomatch hcloses
  | _ => exact nomatch hmoves

/-- A move changes the tables as it is told to, if it is told what becomes of the plate and its
item. -/
theorem Tables.touched_eq_changedBy (ht : t.Consistent) (hp : p ∈ t.plates) (hi : i ∈ t.items)
    (hrun : i.run = p.run) (hmodel : i.model = p.model) {c : PlateChange α}
    (hitem : i.gaining next p.printsPerPlate move.reported = c.item)
    (hplate : some (movedPlate now next (move.counted next p.printsPerPlate) p) = c.plate) :
    Tables.touched now { t with
      items := changeRows (fun i => i.run = p.run && i.model = p.model)
        (fun i => i.gaining next p.printsPerPlate move.reported) t.items
      plates := changeRows (fun q => q.id = p.id)
        (movedPlate now next (move.counted next p.printsPerPlate)) t.plates } p.run =
      t.changedBy now p i c := by
  have hitems : changeRows (fun j => j.run = p.run && j.model = p.model)
      (fun j => j.gaining next p.printsPerPlate move.reported) t.items =
        changeRows (fun j => j.id = i.id) (fun _ => c.item) t.items := by
    refine changeRows_congr (fun j hj => ?_) fun j hj hsel => ?_
    · by_cases hid : j.id = i.id
      · obtain rfl := eq_of_key_eq ht.itemIds hj hi hid
        simp [hrun, hmodel]
      · have hother : ¬(j.run = p.run ∧ j.model = p.model) := fun h =>
          hid (congrArg Item.id (Workflow.eq_of_model_eq ht hj hi (h.1.trans hrun.symm)
            (h.2.trans hmodel.symm)))
        simpa [hid] using hother
    · obtain ⟨hjrun, hjmodel⟩ := Bool.and_eq_true_iff.mp hsel
      obtain rfl := Workflow.eq_of_model_eq ht hj hi ((of_decide_eq_true hjrun).trans hrun.symm)
        ((of_decide_eq_true hjmodel).trans hmodel.symm)
      exact hitem
  have hplates : changeRows (fun q => q.id = p.id)
      (movedPlate now next (move.counted next p.printsPerPlate)) t.plates =
        t.plates.filterMap fun q => if q.id = p.id then c.plate else some q := by
    rw [← changeRows_const ht.plateIds hp, changeRows, ← List.filterMap_eq_map, ← hplate]
    refine List.filterMap_congr fun q _ => ?_
    by_cases hid : q.id = p.id <;> simp [hid]
  rw [hitems, hplates]
  rfl

/-- The operation moves the plate to status `next`, and this is what it comes to. -/
structure PlateChange.Describes (c : PlateChange α) (e : Event α) (p : Plate α) (i : Item α)
    (next : PlateStatus) (move : PlateMove α) : Prop where
  preflight : e.operation.preflight e.catalog = refuseIfAny c.details
  moves : c.details = [] → MovesPlate e.now e.operation p.run p.id next move
  performs : c.details = [] → ∀ db, refusal? (e.operation.perform e.catalog e.now) db =
    refusal? (Workflow.movePlate e.now p.run p.id next c.action move) db
  allowed : p.status.canBecome next = c.allowed
  fits : countFaults i p next move.reported = [] ↔ c.fits
  notes : move.notes = c.notes
  item : i.gaining next p.printsPerPlate move.reported = c.item
  plate : c.details = [] →
    some (movedPlate e.now next (move.counted next p.printsPerPlate) p) = c.plate

variable {e : Event α} {db : Database α} {c : PlateChange α}

/-- What is found of the plate and its item comes of the operation. -/
theorem PlateChange.Describes.changed (h : c.Describes e p i next move) (hdb : db.Sound)
    (hr : r ∈ db.tables.runs) (hprogress : r.status = .inProgress) (hp : p ∈ db.tables.plates)
    (hpr : p.run = r.id) (hi : i ∈ db.tables.items) (hrun : i.run = p.run)
    (hmodel : i.model = p.model) : PlateChanged e.now db.tables p i c (e.result db) := by
  have ht := hdb.consistent
  by_cases hdetails : c.details = []
  · have hrefusal : refusal? (e.operation.perform e.catalog e.now) db = _ :=
      (h.performs hdetails db).trans (Workflow.refusal?_movePlate ht hr hprogress hp hpr hi hrun
        hmodel (h.moves hdetails))
    have hnotes : allStorable [move.notes] = c.notes.all storable := by
      rw [h.notes]
      exact Bool.and_true _
    rw [h.allowed, hnotes] at hrefusal
    cases hstatus : c.allowed with
    | false =>
      rw [hstatus, if_neg Bool.false_ne_true] at hrefusal
      rw [Event.result_of_refusal? hrefusal]
      exact .illegal hdetails hstatus
    | true =>
      rw [hstatus, if_pos rfl] at hrefusal
      by_cases hcounts : countFaults i p next move.reported = []
      · rw [if_pos hcounts] at hrefusal
        cases hstorable : c.notes.all storable with
        | false =>
          rw [hstorable, if_neg Bool.false_ne_true] at hrefusal
          rw [Event.result_of_refusal? hrefusal]
          exact .unstorable hdetails hstatus (h.fits.mp hcounts) hstorable
        | true =>
          rw [hstorable, if_pos rfl] at hrefusal
          obtain ⟨t', hresult, hstep⟩ := Event.result_of_accepted hdb hrefusal
          rw [hresult, hstep.moves (h.moves hdetails) ht hp,
            Tables.touched_eq_changedBy ht hp hi hrun hmodel h.item (h.plate hdetails)]
          exact .done hdetails hstatus (h.fits.mp hcounts) hstorable
      · rw [if_neg hcounts] at hrefusal
        rw [Event.result_of_refusal? hrefusal]
        exact .counts hdetails hstatus (fun hfits => hcounts (h.fits.mpr hfits)) hcounts
  · rw [Event.result_of_preflight (h.preflight.trans (refuseIfAny_of_ne_nil hdetails))]
    exact .details hdetails

end Changing

/-! ## The five operations -/

section Plates

variable {catalog : Catalog} {now : Timestamp} {p : Plate α} {i : Item α}

theorem PlateStatus.canBecome_terminal {s next : PlateStatus} (h : next.isTerminal = true) :
    s.canBecome next = (s = .pending || s = .printing) := by
  cases s <;> cases next <;> first | rfl | exact nomatch h

omit [Scalar α] in
/-- A move that brings nothing has no counts that could be wrong. -/
theorem countFaults_of_isEmpty {next : PlateStatus} {reported : Outcome}
    (hother : next ≠ .completed)
    (hempty : (rollup next p.printsPerPlate reported).isEmpty = true) :
    countFaults i p next reported = [] := by
  rw [countFaults_of_bed fun h => absurd h hother, if_pos hempty]

/-- A lost bed is capped at what the item has open, so the item always holds it. -/
theorem countFaults_failed (hi : acceptsItem i = true) (hp : acceptsPlate p = true)
    (reported : Outcome) : countFaults i p .failed reported = [] := by
  rw [countFaults_of_bed fun h : PlateStatus.failed = .completed => nomatch h]
  split
  · rfl
  · obtain ⟨hs, hf, hsum, hlargest⟩ := counts_of_acceptsItem hi
    have hbed := (acceptsPlate_iff.mp hp).bed.2
    exact Item.rollupComplaints_gained_failed hlargest hs hf hsum (by omega) reported

theorem gaining_failed (hi : acceptsItem i = true) (reported : Outcome) :
    i.gaining .failed p.printsPerPlate reported =
      { i with
        failed := i.failed + min p.printsPerPlate (i.quantity - i.successful - i.failed) } := by
  obtain ⟨hs, hf, hsum, hlargest⟩ := counts_of_acceptsItem hi
  have hcap : min p.printsPerPlate (min (max (i.quantity - i.successful - i.failed) 0) largestCount) =
      min p.printsPerPlate (i.quantity - i.successful - i.failed) := by omega
  simp [Item.gaining, Item.gained, rollup, Outcome.capFailed, Outcome.plus, Item.outcome,
    Item.withOutcome, Item.openUnits, hcap]

/-- The counts of a completed plate are in order where bed and item hold them. -/
theorem countFaults_completed (hi : acceptsItem i = true) {reported : Outcome} :
    countFaults i p .completed reported = [] ↔
      0 ≤ reported.successful ∧ 0 ≤ reported.failed ∧
        reported.successful + reported.failed ≤ p.printsPerPlate ∧
        i.successful + i.failed + reported.successful + reported.failed ≤ i.quantity := by
  by_cases hbed : (printCountComplaints p.printsPerPlate reported : List (FieldError α)) = []
  · obtain ⟨hs, hf, hsum⟩ := printCountComplaints_eq_nil.mp hbed
    obtain ⟨-, -, hplanned, -⟩ := counts_of_acceptsItem hi
    have hgained : i.gained .completed p.printsPerPlate reported = reported := rfl
    rw [countFaults_of_bed fun _ => hbed, hgained]
    split
    · rename_i hempty
      have hempty : reported.isEmpty = true := hempty
      simp only [Outcome.isEmpty, Bool.and_eq_true, decide_eq_true_eq] at hempty
      simp only [true_iff]
      omega
    · rw [Item.rollupComplaints_eq_nil_iff_le hi hs hf]
      simp only [Outcome.plus, Item.outcome]
      omega
  · have hfaults : countFaults i p .completed reported =
        printCountComplaints p.printsPerPlate reported := if_neg hbed
    rw [hfaults, printCountComplaints_eq_nil]
    rw [printCountComplaints_eq_nil] at hbed
    omega

namespace Plate

theorem starting_describes (catalog : Catalog) (now : Timestamp) (p : Plate α) (i : Item α) :
    (p.starting i now).Describes ⟨catalog, now, .startPlate p.run p.id⟩ p i .printing
      { startedAt := some now } where
  preflight := rfl
  moves _ := .start
  performs _ _ := refusal?_map
  allowed := by
    show p.status.canBecome .printing = decide (p.status = .pending)
    cases p.status <;> rfl
  fits := iff_true_intro (countFaults_of_isEmpty nofun rfl)
  notes := rfl
  item := Workflow.gaining_of_isEmpty rfl
  plate _ := rfl

theorem completing_describes [StockScalar α] (catalog : Catalog) (now : Timestamp) (p : Plate α)
    {i : Item α} (hi : acceptsItem i = true) (report : PlateReport α) :
    (p.completing i now report).Describes ⟨catalog, now, .completePlate p.run p.id report⟩ p i
      .completed
      { completedAt := some now
        successful := some report.successful
        failed := some report.failed
        actualPrintMinutes := report.actualPrintMinutes
        actualWeight := report.actualWeight
        notes := report.notes } where
  preflight := rfl
  moves hdetails := .complete hdetails
  performs hdetails db := by
    show refusal? (_ <$> Workflow.completePlate now p.run p.id report) db = _
    rw [refusal?_map, Workflow.completePlate, refusal?_refuseIfAny]
    exact if_pos hdetails
  allowed := PlateStatus.canBecome_terminal rfl
  fits := countFaults_completed hi
  notes := rfl
  item := rfl
  plate hdetails := by
    obtain ⟨-, hweight⟩ := List.append_eq_nil_iff.mp hdetails
    have hstored : storedOption report.actualWeight = report.actualWeight := by
      cases hreported : report.actualWeight with
      | none => rfl
      | some x =>
        have hweight := any_not_isNonNegative.mp (complaint_eq_nil.mp hweight) x hreported
        exact storedOption_some (isAmount_of_isNonNegative hweight)
    simp only [movedPlate, touchedPlate, PlateMove.apply, PlateMove.counted, reduceCtorEq, if_false,
      hstored]
    rfl

theorem failing_describes (catalog : Catalog) (now : Timestamp) {p : Plate α} {i : Item α}
    (hp : acceptsPlate p = true) (hi : acceptsItem i = true) (notes : Option String) :
    (p.failing i now notes).Describes ⟨catalog, now, .failPlate p.run p.id notes⟩ p i .failed
      { completedAt := some now, notes } where
  preflight := rfl
  moves _ := .fail
  performs _ _ := refusal?_map
  allowed := PlateStatus.canBecome_terminal rfl
  fits := iff_true_intro (countFaults_failed hi hp _)
  notes := rfl
  item := gaining_failed hi _
  plate _ := rfl

theorem cancelling_describes (catalog : Catalog) (now : Timestamp) (p : Plate α) (i : Item α)
    (notes : Option String) :
    (p.cancelling i now notes).Describes ⟨catalog, now, .cancelPlate p.run p.id notes⟩ p i
      .cancelled { completedAt := some now, notes } where
  preflight := rfl
  moves _ := .cancel
  performs _ _ := refusal?_map
  allowed := PlateStatus.canBecome_terminal rfl
  fits := iff_true_intro (countFaults_of_isEmpty nofun rfl)
  notes := rfl
  item := Workflow.gaining_of_isEmpty rfl
  plate _ := rfl

theorem deleting_changed {catalog : Catalog} {now : Timestamp} {db : Database α} {r : Run α}
    {p : Plate α} {i : Item α} (hdb : db.Sound) (hr : r ∈ db.tables.runs)
    (hprogress : r.status = .inProgress) (hp : p ∈ db.tables.plates) (hpr : p.run = r.id)
    (hi : i ∈ db.tables.items) :
    PlateChanged now db.tables p i (p.deleting i)
      (Event.result ⟨catalog, now, .deletePlate p.run p.id⟩ db) := by
  have ht := hdb.consistent
  have hrefusal : refusal? ((Operation.deletePlate p.run p.id).perform catalog now) db =
      if p.status = .pending then none else some (p.illegal "delete") :=
    (refusal?_bind_eq fun _ _ => rfl).trans
      (Workflow.refusal?_deletePlate ht hr hprogress hp hpr)
  by_cases hpending : p.status = .pending
  · rw [if_pos hpending] at hrefusal
    obtain ⟨t', hresult, hstep⟩ := Event.result_of_accepted
      (e := ⟨catalog, now, .deletePlate p.run p.id⟩) hdb hrefusal
    have hitems : changeRows (fun j => j.id = i.id) (fun _ => i) db.tables.items =
        db.tables.items := changeRows_eq_self fun j hj hsel =>
      eq_of_key_eq ht.itemIds hi hj (of_decide_eq_true hsel).symm
    have hplates : (db.tables.plates.filterMap fun q =>
        if q.id = p.id then (none : Option (Plate α)) else some q) =
          db.tables.plates.filter fun q => !(q.id = p.id) := by
      rw [← List.filterMap_eq_filter]
      refine List.filterMap_congr fun q _ => ?_
      by_cases hid : q.id = p.id <;> simp [Option.guard, hid]
    have htables : t' = db.tables.changedBy now p i (p.deleting i) := by
      rw [Tables.changedBy, deleting, hitems, hplates]
      cases hstep with
      | deletePlate => rfl
      | read hread => exact nomatch hread
      | close _ _ hcloses => exact nomatch hcloses
      | movePlate hmoves => exact nomatch hmoves
    rw [hresult, htables]
    exact .done rfl (decide_eq_true hpending) trivial rfl
  · rw [if_neg hpending] at hrefusal
    rw [Event.result_of_refusal? (e := ⟨catalog, now, .deletePlate p.run p.id⟩) hrefusal]
    exact .illegal rfl (decide_eq_false hpending)

end Plate

end Plates

/-- Whatever operations were performed, every plate of a run in progress has one item of its model,
and each operation on the plate succeeds exactly where the plate and the item allow it.  It then
changes no other item and no other plate. -/
theorem plate_changes_decided (start : Sequences) (events : List (Event Float)) :
    let db := (Database.fresh start).afterAll events
    ∀ r ∈ db.tables.runs, r.status = .inProgress → ∀ p ∈ db.tables.plates, p.run = r.id →
      ∃ i, (db.tables.items.filter fun i => i.run = p.run && i.model = p.model) = [i] ∧
        ∀ (catalog : Catalog) (now : Timestamp),
          PlateChanged now db.tables p i (p.starting i now)
            (Event.result ⟨catalog, now, .startPlate p.run p.id⟩ db) ∧
          (∀ report, PlateChanged now db.tables p i (p.completing i now report)
            (Event.result ⟨catalog, now, .completePlate p.run p.id report⟩ db)) ∧
          (∀ notes, PlateChanged now db.tables p i (p.failing i now notes)
            (Event.result ⟨catalog, now, .failPlate p.run p.id notes⟩ db)) ∧
          (∀ notes, PlateChanged now db.tables p i (p.cancelling i now notes)
            (Event.result ⟨catalog, now, .cancelPlate p.run p.id notes⟩ db)) ∧
          PlateChanged now db.tables p i (p.deleting i)
            (Event.result ⟨catalog, now, .deletePlate p.run p.id⟩ db) := by
  intro db r hr hprogress p hp hpr
  obtain ⟨hsound, -, hstaged⟩ := staged_afterAll start events
  have ht : db.tables.Consistent := hsound.consistent
  obtain ⟨i, hone, -⟩ := (hstaged r hr).item_of_plate ht
    (List.mem_filter.mpr ⟨hp, decide_eq_true hpr⟩)
  have hmem := List.mem_filter.mp (hone ▸ List.mem_singleton_self i)
  obtain ⟨hi, hkeys⟩ := hmem
  obtain ⟨hrun, hmodel⟩ := Bool.and_eq_true_iff.mp hkeys
  have hrun := of_decide_eq_true hrun
  have hmodel := of_decide_eq_true hmodel
  have haccepted := ht.outcomes i hi
  refine ⟨i, hone, fun catalog now => ⟨?_, fun report => ?_, fun notes => ?_, fun notes => ?_, ?_⟩⟩
  · exact (Plate.starting_describes catalog now p i).changed hsound hr hprogress hp hpr hi hrun
      hmodel
  · exact (Plate.completing_describes catalog now p haccepted report).changed hsound hr hprogress
      hp hpr hi hrun hmodel
  · exact (Plate.failing_describes catalog now (ht.beds p hp) haccepted notes).changed hsound hr
      hprogress hp hpr hi hrun hmodel
  · exact (Plate.cancelling_describes catalog now p i notes).changed hsound hr hprogress hp hpr hi
      hrun hmodel
  · exact Plate.deleting_changed hsound hr hprogress hp hpr hi

/-- Of five planned prints two have succeeded, and a plate with four more is printing. -/
def crowdedSession : List (Event Float) :=
  let item : NewItem Float := ⟨.numbered 9 1, none, 5, none, none, none⟩
  let plate : NewPlate Float := ⟨.numbered 9 1, none, none, none, 4, none, none, none⟩
  let run := Uuid.numbered 2 1
  [.createRun ⟨⟨none, 2.0, none, none, none, none, none⟩, [item], []⟩, .createPlate run plate,
    .completePlate run (.numbered 5 1) ⟨2, 0, none, none, none⟩, .createPlate run plate,
    .startPlate run (.numbered 5 2)].map (Event.mk .builtin ⟨1767225600, 0⟩)

/-- The printing plate fails, and the item loses the three prints that it has open. -/
theorem crowded_plate_failed :
    let db := (Database.fresh {}).afterAll crowdedSession
    let e : Event Float :=
      ⟨.builtin, ⟨1767232800, 0⟩, .failPlate (.numbered 2 1) (.numbered 5 2) none⟩
    ∃ p ∈ db.tables.plates, p.id = .numbered 5 2 ∧ ∃ i t', e.result db = .ok t' ∧
      t'.items.map Item.failed = [3] ∧
      PlateChanged ⟨1767232800, 0⟩ db.tables p i (p.failing i ⟨1767232800, 0⟩ none) (.ok t') := by
  intro db e
  have hplate : ∃ r ∈ db.tables.runs, r.status = .inProgress ∧ r.id = .numbered 2 1 ∧
      ∃ p ∈ db.tables.plates, p.run = r.id ∧ p.id = .numbered 5 2 := by decide +kernel
  obtain ⟨r, hr, hprogress, hrid, p, hp, hpr, hid⟩ := hplate
  obtain ⟨i, -, hchanges⟩ := plate_changes_decided {} crowdedSession r hr hprogress p hp hpr
  have hfailed := (hchanges .builtin ⟨1767232800, 0⟩).2.2.1 none
  rw [hpr, hrid, hid] at hfailed
  have hlost : (e.result db).toOption.any (fun t => t.items.map Item.failed = [3]) = true := by
    decide +kernel
  cases hresult : e.result db with
  | error why =>
    rw [hresult] at hlost
    exact nomatch hlost
  | ok t' =>
    rw [hresult] at hlost
    exact ⟨p, hp, hid, i, t', rfl, of_decide_eq_true hlost, hresult ▸ hfailed⟩

/-- The same plate is not failed with a note that no column can hold. -/
theorem unstorable_plate_notes :
    let db := (Database.fresh {}).afterAll crowdedSession
    db.tables.Takes (.numbered 2 1) ∧
      (∃ p ∈ db.tables.plates, p.id = .numbered 5 2 ∧ p.run = .numbered 2 1 ∧
        p.status = .printing) ∧
      ∃ fault, Event.result ⟨.builtin, ⟨1767232800, 0⟩,
        .failPlate (.numbered 2 1) (.numbered 5 2) (some "a\x00b")⟩ db = .error (.storage fault) := by
  intro db
  refine ⟨by unfold Tables.Takes; decide +kernel, by decide +kernel, isStorageFault_iff.mp ?_⟩
  decide +kernel

end PrintFarm
