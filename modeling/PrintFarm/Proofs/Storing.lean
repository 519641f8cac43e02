import PrintFarm.Proofs.Drawing
import PrintFarm.Proofs.Amounts

/-!
# What the tables take

The rules of the tables are the last thing that can refuse an operation.  `Tx.Clean` says that a
computation is not refused by them.  Identifiers are drawn while it runs, so this is said on the
condition that none was drawn twice.

* `Clean.bind` is the rule for sequencing: what was given before is known afterwards.  The other
  lemmas in the namespace `Tx.Clean` are its cases for checks, for reading and for adding rows.
* For each query that writes there is a lemma that says which rows the tables take.
-/

namespace PrintFarm

open Store
open Scalar (IsAmount)

variable {α β γ : Type}

/-! ## Computations that the tables do not refuse -/

namespace Tx

variable {db db₁ db' : Database α} {x : Tx α β} {f : β → Tx α γ} {why : Refusal α}

/-- No rule of the tables refuses the computation on `db`, unless an identifier was drawn twice. -/
def Clean (body : Tx α β) (db : Database α) : Prop :=
  ∀ fault db', Refuses body db (.storage fault) db' → ¬db'.sequences.Distinct

/-- What gives an answer is not refused. -/
theorem not_refuses_of_gives {b : β} (h : Gives x db b db₁) : ¬Refuses x db why db' := by
  intro hrefuses
  have heq := h.symm.trans hrefuses
  exact nomatch heq

theorem Follows.gives {R : Database α → Database α → Prop} (h : Follows R x) {b : β}
    (hx : Gives x db b db₁) : R db db₁ := by
  have hrun := h db
  rwa [hx] at hrun

/-- Rows that were drawn are followed by rows that were drawn. -/
theorem Gives.drawn {b : β} (hx : Gives x db b db₁)
    (h : Follows (Database.Draws fun _ => True) x) (hdb : db.tables.Drawn db.sequences) :
    db₁.tables.Drawn db₁.sequences :=
  (h.gives hx).drawn hdb

namespace Clean

theorem of_gives {b : β} (h : Gives x db b db₁) : Clean x db :=
  fun _ _ hrefuses => absurd hrefuses (not_refuses_of_gives h)

theorem pure (b : β) : Clean (Pure.pure b : Tx α β) db :=
  of_gives rfl

theorem bind (hx : Clean x db) (hf : ∀ b db₁, Gives x db b db₁ → Clean (f b) db₁) :
    Clean (x >>= f) db := by
  intro fault db' h
  rcases refuses_bind.mp h with h | ⟨b, db₁, hb, h⟩
  · exact hx fault db' h
  · exact hf b db₁ hb fault db' h

theorem map (hx : Clean x db) (f : β → γ) : Clean (f <$> x) db :=
  fun fault db' h => hx fault db' (refuses_map.mp h)

theorem atomically (hx : Clean x db) : Clean (atomically x) db := by
  intro fault db' h
  obtain ⟨db₁, hbody, rfl⟩ := refuses_atomically.mp h
  exact hx fault db₁ hbody

/-- What is given is known where the computation goes on. -/
theorem after {b : β} (h : Gives x db b db₁) (hf : Clean (f b) db₁) : Clean (x >>= f) db := by
  refine (of_gives h).bind fun c db₂ hc => ?_
  obtain ⟨hb, rfl⟩ := Prod.mk.inj (h.symm.trans hc)
  obtain rfl := Except.ok.inj hb
  exact hf

theorem ite {p : Prop} [Decidable p] {x y : Tx α β} (hx : p → Clean x db)
    (hy : ¬p → Clean y db) : Clean (if p then x else y) db := by
  split
  · exact hx ‹_›
  · exact hy ‹_›

/-! ### Checks -/

theorem refuse (hwhy : ∀ fault, why ≠ .storage fault) : Clean (Tx.refuse why : Tx α β) db := by
  intro fault db' h
  obtain ⟨heq, -⟩ := refuses_refuse.mp h
  exact absurd heq.symm (hwhy fault)

theorem check {outcome : Except (Refusal α) β} (hwhy : ∀ fault, outcome ≠ .error (.storage fault))
    (hf : ∀ b, outcome = .ok b → Clean (f b) db) : Clean (Tx.check outcome >>= f) db := by
  refine bind (fun fault db' h => ?_) fun b db₁ h => ?_
  · exact absurd (refuses_check.mp h).1 (hwhy fault)
  · obtain ⟨hok, rfl⟩ := gives_check.mp h
    exact hf b hok

theorem refuseIfAny {complaints : List (FieldError α)} {f : Unit → Tx α γ}
    (hf : complaints = [] → Clean (f ()) db) :
    Clean (Tx.check (PrintFarm.refuseIfAny complaints) >>= f) db := by
  refine check (fun fault h => ?_) fun _ hok => hf (refuseIfAny_eq_ok.mp hok)
  unfold PrintFarm.refuseIfAny at h
  split at h
  · exact nomatch h
  · exact nomatch h

/-- Where a refusal stands in between, nothing goes on. -/
theorem refused (hwhy : ∀ fault, why ≠ .storage fault) : Clean (Tx.refuse why >>= f) db :=
  bind (refuse hwhy) fun _ _ h => absurd h gives_refuse

theorem expected {value : Option β} (hwhy : ∀ fault, why ≠ .storage fault) :
    Clean (Tx.expect value why) db := by
  intro fault db' h
  obtain ⟨-, heq, -⟩ := refuses_expect.mp h
  exact absurd heq.symm (hwhy fault)

theorem expect {value : Option β} (hwhy : ∀ fault, why ≠ .storage fault)
    (hf : ∀ b, value = some b → Clean (f b) db) : Clean (Tx.expect value why >>= f) db := by
  refine bind (expected hwhy) fun b db₁ h => ?_
  obtain ⟨hvalue, rfl⟩ := gives_expect.mp h
  exact hf b hvalue

theorem require {holds : Bool} {fault : StorageFault} {f : Unit → Tx α γ} (h : holds = true)
    (hf : Clean (f ()) db) : Clean (Tx.require holds fault >>= f) db :=
  after (gives_require.mpr ⟨h, rfl⟩) hf

/-! ### Reading -/

theorem look (g : Tables α → β) : Clean (do return g (← tables)) db :=
  of_gives ((gives_read g).mpr ⟨rfl, rfl⟩)

/-- What is read off the tables is known where the computation goes on. -/
theorem read {g : Tables α → β} (hf : Clean (f (g db.tables)) db) :
    Clean ((do return g (← tables)) >>= f) db :=
  after ((gives_read g).mpr ⟨rfl, rfl⟩) hf

theorem run {id : Uuid} {f : Run α → Tx α γ}
    (hf : ∀ r, db.tables.runs.find? (fun r => r.id = id) = some r → Clean (f r) db) :
    Clean (Store.run id >>= f) db := by
  refine bind (read (expected fun _ => nofun)) fun r db₁ h => ?_
  obtain ⟨hr, rfl⟩ := gives_run.mp h
  exact hf r hr

theorem checkMutable {r : Run α} {action : String} {f : Unit → Tx α γ}
    (hf : r.status = .inProgress → Clean (f ()) db) :
    Clean (Tx.check (r.checkMutable action) >>= f) db := by
  refine check (fun fault h => ?_) fun _ h => hf (Run.checkMutable_eq_ok.mp h)
  exact nomatch (Run.checkMutable_eq_error.mp h).2

theorem checkMove {r : Run α} {next : RunStatus} {action : String} {f : Unit → Tx α γ}
    (hf : r.status = .inProgress → Clean (f ()) db) :
    Clean (Tx.check (r.checkMove next action) >>= f) db := by
  refine check (fun fault h => ?_) fun _ h => hf (Run.checkMove_eq_ok.mp h).1
  exact nomatch (Run.checkMove_eq_error.mp h).2

/-- A run that takes changes is in progress. -/
theorem runInProgress {id : Uuid} {action : String} {f : Run α → Tx α γ}
    (hf : ∀ r, db.tables.runs.find? (fun r => r.id = id) = some r → r.status = .inProgress →
      Clean (f r) db) : Clean (Store.runInProgress id action >>= f) db := by
  refine bind (run fun r _ => checkMutable fun _ => pure r) fun r db₁ h => ?_
  obtain ⟨hr, hprogress, rfl⟩ := gives_runInProgress.mp h
  exact hf r hr hprogress

theorem plate {run id : Uuid} {f : Plate α → Tx α γ}
    (hf : ∀ p, db.tables.plates.find? (fun p => p.id = id && p.run = run) = some p →
      Clean (f p) db) : Clean (Store.plate run id >>= f) db := by
  refine bind (read (expected fun _ => nofun)) fun p db₁ h => ?_
  obtain ⟨hp, rfl⟩ := gives_plate.mp h
  exact hf p hp

variable [Scalar α]

theorem line (run id : Uuid) : Clean (Store.line run id : Tx α _) db :=
  read (expect (fun _ => nofun) fun _ _ => pure _)

theorem snapshot (id : Uuid) : Clean (Store.snapshot id : Tx α _) db :=
  run fun _ _ => read (read (read (pure _)))

end Clean

end Tx

/-! ## Rows that are added -/

/-- An identifier that is drawn once is that of no row whose identifier was drawn before. -/
theorem not_drawn {ρ : Type} {idOf : ρ → Uuid} {rows : List ρ} {ids : List Uuid} {id : Uuid}
    (hdistinct : (ids ++ [id]).Nodup) (hrows : ∀ x ∈ rows, idOf x ∈ ids) :
    ∀ x ∈ rows, ¬idOf x = id := by
  intro x hx heq
  obtain ⟨-, -, hnew⟩ := List.nodup_append.mp hdistinct
  exact hnew _ (hrows x hx) id (List.mem_singleton.mpr rfl) heq

namespace Tables.Drawn

variable {t : Tables α} {s : Sequences} (h : t.Drawn s)

include h

theorem fresh_spool (hdistinct : (s.draw .spool).Distinct) :
    ∀ x ∈ t.spools, ¬x.id = (s.draw .spool).spoolId :=
  not_drawn (s.drawnSpools_draw ▸ hdistinct.spools) h.spools

theorem fresh_run (hdistinct : (s.draw .run).Distinct) :
    ∀ x ∈ t.runs, ¬x.id = (s.draw .run).runId :=
  not_drawn (s.drawnRuns_draw ▸ hdistinct.runs) h.runs

theorem fresh_item (hdistinct : (s.draw .item).Distinct) :
    ∀ x ∈ t.items, ¬x.id = (s.draw .item).itemId :=
  not_drawn (s.drawnItems_draw ▸ hdistinct.items) h.items

theorem fresh_material (hdistinct : (s.draw .material).Distinct) :
    ∀ x ∈ t.materials, ¬x.id = (s.draw .material).materialId :=
  not_drawn (s.drawnMaterials_draw ▸ hdistinct.materials) h.materials

theorem fresh_plate (hdistinct : (s.draw .plate).Distinct) :
    ∀ x ∈ t.plates, ¬x.id = (s.draw .plate).plateId :=
  not_drawn (s.drawnPlates_draw ▸ hdistinct.plates) h.plates

/-- The next run number is that of no run. -/
theorem fresh_number (now : Timestamp) :
    ∀ r ∈ t.runs, ¬r.number = Store.runNumber now (s.draw .run).runNumber := by
  intro r hr heq
  obtain ⟨then', counter, hnumber, hcounter⟩ := h.numbers r hr
  have hnext : (s.draw .run).runNumber = ((s.runNumber.toNat + 1 : Nat) : Int) := by
    have hnonneg := h.counter
    show s.runNumber + 1 = _
    omega
  rw [hnumber, hnext] at heq
  have hsame := runNumber_inj heq
  omega

end Tables.Drawn

namespace Tx.Clean

variable {db : Database α}

/-- A query that adds a row is clean if it gives the row where no identifier was drawn twice. -/
theorem of_insert {body : Tx α β} {d : Draw} {storable : Bool}
    (hrefuses : RefusesAfterDraw d storable body) (hstorable : storable = true)
    (hgives : (db.sequences.draw d).Distinct → ∃ b db', Gives body db b db') : Clean body db := by
  intro fault db' h hdistinct
  rcases hrefuses db _ db' h with ⟨-, hnot⟩ | rfl
  · rw [hstorable] at hnot
    exact nomatch hnot
  · obtain ⟨b, db₁, hb⟩ := hgives hdistinct
    exact not_refuses_of_gives hb h

variable [Scalar α] {now : Timestamp} {run : Uuid}

theorem insertSpool (hdb : db.tables.Drawn db.sequences) {new : NewSpool α}
    (htexts : allStorable [some new.label, some new.materialType, new.color] = true)
    (hweight : IsAmount new.weight) (hprice : IsAmount new.costPerGram) :
    Clean (Store.insertSpool now new) db := by
  refine of_insert (refusesAfterDraw_insertSpool now new) htexts fun hdistinct => ?_
  refine ⟨_, _, gives_insertSpool.mpr ⟨htexts, ⟨new.weight, new.costPerGram, ?_, ?_, ?_, ?_, rfl⟩,
    hdb.fresh_spool hdistinct, rfl⟩⟩
  · exact Scalar.stored?_eq_some.mpr ⟨hweight.isNumber, rfl⟩
  · exact Scalar.stored?_eq_some.mpr ⟨hprice.isNumber, rfl⟩
  · exact isNotNegative_some hweight.notBelow
  · exact isNotNegative_some hprice.notBelow

theorem insertRun (hdb : db.tables.Drawn db.sequences) {new : NewRun α}
    (hstorable : storableRun new = true) (hhours : IsAmount new.estimatedHours) :
    Clean (Store.insertRun now new) db := by
  refine of_insert (refusesAfterDraw_insertRun now new) hstorable fun hdistinct => ?_
  refine ⟨_, _, gives_insertRun.mpr ⟨hstorable, ⟨new.estimatedHours, ?_, rfl⟩, ?_,
    hdb.fresh_run hdistinct, hdb.fresh_number now, rfl⟩⟩
  · exact Scalar.stored?_eq_some.mpr ⟨hhours.isNumber, rfl⟩
  · simp [acceptsRun, runRow, isNotNegative, hhours.notBelow]

/-- An item that is asked for is taken if its run has no item for its model. -/
theorem insertItem (hdb : db.tables.Drawn db.sequences) {new : NewItem α}
    (htexts : allStorable [new.modelName, new.bedPosition] = true)
    (hfits : fitsCount new.quantity = true) (hvalid : new.Valid)
    (hrun : ∃ r ∈ db.tables.runs, r.id = run)
    (hmodel : ∀ j ∈ db.tables.items, j.run = run → j.model ≠ new.model) :
    Clean (Store.insertItem now run new) db := by
  refine of_insert (refusesAfterDraw_insertItem now run new) htexts fun hdistinct => ?_
  refine ⟨_, _, gives_insertItem.mpr ⟨rfl, htexts, ?_, hdb.fresh_item hdistinct, ?_, hrun, rfl⟩⟩
  · have hweight := isNotNegative_asked hvalid.weight
    have hquantity := hvalid.quantity
    simp [acceptsItem, itemRow, hfits, hweight]
    exact ⟨decide_eq_true hquantity, by omega⟩
  · intro j hj
    by_cases hsame : j.run = run
    · exact Or.inr (hmodel j hj hsame)
    · exact Or.inl hsame

/-- A line that is asked for is taken if its run has no line for its spool. -/
theorem insertMaterial [StockScalar α] (hdb : db.tables.Drawn db.sequences) {new : NewMaterial α}
    (hvalid : new.Valid) (hrun : ∃ r ∈ db.tables.runs, r.id = run)
    (hstock : ∃ s ∈ db.tables.spools, s.id = new.spool)
    (hspool : ∀ l ∈ db.tables.materials, l.run = run → l.spool ≠ new.spool) :
    Clean (Store.insertMaterial now run new new.estimatedTotal) db := by
  refine of_insert (refusesAfterDraw_insertMaterial now run new _) rfl fun hdistinct => ?_
  have hmodel := isAmount_of_isNonNegative hvalid.model
  have htotal := hvalid.isAmount_estimatedTotal
  refine ⟨_, _, gives_insertMaterial.mpr ⟨⟨new.estimatedModel, new.estimatedTotal, ?_, ?_, rfl⟩, ?_,
    hdb.fresh_material hdistinct, ?_, hrun, hstock, rfl⟩⟩
  · exact Scalar.stored?_eq_some.mpr ⟨hmodel.isNumber, rfl⟩
  · exact Scalar.stored?_eq_some.mpr ⟨htotal.isNumber, rfl⟩
  · have hflushed := isNotNegative_asked hvalid.flushed
    have htower := isNotNegative_asked hvalid.tower
    have hestimate := isNotNegative_some hmodel.notBelow
    have hactual : isNotNegative (none : Option α) = true := rfl
    simp [acceptsMaterial, materialRow, hflushed, htower, hestimate, hactual]
  · intro l hl
    by_cases hsame : l.run = run
    · exact Or.inr (hspool l hl hsame)
    · exact Or.inl hsame

/-- A plate that is asked for is taken if its run has no plate with its number. -/
theorem insertPlate (hdb : db.tables.Drawn db.sequences) {new : NewPlate α} {number : Int}
    {name : String} (htexts : allStorable [some name, new.notes] = true)
    (haccepts : ∀ id, acceptsPlate (plateRow now run id new number name) = true)
    (hrun : ∃ r ∈ db.tables.runs, r.id = run)
    (hnumber : ∀ q ∈ db.tables.plates, q.run = run → q.number ≠ number) :
    Clean (Store.insertPlate now run new number name) db := by
  refine of_insert (refusesAfterDraw_insertPlate now run new number name) htexts
    fun hdistinct => ?_
  refine ⟨_, _, gives_insertPlate.mpr ⟨rfl, htexts, haccepts _, hdb.fresh_plate hdistinct, ?_,
    hrun, rfl⟩⟩
  intro q hq
  by_cases hsame : q.run = run
  · exact Or.inr (hnumber q hq hsame)
  · exact Or.inl hsame

/-! ## Rows that are changed -/

omit [Scalar α] in
/-- A change of the tables is not refused. -/
theorem changed (change : Tables α → Tables α) (b : β) :
    Clean (do changeTables change; return b) db :=
  of_gives rfl

omit [Scalar α] in
theorem touchRun (id : Uuid) : Clean (Store.touchRun now id : Tx α Unit) db :=
  of_gives rfl

theorem setSpoolWeight {id : Uuid} {weight : α} (hweight : IsAmount weight) :
    Clean (Store.setSpoolWeight now id weight) db := by
  by_cases hspool : ∃ s ∈ db.tables.spools, s.id = id
  · refine of_gives (gives_setSpoolWeight.mpr (Or.inr ⟨hspool, weight, ?_, ?_, rfl, rfl⟩))
    · exact Scalar.stored?_eq_some.mpr ⟨hweight.isNumber, rfl⟩
    · exact isNotNegative_some hweight.notBelow
  · refine of_gives (gives_setSpoolWeight.mpr (Or.inl ⟨fun s hs hid => hspool ?_, rfl, rfl⟩))
    exact ⟨s, hs, hid⟩

/-- A deduction of an amount above zero is journaled. -/
theorem insertDeduction {new : NewDeduction α} (hend : new.target.isTerminal = true)
    (hpositive : Scalar.lt Scalar.zero new.grams = true)
    (hnumbers : Scalar.isNaN new.grams = false ∧ Scalar.isNaN new.weightBefore = false ∧
      Scalar.isNaN new.weightAfter = false)
    (hrun : ∃ r ∈ db.tables.runs, r.id = new.run)
    (hspool : ∃ s ∈ db.tables.spools, s.id = new.spool) :
    Clean (Store.insertDeduction now new) db := by
  have hstored : new.stored? = some new := Ledger.stored?_eq_some.mpr ⟨rfl, hnumbers⟩
  by_cases hcovered : ∃ d ∈ db.tables.deductions, d.covers new.run new.target new.spool = true
  · exact of_gives (gives_insertDeduction.mpr
      ⟨new, hstored, hend, hpositive, Or.inl ⟨hcovered, rfl, rfl⟩⟩)
  · refine of_gives (gives_insertDeduction.mpr
      ⟨new, hstored, hend, hpositive, Or.inr ⟨fun d hd => ?_, hrun, hspool, rfl, rfl⟩⟩)
    exact Bool.eq_false_iff.mpr fun hcovers => hcovered ⟨d, hd, hcovers⟩

theorem updateRun {id : Uuid} {patch : RunPatch α}
    (hstorable : storableDetails patch = true)
    (haccepts : ∀ r, db.tables.runs.find? (fun r => r.id = id) = some r →
      acceptsRun (editedRun now patch r) = true) :
    Clean (Store.updateRun now id patch) db := by
  refine require hstorable (read ?_)
  cases hfound : db.tables.runs.find? fun r => r.id = id with
  | none => exact pure _
  | some r => exact require (haccepts r hfound) (changed _ _)

theorem endRun {id : Uuid} {current : RunStatus} {ending : RunEnding α}
    (htexts : allStorable [ending.wasteReason, ending.notes] = true)
    (haccepts : ∀ r, db.tables.runs.find? (fun r => r.id = id) = some r →
      acceptsRun (endedRun now ending r) = true) :
    Clean (Store.endRun now id current ending) db := by
  refine require htexts (read ?_)
  cases hfound : db.tables.runs.find? fun r => r.id = id with
  | none => exact pure _
  | some r => exact ite (fun _ => require (haccepts r hfound) (changed _ _)) fun _ => pure _

theorem setOutcome {id : Uuid} {outcome : Outcome}
    (haccepts : ∀ i, db.tables.items.find? (fun i => i.id = id) = some i →
      acceptsItem (i.withOutcome outcome) = true) : Clean (Store.setOutcome id outcome) db := by
  refine after (gives_tables.mpr ⟨rfl, rfl⟩) ?_
  cases hfound : db.tables.items.find? fun i => i.id = id with
  | none => exact pure _
  | some i => exact require (haccepts i hfound) (changed _ _)

theorem addOutcome {id : Uuid} {added : Outcome}
    (haccepts : ∀ i, db.tables.items.find? (fun i => i.id = id) = some i →
      (i.outcome.plus added).successful + (i.outcome.plus added).failed ≤ i.quantity →
        acceptsItem (i.withOutcome (i.outcome.plus added)) = true) :
    Clean (Store.addOutcome id added) db := by
  refine after (gives_tables.mpr ⟨rfl, rfl⟩) ?_
  cases hfound : db.tables.items.find? fun i => i.id = id with
  | none => exact pure _
  | some i =>
    exact ite (fun hfits => require (haccepts i hfound hfits) (changed _ _)) fun _ => pure _

theorem changeMaterials {fault : StorageFault} {selected : Material α → Bool}
    {change : Material α → Material α}
    (haccepts : ∀ m ∈ db.tables.materials, selected m = true → acceptsMaterial (change m) = true) :
    Clean (Store.changeMaterials now fault selected change) db := by
  refine of_gives (gives_changeMaterials.mpr ⟨fun m hm => ?_, rfl, rfl⟩)
  cases hsel : selected m with
  | false => exact Or.inl rfl
  | true => exact Or.inr (haccepts m hm hsel)

theorem updatePlate {id : Uuid} {patch : PlatePatch α}
    (htexts : allStorable [patch.name, patch.notes] = true)
    (haccepts : ∀ p ∈ db.tables.plates, acceptsPlate (editedPlate now patch p) = true) :
    Clean (Store.updatePlate now id patch) db := by
  refine require htexts (after (gives_tables.mpr ⟨rfl, rfl⟩) ?_)
  cases hfound : db.tables.plates.find? fun p => p.id = id && !p.status.isTerminal with
  | none => exact pure _
  | some p => exact require (haccepts p (List.mem_of_find?_eq_some hfound)) (changed _ _)

theorem movePlate {id : Uuid} {current next : PlateStatus} {move : PlateMove α}
    (htexts : allStorable [move.notes] = true)
    (haccepts : ∀ p, db.tables.plates.find? (fun p => p.id = id && p.status = current) = some p →
      acceptsPlate (movedPlate now next move p) = true) :
    Clean (Store.movePlate now id current next move) db := by
  refine require htexts (after (gives_tables.mpr ⟨rfl, rfl⟩) ?_)
  cases hfound : db.tables.plates.find? fun p => p.id = id && p.status = current with
  | none => exact pure _
  | some p => exact require (haccepts p hfound) (changed _ _)

end Tx.Clean

end PrintFarm
