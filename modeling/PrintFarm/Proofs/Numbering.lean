import PrintFarm.Proofs.Deciding
import PrintFarm.Proofs.Settling

/-!
# Plates that ask for no number

Plates are numbered from one up within their run, and a plate that asks for no number gets the one
after the highest.  Numbers may be chosen as well, and they are counts of 32 bits.  So there is a
number for the next plate until one has the largest count.

* `NewPlate.Fits` says when nothing is wrong with a plate that asks for no number.
* `Numbering` says what comes of it, and `plates_numbered` that it does after every history.
-/

namespace PrintFarm

open Store Tx

variable {α : Type} [Scalar α]

/-! ## What becomes of the plate -/

/-- The plate asks for no number, its run takes plates, and it holds no more prints of its model
than are planned. -/
structure NewPlate.Fits (new : NewPlate α) (t : Tables α) (run : Uuid) : Prop where
  unnumbered : new.number = none
  valid : new.complaints = []
  takes : t.Takes run
  planned : ∃ i ∈ t.items, i.run = run ∧ i.model = new.model ∧ new.printsPerPlate ≤ i.quantity

/-- What comes of adding the plate: why it is refused, and then the tables stay, or the row that is
added, with its number. -/
inductive Numbering (now : Timestamp) (t : Tables α) (run : Uuid) (new : NewPlate α) :
    Except (Refusal α) (Answer α) → Tables α → Prop
  | full {p : Plate α} (hp : p ∈ t.plates) (hrun : p.run = run)
    (hlast : p.number = largestCount) :
    Numbering now t run new (.error (.storage .numberPlate)) t
  | unstorable {fault : StorageFault}
    (hroom : ∀ p ∈ t.plates, p.run = run → p.number ≠ largestCount)
    (htexts : allStorable [new.name, new.notes] = false) :
    Numbering now t run new (.error (.storage fault)) t
  | numbered {p : Plate α} (hroom : ∀ p ∈ t.plates, p.run = run → p.number ≠ largestCount)
    (htexts : allStorable [new.name, new.notes] = true)
    (hnumber : p.number = ((t.platesOf run).map Plate.number).max?.getD 0 + 1)
    (hfree : ∀ q ∈ t.plates, q.run = run → q.number ≠ p.number)
    (hrow : p = plateRow now run p.id new p.number
      ((new.name.bind Text.nonblank?).getD s!"Plate {p.number}")) :
    Numbering now t run new (.ok (.plate p))
      (Tables.touched now { t with plates := t.plates ++ [p] } run)

/-- What is planned is counted, so a plate that holds no more is, too. -/
theorem NewPlate.Fits.fitsCount_printsPerPlate {new : NewPlate α} {t : Tables α} {run : Uuid}
    (h : new.Fits t run) (ht : t.Consistent) : fitsCount new.printsPerPlate = true := by
  obtain ⟨i, hi, -, -, hbed⟩ := h.planned
  have haccepts := ht.outcomes i hi
  simp only [acceptsItem, Bool.and_eq_true] at haccepts
  have hquantity := fitsCount_iff.mp haccepts.1.1.1.1.1
  have hone := (List.append_eq_nil_iff.mp (List.append_eq_nil_iff.mp h.valid).1).2
  rw [complaint_eq_nil, decide_eq_false_iff_not] at hone
  exact fitsCount_iff.mpr (by omega)

namespace Workflow

variable {now : Timestamp} {db db' : Database α} {run : Uuid} {new : NewPlate α}

/-! ## One call -/

omit [Scalar α] in
/-- Where a plate has the largest count, the next number is none. -/
theorem not_fitsCount_of_full {t : Tables α} {p : Plate α} (hp : p ∈ t.plates) (hrun : p.run = run)
    (hlast : p.number = largestCount) :
    fitsCount (((t.platesOf run).map Plate.number).max?.getD 0 + 1) = false := by
  obtain ⟨-, hhighest⟩ := highest_number ((t.platesOf run).map Plate.number)
  have hbelow := hhighest p.number
    (List.mem_map_of_mem (List.mem_filter.mpr ⟨hp, decide_eq_true hrun⟩))
  refine Bool.eq_false_iff.mpr fun hfits => ?_
  have hbounds := fitsCount_iff.mp hfits
  omega

/-- What is left to do for a plate that fits. -/
theorem refusal?_createPlate (hdb : db.tables.Consistent) (hnew : new.Fits db.tables run) :
    refusal? (createPlate now run new) db = refusal? (do
      let number ← nextPlateNumber run
      let row ← insertPlate now run new number
        ((new.name.bind Text.nonblank?).getD s!"Plate {number}")
      touchRun now run
      return row) db := by
  obtain ⟨r, hr, rfl, hprogress⟩ := hnew.takes
  obtain ⟨i, hi, hrun, hmodel, hbed⟩ := hnew.planned
  have hfound : db.tables.items.find? (fun i => i.run = r.id && i.model = new.model) = some i := by
    refine find?_of_unique hi (by simp [hrun, hmodel]) fun j hj hsel => ?_
    obtain ⟨hjrun, hjmodel⟩ : j.run = r.id ∧ j.model = new.model := by simpa using hsel
    exact eq_of_key_eq hdb.itemModels hj hi
      (Prod.ext (hjrun.trans hrun.symm) (hjmodel.trans hmodel.symm))
  rw [createPlate, refusal?_atomically, refusal?_refuseIfAny, if_pos hnew.valid,
    refusal?_bind_of_gives (gives_runInProgress.mpr ⟨hdb.find_run hr, hprogress, rfl⟩),
    refusal?_bind_of_gives (gives_itemFor?.mpr ⟨rfl, rfl⟩), hfound,
    refusal?_bind_of_gives (gives_expect.mpr ⟨rfl, rfl⟩), if_neg (by omega), hnew.unnumbered]
  rfl

/-- A plate that is added has the number after the highest. -/
theorem numbered (hdb : db.tables.Consistent) (hnew : new.Fits db.tables run) {p : Plate α}
    (h : Gives (createPlate now run new) db p db') :
    Numbering now db.tables run new (.ok (.plate p)) db'.tables := by
  simp [createPlate, and_assoc] at h
  obtain ⟨-, r, -, -, i, -, -, number, db₁, hnumber, htexts, -, -, -, -, rfl, rfl⟩ := h
  rw [hnew.unnumbered] at hnumber
  obtain ⟨-, hone, hfree⟩ := number_of_plateNumber hdb (by simp) hnumber
  obtain ⟨hnext, hfits, rfl⟩ := gives_nextPlateNumber.mp hnumber
  have hname := storable_plateName new.name hone
  refine .numbered (fun q hq hrun hlast => ?_) ?_ hnext hfree rfl
  · rw [hnext, not_fitsCount_of_full hq hrun hlast] at hfits
    exact absurd hfits Bool.false_ne_true
  · simp only [allStorable, List.all_cons, Option.all_some] at htexts ⊢
    exact hname ▸ htexts

/-- Where no plate is added, this is why. -/
theorem not_numbered (hdb : db.Orderly) (hnew : new.Fits db.tables run) {why : Refusal α}
    (h : Refuses (createPlate now run new) db why db') (hdistinct : db'.sequences.Distinct) :
    Numbering now db.tables run new (.error why) db.tables := by
  have hwhy := refusal?_eq_some.mpr ⟨db', h⟩
  rw [refusal?_createPlate hdb.consistent hnew] at hwhy
  by_cases hfull : ∃ p ∈ db.tables.plates, p.run = run ∧ p.number = largestCount
  · obtain ⟨p, hp, hrun, hlast⟩ := hfull
    have hrefused : Refuses (nextPlateNumber run) db (.storage .numberPlate) db := by
      refine refuses_bind.mpr (Or.inr ⟨_, db, gives_tables.mpr ⟨rfl, rfl⟩, ?_⟩)
      refine refuses_bind.mpr (Or.inl ?_)
      exact refuses_require.mpr ⟨not_fitsCount_of_full hp hrun hlast, rfl, rfl⟩
    rw [refusal?_bind_of_refuses hrefused] at hwhy
    obtain rfl := Option.some.inj hwhy
    exact .full hp hrun hlast
  · have hroom : ∀ p ∈ db.tables.plates, p.run = run → p.number ≠ largestCount :=
      fun p hp hrun hlast => hfull ⟨p, hp, hrun, hlast⟩
    obtain ⟨_, hrefused⟩ := refusal?_eq_some.mp hwhy
    obtain ⟨fault, rfl⟩ : ∃ fault, why = .storage fault := by
      refine RefusedByTables.bind refusedByTables_nextPlateNumber (fun number => ?_) _ _ _ hrefused
      refine .bind (refusedByTables_insertPlate new number _) fun _ => ?_
      exact .bind (.changeTables _) fun _ => .pure _
    refine .unstorable hroom (Bool.eq_false_iff.mpr fun htexts => ?_)
    -- what can be stored and numbered the tables take
    refine clean_createPlate hdb ?_ (fun _ => hroom) fault _ h hdistinct
    rw [NewPlate.decodable, htexts, hnew.fitsCount_printsPerPlate hdb.consistent, hnew.unnumbered]
    rfl

end Workflow

/-! ## Every history -/

/-- Whatever plates were added, numbered and taken away before, a plate that asks for no number and
fits gets the one after the highest, which no plate of the run has.  It is refused only where a
plate has the largest count already, and for a name or notes that no column can hold. -/
theorem plates_numbered [StockScalar α] (start : Sequences) (hstart : 0 ≤ start.runNumber)
    (events : List (Event α)) (catalog : Catalog) (now : Timestamp) (run : Uuid) (new : NewPlate α)
    (hnew : new.Fits ((Database.fresh start).afterAll events).tables run)
    (hdistinct : (Event.after ⟨catalog, now, .createPlate run new⟩
      ((Database.fresh start).afterAll events)).sequences.Distinct) :
    let db := (Database.fresh start).afterAll events
    let e : Event α := ⟨catalog, now, .createPlate run new⟩
    Numbering now db.tables run new (e.run db).1 (e.after db).tables := by
  intro db e
  have horderly : db.Orderly := orderly_afterAll hstart events
  exact e.run_cases rfl (fun _ _ h => Workflow.numbered horderly.consistent hnew h)
    fun _ h => Workflow.not_numbered horderly hnew h hdistinct

/-- A plate for one print that asks for no number. -/
def unnumberedPlate : NewPlate Float :=
  ⟨.numbered 9 1, none, none, none, 1, none, none, none⟩

/-- After the plate with the last number but one there is a number for one more. -/
theorem unnumbered_plate_added :
    let db := (Database.fresh {}).afterAll platedSession
    let e : Event Float := ⟨.builtin, ⟨1767232800, 0⟩, .createPlate (.numbered 2 1) unnumberedPlate⟩
    (0 : Int) ≤ ({} : Sequences).runNumber ∧ unnumberedPlate.Fits db.tables (.numbered 2 1) ∧
      (e.after db).sequences.Distinct ∧ (e.run db).1.isOk = true ∧
      Numbering ⟨1767232800, 0⟩ db.tables (.numbered 2 1) unnumberedPlate (e.run db).1
        (e.after db).tables := by
  intro db e
  have hstart : (0 : Int) ≤ ({} : Sequences).runNumber := by decide
  have hvalid : unnumberedPlate.complaints.isEmpty = true := by decide +kernel
  have hnew : unnumberedPlate.Fits db.tables (.numbered 2 1) :=
    ⟨rfl, List.isEmpty_iff.mp hvalid, by unfold Tables.Takes; decide +kernel, by decide +kernel⟩
  have hdistinct : (e.after db).sequences.Distinct := by constructor <;> decide +kernel
  have hnumbered := plates_numbered {} hstart platedSession .builtin ⟨1767232800, 0⟩ (.numbered 2 1)
    unnumberedPlate hnew hdistinct
  exact ⟨hstart, hnew, hdistinct, by decide +kernel, hnumbered⟩

/-- The same run with a plate for which the last number was chosen. -/
def filledSession : List (Event Float) :=
  platedSession ++ [⟨.builtin, ⟨1767225600, 0⟩,
    .createPlate (.numbered 2 1) { unnumberedPlate with number := some 2147483647 }⟩]

/-- Now the tables refuse the plate, although nothing is wrong with it. -/
theorem unnumbered_plate_refused :
    let db := (Database.fresh {}).afterAll filledSession
    let e : Event Float := ⟨.builtin, ⟨1767232800, 0⟩, .createPlate (.numbered 2 1) unnumberedPlate⟩
    unnumberedPlate.Fits db.tables (.numbered 2 1) ∧ (e.after db).sequences.Distinct ∧
      ∃ fault, (e.run db).1 = .error (.storage fault) := by
  intro db e
  have hvalid : unnumberedPlate.complaints.isEmpty = true := by decide +kernel
  have hnew : unnumberedPlate.Fits db.tables (.numbered 2 1) :=
    ⟨rfl, List.isEmpty_iff.mp hvalid, by unfold Tables.Takes; decide +kernel, by decide +kernel⟩
  refine ⟨hnew, by constructor <;> decide +kernel, isStorageFault_iff.mp ?_⟩
  decide +kernel

end PrintFarm
