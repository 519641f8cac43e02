import PrintFarm.Proofs.Steps
import PrintFarm.Workflow.Printing

/-!
# Printing plates, step by step

Every accepted operation on a plate is a step.  The four operations that move a plate are one: a
plate moves, and its item gains what `Item.gained` says, whatever the order of the writes.
-/

namespace PrintFarm.Workflow

open Store Tx

variable {α : Type} [Scalar α] {catalog : Catalog} {now : Timestamp} {db db' : Database α}
  {run : Uuid}

/-! ## Plates that are planned -/

omit [Scalar α] in
/-- Numbering a plate changes nothing. -/
theorem gives_plateNumber {wanted : Option Int} {number : Int}
    (h : Gives (plateNumber run wanted) db number db') : db' = db := by
  cases wanted with
  | none =>
    obtain ⟨-, -, rfl⟩ := gives_nextPlateNumber.mp h
    rfl
  | some n =>
    simp [plateNumber, and_assoc] at h
    exact h.2.2

theorem step_createPlate {new : NewPlate α} {row : Plate α}
    (h : Gives (createPlate now run new) db row db') :
    Step catalog now db.tables (.createPlate run new) db'.tables := by
  simp [createPlate, and_assoc] at h
  obtain ⟨hvalid, r, hr, hp, i, hfound, hbed, number, db₁, hnumber, -, haccepts, hid, hfree, -,
    rfl, -⟩ := h
  obtain rfl := gives_plateNumber hnumber
  obtain ⟨hrun, hmodel⟩ : i.run = run ∧ i.model = new.model := by
    simpa using List.find?_some hfound
  exact .createPlate hvalid (.of_find? hr hp)
    ⟨i, List.mem_of_find?_eq_some hfound, hrun, hmodel, hbed⟩ rfl haccepts hid hfree

theorem step_updatePlate (hdb : db.tables.Consistent) {plate : Uuid} {patch : PlatePatch α}
    {row : Plate α} (h : Gives (updatePlate now run plate patch) db row db') :
    Step catalog now db.tables (.updatePlate run plate patch) db'.tables := by
  simp [updatePlate, and_assoc, gives_updatePlate] at h
  obtain ⟨hvalid, r, hr, hp, p, hfound, hopen, -, q, hq, haccepts, -, rfl⟩ := h
  have hmem : p ∈ db.tables.plates := List.mem_of_find?_eq_some hfound
  obtain ⟨hid, hrun⟩ : p.id = plate ∧ p.run = run := by simpa using List.find?_some hfound
  have hqp : q = p := by
    refine eq_of_key_eq hdb.plateIds (List.mem_of_find?_eq_some hq) hmem ?_
    have hsel := List.find?_some hq
    rw [Bool.and_eq_true] at hsel
    rw [hid]
    exact of_decide_eq_true hsel.1
  subst hqp hid
  rw [changeRows_const hdb.plateIds hmem (editedPlate now patch)]
  exact .updatePlate hvalid (.of_find? hr hp) hmem rfl hrun hopen haccepts

theorem step_deletePlate (hdb : db.tables.Consistent) {plate : Uuid} {u : Unit}
    (h : Gives (deletePlate now run plate) db u db') :
    Step catalog now db.tables (.deletePlate run plate) db'.tables := by
  simp [deletePlate, and_assoc] at h
  obtain ⟨r, hr, hp, p, hfound, hpending, -, rfl⟩ := h
  have hmem : p ∈ db.tables.plates := List.mem_of_find?_eq_some hfound
  obtain ⟨hid, hrun⟩ : p.id = plate ∧ p.run = run := by simpa using List.find?_some hfound
  -- the plate with this identifier is a pending one of the run, so nothing else need be asked
  have hfilter : db.tables.plates.filter (fun q =>
        !decide (q.id = plate) || !decide (q.run = run) || !decide (q.status = .pending)) =
      db.tables.plates.filter fun q => !(q.id = plate) := by
    refine List.filter_congr fun q hq => ?_
    by_cases hqid : q.id = plate
    · obtain rfl := eq_of_key_eq hdb.plateIds hq hmem (hqid.trans hid.symm)
      simp [hid, hrun, hpending]
    · simp [hqid]
  rw [hfilter]
  exact .deletePlate (.of_find? hr hp) hmem hid hrun hpending

/-! ## Plates that move -/

omit [Scalar α] in
theorem gaining_of_isEmpty {i : Item α} {next : PlateStatus} {bed : Int} {reported : Outcome}
    (h : (i.gained next bed reported).isEmpty = true) : i.gaining next bed reported = i := by
  simp only [Outcome.isEmpty, Bool.and_eq_true, decide_eq_true_eq] at h
  simp [Item.gaining, Item.withOutcome, Outcome.plus, Item.outcome, h.1, h.2]

omit [Scalar α] in
theorem gained_of_rollup_isEmpty {next : PlateStatus} {bed : Int} {reported : Outcome}
    (h : (rollup next bed reported).isEmpty = true) (i : Item α) :
    (i.gained next bed reported).isEmpty = true := by
  simp only [Outcome.isEmpty, Bool.and_eq_true, decide_eq_true_eq] at h ⊢
  unfold Item.gained
  split
  · refine ⟨h.1, ?_⟩
    show min (rollup next bed reported).failed (min (max i.openUnits 0) largestCount) = 0
    rw [h.2, largestCount]
    omega
  · exact h

/-- The items of a run for one model are one item at most. -/
theorem eq_of_model_eq {t : Tables α} (ht : t.Consistent) {i j : Item α} (hi : i ∈ t.items)
    (hj : j ∈ t.items) (hrun : i.run = j.run) (hmodel : i.model = j.model) : i = j :=
  eq_of_key_eq ht.itemModels hi hj (Prod.ext hrun hmodel)

/-- Every item of the plate's model gains what the plate brings, if the rollup is accepted.  There
is at most one, and one that gains nothing is not written. -/
theorem gives_rollIntoItem (hdb : db.tables.Consistent) {p : Plate α} {next : PlateStatus}
    {reported : Outcome} {u : Unit} (h : Gives (rollIntoItem run p next reported) db u db') :
    db'.tables = { db.tables with
        items := changeRows (fun i => i.run = run && i.model = p.model)
          (fun i => i.gaining next p.printsPerPlate reported) db.tables.items } ∧
      ((rollup next p.printsPerPlate reported).isEmpty = false →
        ∃ i ∈ db.tables.items, i.run = run ∧ i.model = p.model) ∧
      ∀ i ∈ db.tables.items, i.run = run → i.model = p.model →
        acceptsItem (i.gaining next p.printsPerPlate reported) = true := by
  simp [rollIntoItem, and_assoc, gives_addOutcome] at h
  rcases h with ⟨hempty, rfl⟩ | ⟨hne, i, hfound, -, h⟩
  · have hsame : ∀ i : Item α, i.gaining next p.printsPerPlate reported = i :=
      fun i => gaining_of_isEmpty (gained_of_rollup_isEmpty hempty i)
    refine ⟨?_, fun hne => ?_, fun i hi _ _ => ?_⟩
    · rw [changeRows_eq_self fun i _ _ => hsame i]
    · rw [hempty] at hne
      exact nomatch hne
    · rw [hsame]
      exact hdb.outcomes i hi
  · have hi : i ∈ db.tables.items := List.mem_of_find?_eq_some hfound
    obtain ⟨hrun, hmodel⟩ : i.run = run ∧ i.model = p.model := by
      simpa using List.find?_some hfound
    have hunique : ∀ j ∈ db.tables.items, j.run = run → j.model = p.model → j = i :=
      fun j hj hjr hjm =>
        eq_of_model_eq hdb hj hi (hjr.trans hrun.symm) (hjm.trans hmodel.symm)
    rcases h with ⟨-, n, ⟨j, hj, -, haccepts, rfl, -⟩ | ⟨-, hn, -⟩, hpos⟩ | ⟨hempty, rfl⟩
    · obtain rfl : j = i := by
        refine eq_of_key_eq hdb.itemIds (List.mem_of_find?_eq_some hj) hi ?_
        simpa using List.find?_some hj
      refine ⟨?_, fun _ => ⟨j, hi, hrun, hmodel⟩, fun k hk hkr hkm => ?_⟩
      · -- the row with this identifier is the row of the run for this model
        rw [changeRows_congr (fun k hk => ?_) fun k hk hsel => ?_]
        · by_cases hkj : k = j
          · simp [hkj, hrun, hmodel]
          · have hids : ¬k.id = j.id := fun heq => hkj (eq_of_key_eq hdb.itemIds hk hi heq)
            have hkeys : ¬(k.run = run ∧ k.model = p.model) := fun heq =>
              hkj (hunique k hk heq.1 heq.2)
            simpa [hids] using hkeys
        · obtain rfl := eq_of_key_eq hdb.itemIds hk hi (by simpa using hsel)
          rfl
      · obtain rfl := hunique k hk hkr hkm
        exact haccepts
    · exact absurd hn hpos
    · have hsame := gaining_of_isEmpty hempty
      refine ⟨?_, fun _ => ⟨i, hi, hrun, hmodel⟩, fun k hk hkr hkm => ?_⟩
      · rw [changeRows_eq_self fun k hk hsel => ?_]
        rw [Bool.and_eq_true] at hsel
        obtain rfl := hunique k hk (of_decide_eq_true hsel.1) (of_decide_eq_true hsel.2)
        exact hsame
      · obtain rfl := hunique k hk hkr hkm
        rw [hsame]
        exact hdb.outcomes k hk

/-- A plate moves and its item gains what it brings. -/
theorem step_movePlate (hdb : db.tables.Consistent) {op : Operation α} {plate : Uuid}
    {next : PlateStatus} {action : String} {move : PlateMove α} {row : Plate α}
    (hmoves : MovesPlate now op run plate next move)
    (h : Gives (movePlate now run plate next action move) db row db') :
    Step catalog now db.tables op db'.tables := by
  simp only [movePlate, gives_atomically, gives_bind, gives_runInProgress, gives_plate,
    gives_check, Plate.checkMove_eq_ok, gives_checkIf, refuseIfAny_eq_ok] at h
  obtain ⟨r, _, ⟨hr, hp, rfl⟩, p, _, ⟨hfound, rfl⟩, _, _, ⟨hnext, rfl⟩, hcounts, _, db₁, hroll,
    moved, db₂, hmove, h⟩ := h
  have hmem : p ∈ _ := List.mem_of_find?_eq_some hfound
  obtain ⟨hid, hrun⟩ : p.id = plate ∧ p.run = run := by simpa using List.find?_some hfound
  obtain ⟨htables, hplanned, hfits⟩ := gives_rollIntoItem hdb hroll
  cases moved with
  | none =>
    simp at h
  | some q =>
    obtain ⟨-, q₀, hq, haccepts, rfl, rfl⟩ := gives_movePlate.mp hmove
    simp only [gives_bind, gives_touchRun, gives_pure] at h
    obtain ⟨_, _, rfl, -, rfl⟩ := h
    have hqp : q₀ = p := by
      refine eq_of_key_eq hdb.plateIds ?_ hmem ?_
      · rw [htables] at hq
        exact List.mem_of_find?_eq_some hq
      · have hsel := List.find?_some hq
        rw [Bool.and_eq_true] at hsel
        rw [hid]
        exact of_decide_eq_true hsel.1
    subst hqp hid
    simp only [htables]
    rw [changeRows_const hdb.plateIds hmem (movedPlate now next _)]
    exact .movePlate hmoves (.of_find? hr hp) hmem rfl hrun hnext hcounts hplanned hfits haccepts

end PrintFarm.Workflow
