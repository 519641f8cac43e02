import PrintFarm.Proofs.History

/-!
# Runs are apart

An operation is addressed to one run at most.  What it does to the tables leaves all other runs
alone, also those that use the same spools.

* `Operation.run?` is the run that an operation is addressed to.
* `Tables.Leaves` says what is left alone: the row of a run, the lists of its items, material
  lines, plates and deductions, and the labels and prices of the spools that its lines are shown
  with.
* `Step.leaves` is the step lemma, and `leaves_afterAll` is about lists of events.
* `Database.view` is what a run is shown as.  It is made of nothing but what is left alone
  (`Tables.Leaves.view_eq`).
-/

namespace PrintFarm

open Store Tx

variable {α : Type}

/-! ## Rows of other runs -/

section OtherRuns

variable {ρ : Type} {runOf : ρ → Uuid} {run : Uuid} {rows : List ρ}

/-- Changing rows of other runs changes no row of a run. -/
theorem filter_changeRows_of_run {selected : ρ → Bool} {change : ρ → ρ}
    (hkeeps : ∀ x, runOf (change x) = runOf x)
    (hother : ∀ x ∈ rows, selected x = true → runOf x ≠ run) :
    (changeRows selected change rows).filter (fun x => runOf x = run) =
      rows.filter fun x => runOf x = run := by
  refine filter_changeRows_of_not fun x hx hsel => ?_
  rw [hkeeps]
  exact ⟨decide_eq_false (hother x hx hsel), decide_eq_false (hother x hx hsel)⟩

/-- Nor does changing the one row with the identifier of a row of another run. -/
theorem filter_changeRow_of_run {idOf : ρ → Uuid} {change : ρ → ρ} {id : Uuid} {x : ρ}
    (hids : (rows.map idOf).Nodup) (hx : x ∈ rows) (hid : idOf x = id) (hother : runOf x ≠ run)
    (hkeeps : ∀ x, runOf (change x) = runOf x) :
    (changeRows (fun x => idOf x = id) change rows).filter (fun x => runOf x = run) =
      rows.filter fun x => runOf x = run := by
  refine filter_changeRows_of_run hkeeps fun y hy hsel => ?_
  obtain rfl := eq_of_key_eq hids hy hx ((of_decide_eq_true hsel).trans hid.symm)
  exact hother

/-- Adding rows of other runs adds no row of a run. -/
theorem filter_append_of_run {added : List ρ} (hother : ∀ x ∈ added, runOf x ≠ run) :
    (rows ++ added).filter (fun x => runOf x = run) = rows.filter fun x => runOf x = run := by
  have hnone : added.filter (fun x => runOf x = run) = [] :=
    List.filter_eq_nil_iff.mpr fun x hx hrun => hother x hx (of_decide_eq_true hrun)
  rw [List.filter_append, hnone, List.append_nil]

/-- Removing rows of other runs removes no row of a run. -/
theorem filter_filter_of_run {gone : ρ → Bool}
    (hother : ∀ x ∈ rows, gone x = true → runOf x ≠ run) :
    (rows.filter fun x => !gone x).filter (fun x => runOf x = run) =
      rows.filter fun x => runOf x = run := by
  rw [List.filter_filter]
  refine List.filter_congr fun x hx => ?_
  by_cases hrun : runOf x = run
  · have hstays : gone x = false := by
      cases hgone : gone x with
      | false => rfl
      | true => exact absurd hrun (hother x hx hgone)
    simp [hstays]
  · simp [hrun]

end OtherRuns

theorem mem_changeRows_of_ne {rows : List (Run α)} {r : Run α} {run : Uuid}
    {change : Run α → Run α} (hr : r ∈ rows) (hne : run ≠ r.id) :
    r ∈ changeRows (fun q => q.id = run) change rows :=
  mem_changeRows.mpr ⟨r, hr, by simp [Ne.symm hne]⟩

/-! ## Addresses -/

/-- The run that an operation is addressed to.  A run that is yet to be created has no address. -/
def Operation.run? : Operation α → Option Uuid
  | .createSpool _ | .listSpools | .listReasons | .createRun _ | .listRuns _ => none
  | .showRun id | .updateRun id _ | .completeRun id | .cancelRun id _ | .failRun id _
  | .listDeductions id | .updateOutcome id _ _ | .addMaterial id _ | .recordActual id _ _
  | .resetActuals id | .removeMaterial id _ | .listPlates id | .createPlate id _
  | .updatePlate id _ _ | .deletePlate id _ | .startPlate id _ | .completePlate id _ _
  | .failPlate id _ _ | .cancelPlate id _ _ => some id

theorem Operation.run?_of_ends? {op : Operation α} {run : Uuid} (h : op.ends? = some run) :
    op.run? = some run := by
  cases op with
  | completeRun | cancelRun | failRun => exact h
  | _ => exact nomatch h

variable [Scalar α]

theorem MovesPlate.run?_eq {now : Timestamp} {op : Operation α} {run plate : Uuid}
    {next : PlateStatus} {move : PlateMove α} (h : MovesPlate now op run plate next move) :
    op.run? = some run := by
  cases h <;> rfl

/-! ## What is left alone -/

/-- The run `r` and everything that it owns are in `t'` as they are in `t`, and so are the labels
and the prices of its spools. -/
structure Tables.Leaves (t t' : Tables α) (r : Run α) : Prop where
  present : r ∈ t'.runs
  items : t'.itemsOf r.id = t.itemsOf r.id
  materials : t'.materialsOf r.id = t.materialsOf r.id
  plates : t'.platesOf r.id = t.platesOf r.id
  deductions : t'.deductionsOf r.id = t.deductionsOf r.id
  lines : t'.linesOf r.id = t.linesOf r.id

namespace Tables.Leaves

variable {t t₁ t₂ : Tables α} {r : Run α}

omit [Scalar α] in
theorem refl (hr : r ∈ t.runs) : t.Leaves t r :=
  ⟨hr, rfl, rfl, rfl, rfl, rfl⟩

omit [Scalar α] in
theorem trans (h₁ : t.Leaves t₁ r) (h₂ : t₁.Leaves t₂ r) : t.Leaves t₂ r where
  present := h₂.present
  items := h₂.items.trans h₁.items
  materials := h₂.materials.trans h₁.materials
  plates := h₂.plates.trans h₁.plates
  deductions := h₂.deductions.trans h₁.deductions
  lines := h₂.lines.trans h₁.lines

omit [Scalar α] in
/-- Where the spools stay, the lines of a run are its material rows again. -/
theorem of_spools_eq (hspools : t₁.spools = t.spools) (present : r ∈ t₁.runs)
    (items : t₁.itemsOf r.id = t.itemsOf r.id)
    (materials : t₁.materialsOf r.id = t.materialsOf r.id)
    (plates : t₁.platesOf r.id = t.platesOf r.id)
    (deductions : t₁.deductionsOf r.id = t.deductionsOf r.id) : t.Leaves t₁ r where
  present := present
  items := items
  materials := materials
  plates := plates
  deductions := deductions
  lines := by
    unfold Tables.linesOf
    rw [hspools, materials]

end Tables.Leaves

/-! ## Labels and prices -/

omit [Scalar α] in
/-- A deduction changes neither the label nor the price of a spool. -/
theorem priced?_reweighed {now : Timestamp} (rows : List (Deduction α)) (spools : List (Spool α))
    (m : Material α) : priced? (spools.map (Ledger.reweighed now rows)) m = priced? spools m := by
  have hkeys : ∀ s : Spool α, (Ledger.reweighed now rows s).label = s.label ∧
      (Ledger.reweighed now rows s).costPerGram = s.costPerGram := by
    intro s
    unfold Ledger.reweighed
    split <;> exact ⟨rfl, rfl⟩
  have hsame : (fun s => decide (s.id = m.spool)) ∘ Ledger.reweighed now rows =
      fun s => decide (s.id = m.spool) :=
    funext fun s => by simp [Ledger.reweighed_id]
  unfold priced?
  rw [List.find?_map, hsame, Option.map_map]
  exact congrArg (fun f => Option.map f _) (funext fun s => by simp [hkeys s])

omit [Scalar α] in
/-- A line whose spool is there does not see a spool that is registered. -/
theorem priced?_concat {spools : List (Spool α)} {new : Spool α} {m : Material α}
    (hspool : m.spool ∈ spools.map Spool.id) : priced? (spools ++ [new]) m = priced? spools m := by
  obtain ⟨s, hs, hid⟩ := List.mem_map.mp hspool
  unfold priced?
  rw [List.find?_append]
  cases hfind : spools.find? fun s => s.id = m.spool with
  | some _ => rfl
  | none =>
    have hnot := List.find?_eq_none.mp hfind s hs
    simp [hid] at hnot

/-! ## One step -/

/-- An accepted operation leaves every run alone that it is not addressed to. -/
theorem Step.leaves {catalog : Catalog} {now : Timestamp} {t t' : Tables α} {op : Operation α}
    (ht : t.Consistent) (h : Step catalog now t op t') {r : Run α} (hr : r ∈ t.runs)
    (hop : op.run? ≠ some r.id) : t.Leaves t' r := by
  have hother : ∀ {run : Uuid}, op.run? = some run → run ≠ r.id := by
    intro run hrun heq
    exact hop (hrun.trans (congrArg some heq))
  cases h with
  | read => exact .refl hr
  | createSpool =>
    refine ⟨hr, rfl, rfl, rfl, rfl, List.filterMap_congr fun m hm => ?_⟩
    exact priced?_concat (ht.lineSpools m (List.mem_of_mem_filter hm))
  | createRun _ hrow _ hid _ hitems _ _ hmaterials =>
    refine .of_spools_eq rfl (List.mem_append_left _ hr) ?_ ?_ rfl rfl
    · refine filter_append_of_run fun i hi => ?_
      obtain ⟨new, -, hnew, -⟩ := exists_of_forall₂ hitems hi
      rw [hnew]
      exact Ne.symm (hid r hr)
    · refine filter_append_of_run fun m hm => ?_
      obtain ⟨new, -, hnew, -⟩ := exists_of_forall₂ hmaterials hm
      rw [hnew]
      exact Ne.symm (hid r hr)
  | updateRun => exact .of_spools_eq rfl (mem_changeRows_of_ne hr (hother rfl)) rfl rfl rfl rfl
  | @close _ q ending _ _ rows hq hprogress hcloses _ hrows =>
    have hne : q.id ≠ r.id := hother (Operation.run?_of_ends? hcloses.ends?_eq)
    have hmaterials : (t.closed now q ending rows).materialsOf r.id = t.materialsOf r.id := by
      refine filter_changeRows_of_run (fixedLine_run now t.spools) fun m _ hsel => ?_
      rw [of_decide_eq_true hsel]
      exact hne
    refine ⟨mem_changeRows_of_ne hr hne, ?_, hmaterials, ?_, ?_, ?_⟩
    · refine filter_changeRows_of_run (fun _ => rfl) fun i _ hsel => ?_
      rw [of_decide_eq_true (Bool.and_eq_true_iff.mp hsel).1]
      exact hne
    · refine filter_changeRows_of_run (fun _ => rfl) fun p _ hsel => ?_
      rw [of_decide_eq_true (Bool.and_eq_true_iff.mp hsel).1]
      exact hne
    · refine filter_append_of_run fun d hd => ?_
      obtain ⟨u, -, hu⟩ := exists_of_forall₂ hrows hd
      rw [hu.run_eq]
      exact hne
    · unfold Tables.linesOf
      rw [hmaterials]
      exact List.filterMap_congr fun m _ => priced?_reweighed rows t.spools m
  | updateOutcome _ hi hid hrun =>
    have hne := hother rfl
    refine .of_spools_eq rfl (mem_changeRows_of_ne hr hne) ?_ rfl rfl rfl
    exact filter_changeRow_of_run ht.itemIds hi hid (hrun ▸ hne) fun _ => rfl
  | addMaterial _ _ hrow =>
    have hne := hother rfl
    refine .of_spools_eq rfl (mem_changeRows_of_ne hr hne) rfl ?_ rfl rfl
    refine filter_append_of_run fun l hl => ?_
    obtain rfl := List.mem_singleton.mp hl
    rw [hrow]
    exact hne
  | recordActual _ _ _ hm hid hrun =>
    have hne := hother rfl
    refine .of_spools_eq rfl (mem_changeRows_of_ne hr hne) rfl ?_ rfl rfl
    exact filter_changeRow_of_run ht.materialIds hm hid (hrun ▸ hne) fun _ => rfl
  | resetActuals =>
    have hne := hother rfl
    refine .of_spools_eq rfl (mem_changeRows_of_ne hr hne) rfl ?_ rfl rfl
    refine filter_changeRows_of_run (fun _ => rfl) fun m _ hsel => ?_
    rw [of_decide_eq_true hsel]
    exact hne
  | removeMaterial =>
    have hne := hother rfl
    refine .of_spools_eq rfl (mem_changeRows_of_ne hr hne) rfl ?_ rfl rfl
    refine filter_filter_of_run fun m _ hgone => ?_
    rw [of_decide_eq_true (Bool.and_eq_true_iff.mp hgone).2]
    exact hne
  | createPlate _ _ _ hrow =>
    have hne := hother rfl
    refine .of_spools_eq rfl (mem_changeRows_of_ne hr hne) rfl rfl ?_ rfl
    refine filter_append_of_run fun q hq => ?_
    obtain rfl := List.mem_singleton.mp hq
    rw [hrow]
    exact hne
  | updatePlate _ _ hp hid hrun =>
    have hne := hother rfl
    refine .of_spools_eq rfl (mem_changeRows_of_ne hr hne) rfl rfl ?_ rfl
    exact filter_changeRow_of_run ht.plateIds hp hid (hrun ▸ hne) fun _ => rfl
  | deletePlate _ hp hid hrun =>
    have hne := hother rfl
    refine .of_spools_eq rfl (mem_changeRows_of_ne hr hne) rfl rfl ?_ rfl
    refine filter_filter_of_run fun q hq hgone => ?_
    obtain rfl := eq_of_key_eq ht.plateIds hq hp ((of_decide_eq_true hgone).trans hid.symm)
    rw [hrun]
    exact hne
  | movePlate hmoves _ hp hid hrun =>
    have hne := hother hmoves.run?_eq
    refine .of_spools_eq rfl (mem_changeRows_of_ne hr hne) ?_ rfl ?_ rfl
    · refine filter_changeRows_of_run (fun _ => rfl) fun i _ hsel => ?_
      rw [of_decide_eq_true (Bool.and_eq_true_iff.mp hsel).1]
      exact hne
    · exact filter_changeRow_of_run ht.plateIds hp hid (hrun ▸ hne) fun _ => rfl

/-! ## All steps -/

/-- An event leaves every run alone that it is not addressed to, whatever it is answered. -/
theorem Event.leaves (e : Event α) {db : Database α} (hdb : db.Sound) {r : Run α}
    (hr : r ∈ db.tables.runs) (he : e.operation.run? ≠ some r.id) :
    db.tables.Leaves (e.after db).tables r := by
  rcases e.step_or_refused hdb with ⟨_, -, hstep⟩ | ⟨_, -, hsame⟩
  · exact hstep.leaves hdb.consistent hr he
  · rw [hsame]
    exact .refl hr

theorem leaves_afterAll {db : Database α} (hdb : db.Sound) {r : Run α} (hr : r ∈ db.tables.runs)
    {later : List (Event α)} (hlater : ∀ e ∈ later, e.operation.run? ≠ some r.id) :
    db.tables.Leaves (db.afterAll later).tables r := by
  induction later generalizing db with
  | nil => exact .refl hr
  | cons e later ih =>
    have hfirst := e.leaves hdb hr (hlater e List.mem_cons_self)
    exact hfirst.trans (ih (e.sound_after hdb) hfirst.present
      fun e he => hlater e (List.mem_cons_of_mem _ he))

/-! ## Views -/

/-- What a run is shown as. -/
def Database.view (db : Database α) (run : Uuid) : Except (Refusal α) (Snapshot α) :=
  ((Store.snapshot run).run db).1

/-- A run that is there is shown with its items, lines and plates. -/
theorem Database.view_eq {db : Database α} (hdb : db.tables.Consistent) {r : Run α}
    (hr : r ∈ db.tables.runs) :
    db.view r.id = .ok (.assemble r (db.tables.itemsOf r.id)
      ((db.tables.linesOf r.id).map PricedMaterial.line)
      (inOrder (fun a b => a.number ≤ b.number) (db.tables.platesOf r.id))) := by
  have hgives := Store.gives_snapshot.mpr ⟨r, hdb.find_run hr, rfl, rfl⟩
  exact congrArg Prod.fst hgives

/-- A run that is left alone is shown as before. -/
theorem Tables.Leaves.view_eq {db db' : Database α} (hdb : db.tables.Consistent)
    (hdb' : db'.tables.Consistent) {r : Run α} (hr : r ∈ db.tables.runs)
    (h : db.tables.Leaves db'.tables r) : db'.view r.id = db.view r.id := by
  rw [Database.view_eq hdb hr, Database.view_eq hdb' h.present, h.items, h.lines, h.plates]

end PrintFarm
