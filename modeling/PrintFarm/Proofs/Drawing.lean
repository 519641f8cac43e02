import PrintFarm.Proofs.Following
import PrintFarm.Proofs.History

/-!
# What was drawn

Identifiers and run numbers are drawn from the sequences, and what was drawn is not given back where
an operation is refused.

* `Sequences.Reaches` says which draws lead from sequences to others, and `Sequences.Within` that
  all that was drawn before is still drawn later.
* `Tables.Drawn` is the invariant: the identifiers and run numbers of all rows were drawn, and the
  notes of runs can be stored again.
* Two runs with different counters have different numbers (`runNumber_inj`).
-/

namespace PrintFarm

open Store Tx

variable {α β γ : Type}

/-! ## Sequences -/

/-- The identifiers that were drawn for a table, from the first one on. -/
def drawnIds (preset : List Uuid) (table n : Nat) : List Uuid :=
  (List.range n).map fun k => rowId preset table (k + 1)

theorem drawnIds_succ (preset : List Uuid) (table n : Nat) :
    drawnIds preset table (n + 1) = drawnIds preset table n ++ [rowId preset table (n + 1)] := by
  rw [drawnIds, List.range_succ, List.map_append]
  rfl

namespace Sequences

def drawnSpools (s : Sequences) : List Uuid := drawnIds s.presetSpools 1 s.spools

def drawnRuns (s : Sequences) : List Uuid := drawnIds s.presetRuns 2 s.runs

def drawnItems (s : Sequences) : List Uuid := drawnIds s.presetItems 3 s.items

def drawnMaterials (s : Sequences) : List Uuid := drawnIds s.presetMaterials 4 s.materials

def drawnPlates (s : Sequences) : List Uuid := drawnIds s.presetPlates 5 s.plates

/-- No identifier was drawn twice for a table. -/
structure Distinct (s : Sequences) : Prop where
  spools : s.drawnSpools.Nodup
  runs : s.drawnRuns.Nodup
  items : s.drawnItems.Nodup
  materials : s.drawnMaterials.Nodup
  plates : s.drawnPlates.Nodup

/-- All that was drawn in `s` was drawn in `later`. -/
structure Within (s later : Sequences) : Prop where
  spools : s.drawnSpools ⊆ later.drawnSpools
  runs : s.drawnRuns ⊆ later.drawnRuns
  items : s.drawnItems ⊆ later.drawnItems
  materials : s.drawnMaterials ⊆ later.drawnMaterials
  plates : s.drawnPlates ⊆ later.drawnPlates
  runNumber : s.runNumber ≤ later.runNumber

theorem Within.refl (s : Sequences) : s.Within s :=
  ⟨List.Subset.refl _, List.Subset.refl _, List.Subset.refl _, List.Subset.refl _,
    List.Subset.refl _, Int.le_refl _⟩

theorem Within.trans {s t u : Sequences} (h₁ : s.Within t) (h₂ : t.Within u) : s.Within u :=
  ⟨List.Subset.trans h₁.spools h₂.spools, List.Subset.trans h₁.runs h₂.runs,
    List.Subset.trans h₁.items h₂.items, List.Subset.trans h₁.materials h₂.materials,
    List.Subset.trans h₁.plates h₂.plates, Int.le_trans h₁.runNumber h₂.runNumber⟩

theorem drawnSpools_draw (s : Sequences) :
    (s.draw .spool).drawnSpools = s.drawnSpools ++ [(s.draw .spool).spoolId] :=
  drawnIds_succ ..

theorem drawnRuns_draw (s : Sequences) :
    (s.draw .run).drawnRuns = s.drawnRuns ++ [(s.draw .run).runId] :=
  drawnIds_succ ..

theorem drawnItems_draw (s : Sequences) :
    (s.draw .item).drawnItems = s.drawnItems ++ [(s.draw .item).itemId] :=
  drawnIds_succ ..

theorem drawnMaterials_draw (s : Sequences) :
    (s.draw .material).drawnMaterials = s.drawnMaterials ++ [(s.draw .material).materialId] :=
  drawnIds_succ ..

theorem drawnPlates_draw (s : Sequences) :
    (s.draw .plate).drawnPlates = s.drawnPlates ++ [(s.draw .plate).plateId] :=
  drawnIds_succ ..

theorem spoolId_mem (s : Sequences) : (s.draw .spool).spoolId ∈ (s.draw .spool).drawnSpools := by
  simp [drawnSpools_draw]

theorem runId_mem (s : Sequences) : (s.draw .run).runId ∈ (s.draw .run).drawnRuns := by
  simp [drawnRuns_draw]

theorem itemId_mem (s : Sequences) : (s.draw .item).itemId ∈ (s.draw .item).drawnItems := by
  simp [drawnItems_draw]

theorem materialId_mem (s : Sequences) :
    (s.draw .material).materialId ∈ (s.draw .material).drawnMaterials := by
  simp [drawnMaterials_draw]

theorem plateId_mem (s : Sequences) : (s.draw .plate).plateId ∈ (s.draw .plate).drawnPlates := by
  simp [drawnPlates_draw]

theorem within_draw (s : Sequences) (d : Draw) : s.Within (s.draw d) := by
  have h := Within.refl s
  cases d with
  | spool =>
    exact { h with spools := s.drawnSpools_draw ▸ List.subset_append_left .. }
  | run =>
    refine { h with runs := s.drawnRuns_draw ▸ List.subset_append_left .., runNumber := ?_ }
    show s.runNumber ≤ s.runNumber + 1
    omega
  | item =>
    exact { h with items := s.drawnItems_draw ▸ List.subset_append_left .. }
  | material =>
    exact { h with materials := s.drawnMaterials_draw ▸ List.subset_append_left .. }
  | plate =>
    exact { h with plates := s.drawnPlates_draw ▸ List.subset_append_left .. }
  | deduction => exact { h with }

theorem distinct_of_draw {s : Sequences} {d : Draw} (h : (s.draw d).Distinct) : s.Distinct := by
  have hfirst : ∀ {ids : List Uuid} {id : Uuid}, (ids ++ [id]).Nodup → ids.Nodup :=
    fun hnodup => (List.nodup_append.mp hnodup).1
  cases d with
  | spool => exact { h with spools := hfirst (s.drawnSpools_draw ▸ h.spools) }
  | run => exact { h with runs := hfirst (s.drawnRuns_draw ▸ h.runs) }
  | item => exact { h with items := hfirst (s.drawnItems_draw ▸ h.items) }
  | material => exact { h with materials := hfirst (s.drawnMaterials_draw ▸ h.materials) }
  | plate => exact { h with plates := hfirst (s.drawnPlates_draw ▸ h.plates) }
  | deduction => exact { h with }

/-- Allowed draws lead from `s` to other sequences. -/
inductive Reaches (allowed : Draw → Prop) (s : Sequences) : Sequences → Prop
  | refl : Reaches allowed s s
  | draw {later : Sequences} {d : Draw} (h : Reaches allowed s later) (hd : allowed d) :
    Reaches allowed s (later.draw d)

namespace Reaches

variable {allowed : Draw → Prop} {s t u : Sequences}

theorem single {d : Draw} (hd : allowed d) : Reaches allowed s (s.draw d) :=
  .draw .refl hd

theorem trans (h₁ : Reaches allowed s t) (h₂ : Reaches allowed t u) : Reaches allowed s u := by
  induction h₂ with
  | refl => exact h₁
  | draw _ hd ih => exact ih.draw hd

/-- What was drawn stays drawn. -/
theorem within (h : Reaches allowed s t) : s.Within t := by
  induction h with
  | refl => exact .refl s
  | draw _ _ ih => exact ih.trans (within_draw _ _)

/-- What was not drawn twice later was not drawn twice before. -/
theorem distinct (h : Reaches allowed s t) (ht : t.Distinct) : s.Distinct := by
  induction h with
  | refl => exact ht
  | draw _ _ ih => exact ih (distinct_of_draw ht)

/-- Only the draw for a run counts runs. -/
theorem runNumber_eq (hallowed : ¬allowed .run) (h : Reaches allowed s t) :
    t.runNumber = s.runNumber := by
  induction h with
  | refl => rfl
  | @draw later d _ hd ih =>
    cases d with
    | run => exact absurd hd hallowed
    | _ => exact ih

end Reaches

end Sequences

/-! ## Run numbers -/

/-- The part after the last hyphen. -/
def afterHyphen (cs : List Char) : List Char :=
  (cs.reverse.takeWhile (· ≠ '-')).reverse

theorem afterHyphen_append (before : List Char) {digits : List Char} (h : '-' ∉ digits) :
    afterHyphen (before ++ '-' :: digits) = digits := by
  have hdigits : ∀ c ∈ digits.reverse, decide (c ≠ '-') = true := by
    intro c hc
    refine decide_eq_true fun heq => h ?_
    rw [← heq]
    exact List.mem_reverse.mp hc
  rw [afterHyphen, List.reverse_append, List.reverse_cons, List.append_assoc,
    List.takeWhile_append_of_pos hdigits]
  simp

/-- A count is written in digits. -/
theorem toList_toString_natCast (n : Nat) : (toString (n : Int)).toList = Nat.toDigits 10 n := by
  rw [Int.toString_eq_repr, Int.repr_eq_if, if_pos (by omega), Int.toNat_natCast, Nat.repr,
    String.toList_ofList]

theorem toList_zeroPadded (width n : Nat) : (Text.zeroPadded width n).toList =
    List.replicate (width - (Nat.toDigits 10 n).length) '0' ++ Nat.toDigits 10 n := by
  rw [Text.zeroPadded, Text.fillLeft, String.toList_append, String.toList_ofList,
    String.toList_ofList, ← String.length_toList, String.toList_ofList]

theorem isDigit_of_mem_zeroPadded {width n : Nat} {c : Char}
    (h : c ∈ (Text.zeroPadded width n).toList) : c.isDigit = true := by
  rw [toList_zeroPadded] at h
  rcases List.mem_append.mp h with h | h
  · rw [List.eq_of_mem_replicate h]
    rfl
  · exact Nat.isDigit_of_mem_toDigits (by decide) (by decide) h

/-- Zeros in front do not count. -/
theorem ofDigitChars_zeroPadded (width n : Nat) :
    Nat.ofDigitChars 10 (Text.zeroPadded width n).toList 0 = n := by
  rw [toList_zeroPadded, Nat.ofDigitChars_append, Nat.ofDigitChars_replicate_zero, Nat.mul_zero,
    Nat.ofDigitChars_toDigits (by decide) (by decide)]

/-- The counter of a run number is written in digits behind zeros. -/
theorem runNumber_eq (now : Timestamp) (counter : Nat) :
    Store.runNumber now counter =
      "RUN-" ++ now.dayNumber ++ "-" ++ Text.zeroPadded 4 counter := by
  have hdigits : toString (counter : Int) = String.ofList (Nat.toDigits 10 counter) :=
    String.toList_injective (by rw [toList_toString_natCast, String.toList_ofList])
  rw [Store.runNumber, hdigits, Text.zeroPadded]

/-- Behind its last hyphen a run number has the counter. -/
theorem afterHyphen_runNumber (now : Timestamp) (counter : Nat) :
    afterHyphen (Store.runNumber now counter).toList = (Text.zeroPadded 4 counter).toList := by
  have hsplit : (Store.runNumber now counter).toList = ("RUN-" ++ now.dayNumber).toList ++
      '-' :: (Text.zeroPadded 4 counter).toList := by
    simp [runNumber_eq]
  rw [hsplit, afterHyphen_append _ fun h => nomatch isDigit_of_mem_zeroPadded h]

/-- The counter of a run number reads back. -/
theorem ofDigitChars_runNumber (now : Timestamp) (counter : Nat) :
    Nat.ofDigitChars 10 (afterHyphen (Store.runNumber now counter).toList) 0 = counter := by
  rw [afterHyphen_runNumber, ofDigitChars_zeroPadded]

/-- Runs with one number have one counter. -/
theorem runNumber_inj {now now' : Timestamp} {m n : Nat}
    (h : Store.runNumber now m = Store.runNumber now' n) : m = n := by
  have hread := ofDigitChars_runNumber now m
  rw [h, ofDigitChars_runNumber] at hread
  exact hread.symm

/-! ## Queries that are refused -/

section Refused

variable {now : Timestamp} {run : Uuid} {db db' : Database α} {why : Refusal α}

@[simp] theorem Tx.refuses_require {holds : Bool} {fault : StorageFault} :
    Refuses (require holds fault) db why db' ↔
      holds = false ∧ why = .storage fault ∧ db' = db := by
  cases holds <;> simp [require]

@[simp] theorem Tx.refuses_expect {value : Option β} {why' : Refusal α} :
    Refuses (expect value why') db why db' ↔ value = none ∧ why = why' ∧ db' = db := by
  cases value <;> simp [expect]

@[simp] theorem Tx.refuses_draw {d : Draw} : ¬Refuses (draw d) db why db' :=
  fun h => nomatch h

@[simp] theorem Tx.refuses_changeTables {f : Tables α → Tables α} :
    ¬Refuses (changeTables f) db why db' :=
  fun h => nomatch h

theorem Tx.refuses_ite {p : Prop} [Decidable p] {x y : Tx α β} :
    Refuses (if p then x else y) db why db' ↔
      p ∧ Refuses x db why db' ∨ ¬p ∧ Refuses y db why db' := by
  by_cases h : p <;> simp [h]

/-- A query that adds a row and is refused has drawn for the row and changed no table, unless it was
refused before because columns cannot hold what is asked for. -/
def Tx.RefusesAfterDraw (d : Draw) (storable : Bool) (body : Tx α β) : Prop :=
  ∀ db why db', Refuses body db why db' →
    db' = db ∧ storable = false ∨ db' = { db with sequences := db.sequences.draw d }

variable [Scalar α]

theorem refusesAfterDraw_insertSpool (now : Timestamp) (new : NewSpool α) :
    RefusesAfterDraw .spool (allStorable [some new.label, some new.materialType, new.color])
      (insertSpool now new) := by
  intro db why db' h
  simp [insertSpool, drawSpool, refuses_bind] at h
  grind

theorem refusesAfterDraw_insertRun (now : Timestamp) (new : NewRun α) :
    RefusesAfterDraw .run (storableRun new) (insertRun now new) := by
  intro db why db' h
  simp [insertRun, drawRun, refuses_bind] at h
  grind

theorem refusesAfterDraw_insertItem (now : Timestamp) (run : Uuid) (new : NewItem α) :
    RefusesAfterDraw .item (allStorable [new.modelName, new.bedPosition])
      (insertItem now run new) := by
  intro db why db' h
  simp [insertItem, drawItem, refuses_bind] at h
  grind

theorem refusesAfterDraw_insertMaterial (now : Timestamp) (run : Uuid) (new : NewMaterial α)
    (total : α) : RefusesAfterDraw .material true (insertMaterial now run new total) := by
  intro db why db' h
  simp [insertMaterial, drawMaterial, refuses_bind] at h
  grind

theorem refusesAfterDraw_insertPlate (now : Timestamp) (run : Uuid) (new : NewPlate α)
    (number : Int) (name : String) :
    RefusesAfterDraw .plate (allStorable [some name, new.notes])
      (insertPlate now run new number name) := by
  intro db why db' h
  simp [insertPlate, drawPlate, refuses_bind] at h
  grind

theorem refusesAfterDraw_insertDeduction (now : Timestamp) (new : NewDeduction α) :
    RefusesAfterDraw .deduction true (insertDeduction now new) := by
  intro db why db' h
  simp [insertDeduction, drawJournal, refuses_bind, refuses_ite] at h
  grind

end Refused

/-! ## Rows that were drawn -/

/-- The identifiers and the run numbers of all rows were drawn, and the notes of all runs can be
stored again. -/
structure Tables.Drawn (t : Tables α) (s : Sequences) : Prop where
  spools : ∀ x ∈ t.spools, x.id ∈ s.drawnSpools
  runs : ∀ x ∈ t.runs, x.id ∈ s.drawnRuns
  items : ∀ x ∈ t.items, x.id ∈ s.drawnItems
  materials : ∀ x ∈ t.materials, x.id ∈ s.drawnMaterials
  plates : ∀ x ∈ t.plates, x.id ∈ s.drawnPlates
  counter : 0 ≤ s.runNumber
  numbers : ∀ r ∈ t.runs, ∃ (now : Timestamp) (counter : Nat),
    r.number = Store.runNumber now counter ∧ counter ≤ s.runNumber
  notes : ∀ r ∈ t.runs, r.notes.all storable = true

namespace Tables.Drawn

variable {t : Tables α} {s later : Sequences}

theorem mono (h : t.Drawn s) (hlater : s.Within later) : t.Drawn later where
  spools x hx := hlater.spools (h.spools x hx)
  runs x hx := hlater.runs (h.runs x hx)
  items x hx := hlater.items (h.items x hx)
  materials x hx := hlater.materials (h.materials x hx)
  plates x hx := hlater.plates (h.plates x hx)
  counter := Int.le_trans h.counter hlater.runNumber
  numbers r hr := by
    obtain ⟨now, counter, hnumber, hcounter⟩ := h.numbers r hr
    exact ⟨now, counter, hnumber, Int.le_trans hcounter hlater.runNumber⟩
  notes := h.notes

end Tables.Drawn

/-- Allowed draws were made, and rows that were drawn are followed by rows that were drawn. -/
structure Database.Draws (allowed : Draw → Prop) (db db' : Database α) : Prop where
  reaches : db.sequences.Reaches allowed db'.sequences
  drawn : db.tables.Drawn db.sequences → db'.tables.Drawn db'.sequences

namespace Database.Draws

variable {allowed : Draw → Prop}

theorem path : Path (Database.Draws allowed : Database α → Database α → Prop) where
  refl _ := ⟨.refl, id⟩
  trans h₁ h₂ := ⟨h₁.reaches.trans h₂.reaches, fun h => h₂.drawn (h₁.drawn h)⟩
  undo h := ⟨h.reaches, fun hdrawn => hdrawn.mono h.reaches.within⟩

/-- A change of the tables that keeps what was drawn. -/
theorem of_tables {db : Database α} {t : Tables α}
    (h : db.tables.Drawn db.sequences → t.Drawn db.sequences) :
    db.Draws allowed { db with tables := t } :=
  ⟨.refl, h⟩

/-- A query that adds a row is told by the database with the row. -/
theorem of_insert {β : Type} {body : Tx α β} {d : Draw} {storable : Bool}
    (hd : allowed d) (hrefuses : RefusesAfterDraw d storable body)
    (hgives : ∀ db b db', Gives body db b db' → db'.sequences = db.sequences.draw d ∧
      (db.tables.Drawn (db.sequences.draw d) → db'.tables.Drawn (db.sequences.draw d))) :
    Follows (Draws allowed) body := by
  intro db
  have hwithin := db.sequences.within_draw d
  have hdraw : db.Draws allowed { db with sequences := db.sequences.draw d } :=
    ⟨.single hd, fun h => h.mono hwithin⟩
  rcases gives_or_refuses body db with ⟨b, db', hrun⟩ | ⟨why, db', hrun⟩
  · obtain ⟨hsequences, hdrawn⟩ := hgives db b db' hrun
    rw [hrun]
    refine ⟨?_, fun h => ?_⟩
    · rw [hsequences]
      exact .single hd
    · rw [hsequences]
      exact hdrawn (h.mono hwithin)
  · rw [hrun]
    rcases hrefuses db why db' hrun with ⟨rfl, -⟩ | rfl
    · exact path.refl db'
    · exact hdraw

theorem changeTables {f : Tables α → Tables α}
    (hf : ∀ t s, Tables.Drawn t s → (f t).Drawn s) : Follows (Draws allowed) (changeTables f) := by
  intro db
  exact of_tables (hf db.tables db.sequences)

variable [Scalar α]

theorem insertSpool (hd : allowed .spool) (now : Timestamp) (new : NewSpool α) :
    Follows (Draws allowed) (Store.insertSpool now new) := by
  refine of_insert hd (refusesAfterDraw_insertSpool now new) fun db s db' h => ?_
  obtain ⟨-, ⟨weight, price, -, -, -, -, rfl⟩, -, rfl⟩ := gives_insertSpool.mp h
  exact ⟨rfl, fun hdb => { hdb with
    spools := List.forall_mem_append.mpr ⟨hdb.spools,
      List.forall_mem_singleton.mpr db.sequences.spoolId_mem⟩ }⟩

theorem insertRun (hd : allowed .run) (now : Timestamp) (new : NewRun α) :
    Follows (Draws allowed) (Store.insertRun now new) := by
  refine of_insert hd (refusesAfterDraw_insertRun now new) fun db r db' h => ?_
  obtain ⟨hstorable, ⟨estimated, -, rfl⟩, -, -, -, rfl⟩ := gives_insertRun.mp h
  refine ⟨rfl, fun hdb => { hdb with runs := ?_, numbers := ?_, notes := ?_ }⟩
  · exact List.forall_mem_append.mpr ⟨hdb.runs,
      List.forall_mem_singleton.mpr db.sequences.runId_mem⟩
  · refine List.forall_mem_append.mpr ⟨hdb.numbers, List.forall_mem_singleton.mpr ?_⟩
    have hcounter : (((db.sequences.draw .run).runNumber.toNat : Nat) : Int) =
        (db.sequences.draw .run).runNumber := Int.toNat_of_nonneg hdb.counter
    refine ⟨now, (db.sequences.draw .run).runNumber.toNat, ?_, Int.le_of_eq hcounter⟩
    rw [hcounter]
    rfl
  · refine List.forall_mem_append.mpr ⟨hdb.notes, List.forall_mem_singleton.mpr ?_⟩
    simp only [storableRun, allStorable, List.all_cons, Bool.and_eq_true] at hstorable
    exact hstorable.1.2.2.1

theorem insertItem (hd : allowed .item) (now : Timestamp) (run : Uuid) (new : NewItem α) :
    Follows (Draws allowed) (Store.insertItem now run new) := by
  refine of_insert hd (refusesAfterDraw_insertItem now run new) fun db i db' h => ?_
  obtain ⟨rfl, -, -, -, -, -, rfl⟩ := gives_insertItem.mp h
  exact ⟨rfl, fun hdb => { hdb with
    items := List.forall_mem_append.mpr ⟨hdb.items,
      List.forall_mem_singleton.mpr db.sequences.itemId_mem⟩ }⟩

theorem insertMaterial (hd : allowed .material) (now : Timestamp) (run : Uuid)
    (new : NewMaterial α) (total : α) :
    Follows (Draws allowed) (Store.insertMaterial now run new total) := by
  refine of_insert hd (refusesAfterDraw_insertMaterial now run new total) fun db m db' h => ?_
  obtain ⟨⟨model, whole, -, -, rfl⟩, -, -, -, -, -, rfl⟩ := gives_insertMaterial.mp h
  exact ⟨rfl, fun hdb => { hdb with
    materials := List.forall_mem_append.mpr ⟨hdb.materials,
      List.forall_mem_singleton.mpr db.sequences.materialId_mem⟩ }⟩

theorem insertPlate (hd : allowed .plate) (now : Timestamp) (run : Uuid) (new : NewPlate α)
    (number : Int) (name : String) :
    Follows (Draws allowed) (Store.insertPlate now run new number name) := by
  refine of_insert hd (refusesAfterDraw_insertPlate now run new number name) fun db p db' h => ?_
  obtain ⟨rfl, -, -, -, -, -, rfl⟩ := gives_insertPlate.mp h
  exact ⟨rfl, fun hdb => { hdb with
    plates := List.forall_mem_append.mpr ⟨hdb.plates,
      List.forall_mem_singleton.mpr db.sequences.plateId_mem⟩ }⟩

theorem insertDeduction (hd : allowed .deduction) (now : Timestamp) (new : NewDeduction α) :
    Follows (Draws allowed) (Store.insertDeduction now new) := by
  refine of_insert hd (refusesAfterDraw_insertDeduction now new) fun db row db' h => ?_
  obtain ⟨kept, -, -, -, h⟩ := gives_insertDeduction.mp h
  rcases h with ⟨-, -, rfl⟩ | ⟨-, -, -, -, rfl⟩
  · exact ⟨rfl, id⟩
  · exact ⟨rfl, fun hdb => { hdb with }⟩

omit [Scalar α] in
/-- A query that puts a changed run in the place of the run. -/
theorem changeRun {t : Tables α} {s : Sequences} (h : t.Drawn s) {id : Uuid} {r row : Run α}
    (hfound : t.runs.find? (fun r => r.id = id) = some r) (hid : row.id = r.id)
    (hnumber : row.number = r.number) (hnotes : row.notes.all storable = true) :
    Tables.Drawn { t with runs := changeRows (fun r => r.id = id) (fun _ => row) t.runs } s := by
  have hr := List.mem_of_find?_eq_some hfound
  exact { h with
    runs := forall_changeRows h.runs fun _ _ _ => hid ▸ h.runs r hr
    numbers := forall_changeRows h.numbers fun _ _ _ => hnumber ▸ h.numbers r hr
    notes := forall_changeRows h.notes fun _ _ _ => hnotes }

omit [Scalar α] in
/-- Notes are new ones that can be stored, or those that were there. -/
theorem storable_or {new old : Option String} (hnew : new.all storable = true)
    (hold : old.all storable = true) : (new.or old).all storable = true := by
  cases new with
  | none => exact hold
  | some _ => exact hnew

omit [Scalar α] in
/-- A rule that has to hold before the tables are changed. -/
theorem of_required {holds : Bool} {fault : StorageFault} {change : Tables α → Tables α} {b : β}
    {db : Database α} (h : db.tables.Drawn db.sequences → (change db.tables).Drawn db.sequences) :
    db.Draws allowed ((do require holds fault; Tx.changeTables change; return b).run db).2 := by
  cases holds with
  | false => exact path.refl db
  | true => exact of_tables h

theorem updateRun (now : Timestamp) (id : Uuid) (patch : RunPatch α) :
    Follows (Draws allowed) (Store.updateRun now id patch) := by
  refine path.require fun hstorable db => ?_
  simp only [storableDetails, allStorable, List.all_cons, Bool.and_eq_true] at hstorable
  rw [run_of_gives (gives_run?.mpr ⟨rfl, rfl⟩)]
  cases hfound : db.tables.runs.find? (fun r => r.id = id) with
  | none => exact path.refl db
  | some r =>
    exact of_required fun h => changeRun h hfound rfl rfl
      (storable_or hstorable.1.2.2.1 (h.notes r (List.mem_of_find?_eq_some hfound)))

theorem endRun (now : Timestamp) (id : Uuid) (current : RunStatus) (ending : RunEnding α) :
    Follows (Draws allowed) (Store.endRun now id current ending) := by
  refine path.require fun htexts db => ?_
  simp only [allStorable, List.all_cons, Bool.and_eq_true] at htexts
  rw [run_of_gives (gives_run?.mpr ⟨rfl, rfl⟩)]
  cases hfound : db.tables.runs.find? (fun r => r.id = id) with
  | none => exact path.refl db
  | some r =>
    dsimp only
    split
    · exact of_required fun h => changeRun h hfound rfl rfl
        (storable_or htexts.2.1 (h.notes r (List.mem_of_find?_eq_some hfound)))
    · exact path.refl db

theorem changeMaterials (now : Timestamp) (fault : StorageFault) {selected : Material α → Bool}
    {change : Material α → Material α} (hid : ∀ m, (change m).id = m.id) :
    Follows (Draws allowed) (Store.changeMaterials now fault selected change) := by
  refine path.after reads_tables fun _ => path.require fun _ => ?_
  refine path.first (changeTables fun t s h => ?_) fun _ => reads_pure _
  refine { h with materials := forall_changeRows h.materials fun m hm _ => ?_ }
  exact (hid m).symm ▸ h.materials m hm

/-- All queries that write draw what they need, and only the creation of a run draws for a run. -/
theorem admits (hallowed : ∀ d, d ≠ .run → allowed d) :
    Admits (Database.Draws allowed : Database α → Database α → Prop) where
  toPath := path
  insertSpool := insertSpool (hallowed _ (nomatch ·))
  insertItem := insertItem (hallowed _ (nomatch ·))
  insertMaterial := insertMaterial (hallowed _ (nomatch ·))
  insertPlate := insertPlate (hallowed _ (nomatch ·))
  insertDeduction := insertDeduction (hallowed _ (nomatch ·))
  updateRun := updateRun
  endRun := endRun
  setSpoolWeight now id weight := by
    refine path.after reads_tables fun _ => path.ite (path.reads (reads_pure _)) ?_
    refine path.after (reads_expect _ _) fun kept => path.require fun _ => ?_
    refine path.first (changeTables fun t s h => ?_) fun _ => reads_pure _
    exact { h with spools := forall_changeRows h.spools fun x hx _ => h.spools x hx }
  touchRun now id := changeTables fun t s h => { h with
    runs := forall_changeRows h.runs fun r hr _ => h.runs r hr
    numbers := forall_changeRows h.numbers fun r hr _ => h.numbers r hr
    notes := forall_changeRows h.notes fun r hr _ => h.notes r hr }
  setOutcome id outcome := by
    intro db
    rw [Store.setOutcome, run_of_gives (gives_tables.mpr ⟨rfl, rfl⟩)]
    cases hfound : db.tables.items.find? (fun i => i.id = id) with
    | none => exact path.refl db
    | some i =>
      have hi := List.mem_of_find?_eq_some hfound
      exact of_required fun h => { h with
        items := forall_changeRows h.items fun _ _ _ => h.items i hi }
  addOutcome id added := by
    intro db
    rw [Store.addOutcome, run_of_gives (gives_tables.mpr ⟨rfl, rfl⟩)]
    cases hfound : db.tables.items.find? (fun i => i.id = id) with
    | none => exact path.refl db
    | some i =>
      have hi := List.mem_of_find?_eq_some hfound
      dsimp only
      split
      · exact of_required fun h => { h with
          items := forall_changeRows h.items fun _ _ _ => h.items i hi }
      · exact path.refl db
  setUnitCost id cost := changeTables fun t s h => { h with
    items := forall_changeRows h.items fun i hi _ => h.items i hi }
  recordActual now id reading := changeMaterials now _ fun _ => rfl
  resetActuals now run := changeMaterials now _ fun _ => rfl
  fixFigures now id figures := changeTables fun t s h => { h with
    materials := forall_changeRows h.materials fun m hm _ => h.materials m hm }
  deleteMaterial run id := by
    refine path.after reads_tables fun _ => ?_
    refine path.first (changeTables fun t s h => ?_) fun _ => reads_pure _
    exact { h with materials := fun m hm => h.materials m (List.mem_of_mem_filter hm) }
  updatePlate now id patch := by
    refine path.require fun _ db => ?_
    rw [run_of_gives (gives_tables.mpr ⟨rfl, rfl⟩)]
    cases hfound : db.tables.plates.find? (fun p => p.id = id && !p.status.isTerminal) with
    | none => exact path.refl db
    | some p =>
      have hp := List.mem_of_find?_eq_some hfound
      exact of_required fun h => { h with
        plates := forall_changeRows h.plates fun _ _ _ => h.plates p hp }
  movePlate now id current next move := by
    refine path.require fun _ db => ?_
    rw [run_of_gives (gives_tables.mpr ⟨rfl, rfl⟩)]
    cases hfound : db.tables.plates.find? (fun p => p.id = id && p.status = current) with
    | none => exact path.refl db
    | some p =>
      have hp := List.mem_of_find?_eq_some hfound
      exact of_required fun h => { h with
        plates := forall_changeRows h.plates fun _ _ _ => h.plates p hp }
  cancelOpenPlates now run completedAt := by
    refine path.after reads_tables fun _ => ?_
    refine path.first (changeTables fun t s h => ?_) fun _ => reads_pure _
    exact { h with plates := forall_changeRows h.plates fun p hp _ => h.plates p hp }
  deletePendingPlate run id := by
    refine path.after reads_tables fun _ => ?_
    refine path.first (changeTables fun t s h => ?_) fun _ => reads_pure _
    exact { h with plates := fun p hp => h.plates p (List.mem_of_mem_filter hp) }

end Database.Draws

/-! ## All steps -/

variable [Scalar α]

/-- An event draws what it needs. -/
theorem Event.draws (e : Event α) (db : Database α) : db.Draws (fun _ => True) (e.after db) :=
  Operation.follows_perform (Database.Draws.admits fun _ _ => trivial) e.catalog e.now e.operation
    (fun _ _ => Database.Draws.insertRun trivial) db

/-- An event that creates no run draws no number for one. -/
theorem Event.runNumber_after (e : Event α) (db : Database α)
    (he : ∀ request, e.operation ≠ .createRun request) :
    (e.after db).sequences.runNumber = db.sequences.runNumber := by
  have hdraws : db.Draws (· ≠ .run) (e.after db) :=
    Operation.follows_perform (Database.Draws.admits fun _ h => h) e.catalog e.now e.operation
      (fun request hop => absurd hop (he request)) db
  exact hdraws.reaches.runNumber_eq fun h => h rfl

/-- The rows of a database that operations lead to were drawn, if no run number was below zero at
the start. -/
theorem drawn_afterAll {start : Sequences} (hstart : 0 ≤ start.runNumber)
    (events : List (Event α)) :
    ((Database.fresh start).afterAll events).tables.Drawn
      ((Database.fresh start : Database α).afterAll events).sequences := by
  refine Database.afterAll_induction (motive := fun db => db.tables.Drawn db.sequences) ?_
    (fun e db h => (e.draws db).drawn h) events
  constructor
  all_goals simp [Database.fresh, hstart]

end PrintFarm
