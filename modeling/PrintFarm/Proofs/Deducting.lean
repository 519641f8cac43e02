import PrintFarm.Ledger
import PrintFarm.Proofs.Queries
import PrintFarm.Proofs.Rows

/-!
# What the ledger writes

The ledger reads the weights of all spools before it deducts from the first one, and then writes
twice for each spool: a row of the journal and the weight.  `gives_deductAll` says what comes out of
it, on any database: one row for each amount whose spool has no row yet for this end of the run,
and these spools weigh what their rows say.

* `Deducted` relates an amount to its row.
* `reweighed` is a spool after the rows were written.
* `Database.Grows` says that the journal has kept its rows and got rows with later numbers.
-/

namespace PrintFarm

/-! ## Journals that grow -/

/-- The journal of `db'` is that of `db` with rows added whose numbers were drawn in between. -/
structure Database.Grows {α : Type} (db db' : Database α) : Prop where
  drawn : db.sequences.journal ≤ db'.sequences.journal
  rows : ∃ rows, db'.tables.deductions = db.tables.deductions ++ rows ∧
    rows.Pairwise (fun d e => d.number < e.number) ∧
    ∀ d ∈ rows, db.sequences.journal < d.number ∧ d.number ≤ db'.sequences.journal

namespace Database.Grows

variable {α : Type} {db db₁ db₂ : Database α}

theorem of_eq (hrows : db₁.tables.deductions = db.tables.deductions)
    (hlater : db.sequences.Precedes db₁.sequences) : Grows db db₁ :=
  ⟨hlater.journal, [], by simp [hrows], List.Pairwise.nil, by simp⟩

theorem trans (h₁ : Grows db db₁) (h₂ : Grows db₁ db₂) : Grows db db₂ := by
  obtain ⟨hdrawn₁, rows₁, htables₁, hpairs₁, hnew₁⟩ := h₁
  obtain ⟨hdrawn₂, rows₂, htables₂, hpairs₂, hnew₂⟩ := h₂
  refine ⟨by omega, rows₁ ++ rows₂, by rw [htables₂, htables₁, List.append_assoc], ?_, ?_⟩
  · refine List.pairwise_append.mpr ⟨hpairs₁, hpairs₂, fun d hd e he => ?_⟩
    have hd := (hnew₁ d hd).2
    have he := (hnew₂ e he).1
    omega
  · intro d hd
    rcases List.mem_append.mp hd with hd | hd
    · have h := hnew₁ d hd
      omega
    · have h := hnew₂ d hd
      omega

/-- A computation after which the journal is the same has let it grow by nothing. -/
theorem of_gives {β : Type} {body : Tx α β} {b : β} (h : Tx.Gives body db b db₁)
    (hrows : db₁.tables.deductions = db.tables.deductions) : Grows db db₁ := by
  have hforward := body.forward db
  rw [h] at hforward
  exact of_eq hrows hforward

end Database.Grows

end PrintFarm

namespace PrintFarm.Ledger

open Store Tx

variable {α : Type} [Scalar α] {now : Timestamp} {run : Uuid} {target : RunStatus}
  {reason : DeductionReason} {db db' : Database α}

/-- The row `d` journals that `u` was deducted from one of `spools`. -/
structure Deducted (now : Timestamp) (run : Uuid) (target : RunStatus) (reason : DeductionReason)
    (spools : List (Spool α)) (u : SpoolUsage α) (d : Deduction α) : Prop where
  run_eq : d.run = run
  target_eq : d.target = target
  reason_eq : d.reason = reason
  spool_eq : d.spool = u.spool
  grams_eq : d.grams = u.grams
  recordedAt_eq : d.recordedAt = now.stored
  ends : target.isTerminal = true
  stock : ∃ s ∈ spools, s.id = d.spool ∧ s.weight = d.weightBefore
  enough : Scalar.lt d.weightBefore d.grams = false
  positive : Scalar.lt Scalar.zero d.grams = true
  left : d.weightAfter = d.weightBefore - d.grams
  numbers : Scalar.isNaN d.grams = false ∧ Scalar.isNaN d.weightBefore = false ∧
    Scalar.isNaN d.weightAfter = false
  notNegative : isNotNegative (some d.weightAfter) = true

/-- Spools and amounts of the rows are those of the usage. -/
theorem map_deducted {spools : List (Spool α)} {usage : UsageTable α} {rows : List (Deduction α)}
    (hrows : List.Forall₂ (Deducted now run target reason spools) usage rows) :
    rows.map (fun d => (d.spool, d.grams)) = usage.map fun u => (u.spool, u.grams) :=
  map_eq_of_forall₂ (fun u d h => by rw [h.spool_eq, h.grams_eq]) hrows

/-- The spool after the rows were written: its own row tells what is left. -/
def reweighed (now : Timestamp) (rows : List (Deduction α)) (s : Spool α) : Spool α :=
  match rows.find? fun d => d.spool = s.id with
  | some d => weighed now d.weightAfter s
  | none => s

omit [Scalar α] in
theorem reweighed_id (rows : List (Deduction α)) (s : Spool α) :
    (reweighed now rows s).id = s.id := by
  unfold reweighed
  split <;> rfl

/-- The amounts whose spools have no row yet for this end of the run. -/
def unjournaled (deductions : List (Deduction α)) (run : Uuid) (target : RunStatus)
    (u : SpoolUsage α) :
    Bool :=
  !deductions.any fun d => d.covers run target u.spool

theorem stored?_eq_some {d kept : NewDeduction α} :
    d.stored? = some kept ↔
      kept = d ∧ Scalar.isNaN d.grams = false ∧ Scalar.isNaN d.weightBefore = false ∧
        Scalar.isNaN d.weightAfter = false := by
  unfold NewDeduction.stored?
  simp only [Option.bind_eq_bind, Option.bind_eq_some_iff, Scalar.stored?_eq_some]
  constructor
  · intro h
    obtain ⟨_, ⟨hg, rfl⟩, _, ⟨hb, rfl⟩, _, ⟨ha, rfl⟩, h⟩ := h
    exact ⟨(Option.some.inj h).symm, hg, hb, ha⟩
  · intro h
    obtain ⟨rfl, hg, hb, ha⟩ := h
    exact ⟨_, ⟨hg, rfl⟩, _, ⟨hb, rfl⟩, _, ⟨ha, rfl⟩, rfl⟩

/-- One deduction: nothing if the spool has a row for this end of the run, and else a row and a
weight that agree. -/
theorem gives_deduct {spools : List (Spool α)} {u : SpoolUsage α} {row : Option (Deduction α)}
    (h : Gives (deduct now run target reason spools u) db row db') :
    (unjournaled db.tables.deductions run target u = false ∧ row = none ∧ db' = db) ∨
      unjournaled db.tables.deductions run target u = true ∧
        ∃ d, row = some d ∧ Deducted now run target reason spools u d ∧
          db'.tables = { db.tables with
            spools := changeRows (fun s => s.id = u.spool) (weighed now d.weightAfter)
              db.tables.spools
            deductions := db.tables.deductions ++ [d] } ∧
          db.Grows db' := by
  simp [deduct, and_assoc, gives_insertDeduction, gives_setSpoolWeight, stored?_eq_some] at h
  obtain ⟨s, hs, ⟨⟨d, hd, hcovers⟩, rfl, rfl⟩ | ⟨hopen, henough, hg, hb, ha, hend, hpos, h⟩⟩ := h
  · refine Or.inl ⟨?_, rfl, rfl⟩
    simpa [unjournaled] using ⟨d, hd, hcovers⟩
  · -- the journal has no row yet, so it takes this one, and then the weight is set
    obtain ⟨inserted, db₁, ⟨⟨d, hd, hcovers⟩, -⟩ | ⟨-, -, hspool, rfl, rfl⟩, h⟩ := h
    · rw [hopen d hd] at hcovers
      exact nomatch hcovers
    obtain ⟨-, ⟨n, ⟨hnone, -⟩ | ⟨-, kept, hkept, hleft, -, rfl⟩⟩, rfl⟩ | ⟨hnone, -⟩ := h
    · obtain ⟨r, hr, hid⟩ := hspool
      exact absurd hid (hnone r hr)
    · obtain ⟨-, rfl⟩ := Scalar.stored?_eq_some.mp hkept
      refine Or.inr ⟨by simpa [unjournaled] using hopen, _, rfl, ?_, rfl, ?_⟩
      · have hid : s.id = u.spool := by simpa using List.find?_some hs
        exact {
          run_eq := rfl, target_eq := rfl, reason_eq := rfl, spool_eq := rfl, grams_eq := rfl
          recordedAt_eq := rfl
          ends := hend
          stock := ⟨s, List.mem_of_find?_eq_some hs, hid, rfl⟩
          enough := henough
          positive := hpos
          left := rfl
          numbers := ⟨hg, hb, ha⟩
          notNegative := hleft }
      · refine ⟨(db.sequences.precedes_draw .deduction).journal, [_], rfl,
          List.pairwise_singleton _ _, fun d hd => ?_⟩
        obtain rfl := List.mem_singleton.mp hd
        exact ⟨Int.lt_succ _, Int.le_refl _⟩
    · exact nomatch hnone

/-! ## One spool after the other -/

omit [Scalar α] in
theorem unjournaled_append {deductions rows : List (Deduction α)} {u : SpoolUsage α}
    (h : ∀ d ∈ rows, d.spool ≠ u.spool) :
    unjournaled (deductions ++ rows) run target u = unjournaled deductions run target u := by
  have hrows : rows.any (fun d => d.covers run target u.spool) = false := by
    refine List.any_eq_false.mpr fun d hd => ?_
    simp [NewDeduction.covers, h d hd]
  simp [unjournaled, hrows]

omit [Scalar α] in
theorem reweighed_cons (d : Deduction α) (rows : List (Deduction α)) (spools : List (Spool α))
    (hnew : ∀ e ∈ rows, e.spool ≠ d.spool) :
    (changeRows (fun s => s.id = d.spool) (weighed now d.weightAfter) spools).map
        (reweighed now rows) =
      spools.map (reweighed now (d :: rows)) := by
  rw [changeRows, List.map_map]
  refine List.map_congr_left fun s _ => ?_
  by_cases hs : s.id = d.spool
  · -- the later rows are about other spools
    have hnone : rows.find? (fun e => e.spool = d.spool) = none :=
      List.find?_eq_none.mpr fun e he h => hnew e he (by simpa using h)
    simp [reweighed, hs, hnone, weighed]
  · simp [reweighed, hs, Ne.symm hs]

/-- The ledger journals each amount once whose spool has no row yet for this end of the run, and
sets the weights of these spools.  Nothing else changes. -/
theorem gives_deductAll {spools : List (Spool α)} :
    ∀ {usage : UsageTable α} {db : Database α} {rows : List (Deduction α)},
      (usage.map SpoolUsage.spool).Nodup →
      Gives (deductAll now run target reason spools usage) db rows db' →
      List.Forall₂ (Deducted now run target reason spools)
          (usage.filter (unjournaled db.tables.deductions run target)) rows ∧
        db'.tables = { db.tables with
          spools := db.tables.spools.map (reweighed now rows)
          deductions := db.tables.deductions ++ rows } ∧
        db.Grows db'
  | [], db, rows, _, h => by
    obtain ⟨rfl, rfl⟩ := gives_pure.mp h
    refine ⟨List.Forall₂.nil, ?_, .of_eq rfl (.refl _)⟩
    have hsame : reweighed now ([] : List (Deduction α)) = id := rfl
    simp [hsame]
  | u :: usage, db, rows, hnodup, h => by
    obtain ⟨hu, hnodup⟩ := List.nodup_cons.mp (List.map_cons ▸ hnodup)
    obtain ⟨row, db₁, hrow, h⟩ := gives_bind.mp h
    obtain ⟨rest, db₂, hrest, h⟩ := gives_bind.mp h
    obtain ⟨rfl, rfl⟩ := gives_pure.mp h
    obtain ⟨hrows, htables, hgrows⟩ := gives_deductAll hnodup hrest
    have hspools : ∀ d ∈ rest, d.spool ≠ u.spool := by
      intro d hd heq
      obtain ⟨v, hv, hvd⟩ := exists_of_forall₂ hrows hd
      refine hu (List.mem_map.mpr ⟨v, List.mem_of_mem_filter hv, ?_⟩)
      rw [← heq, hvd.spool_eq]
    rcases gives_deduct hrow with ⟨hold, rfl, rfl⟩ | ⟨hnew, d, rfl, hd, htables₁, hgrows₁⟩
    · rw [List.filter_cons_of_neg (by simp [hold])]
      exact ⟨hrows, htables, hgrows⟩
    · -- the row of `u` journals nothing for the spools that follow
      have hsame : usage.filter (unjournaled db₁.tables.deductions run target) =
          usage.filter (unjournaled db.tables.deductions run target) := by
        refine List.filter_congr fun v hv => ?_
        rw [htables₁]
        refine unjournaled_append fun e he => ?_
        obtain rfl := List.mem_singleton.mp he
        rw [hd.spool_eq]
        exact fun heq => hu (List.mem_map.mpr ⟨v, hv, heq.symm⟩)
      rw [List.filter_cons_of_pos hnew, ← hsame]
      refine ⟨List.Forall₂.cons hd hrows, ?_, hgrows₁.trans hgrows⟩
      rw [htables, htables₁]
      rw [← hd.spool_eq] at hspools ⊢
      simp only [reweighed_cons d rest _ hspools, List.append_assoc, Option.toList_some,
        List.singleton_append]

omit [Scalar α] in
theorem mem_of_mem_inOrder_filter {ids : List Uuid} {spools : List (Spool α)} {s : Spool α}
    (hs : s ∈ inOrder (fun a b => !b.id.before a.id)
      (spools.filter fun s => ids.contains s.id)) : s ∈ spools :=
  List.mem_of_mem_filter ((inOrder_perm _ _).mem_iff.mp hs)

/-- `gives_deductAll` for the spools as they are in the table. -/
theorem gives_applyDeductions {usage : UsageTable α} {rows : List (Deduction α)}
    (hnodup : (usage.map SpoolUsage.spool).Nodup)
    (h : Gives (applyDeductions now run target reason usage) db rows db') :
    List.Forall₂ (Deducted now run target reason db.tables.spools)
        (usage.filter (unjournaled db.tables.deductions run target)) rows ∧
      db'.tables = { db.tables with
        spools := db.tables.spools.map (reweighed now rows)
        deductions := db.tables.deductions ++ rows } ∧
      db.Grows db' := by
  obtain ⟨spools, db₁, hspools, h⟩ := gives_bind.mp h
  obtain ⟨rfl, rfl⟩ := gives_spoolsOf.mp hspools
  obtain ⟨hrows, htables, hgrows⟩ := gives_deductAll hnodup h
  refine ⟨hrows.imp fun u d hd => ?_, htables, hgrows⟩
  obtain ⟨s, hs, hstock⟩ := hd.stock
  exact { hd with stock := ⟨s, mem_of_mem_inOrder_filter hs, hstock⟩ }

end PrintFarm.Ledger
