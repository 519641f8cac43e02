import PrintFarm.Proofs.Refusing

/-!
# Which refusal it is

Several things can be wrong with a request at once, and the order of the checks decides which of
them is reported.  `Tx.refusal?` is the refusal of a computation, if it is refused, and the lemmas
beside it follow the computation along: what is checked first is refused first.

* `Ledger.shortage?` says why one amount cannot be deducted, and `refusal?_applyDeductions` that the
  ledger is refused for the first amount of which this can be said.
* `refusal?_settle` is about the part that all ends of a run share: after the ledger only the texts
  that are written can be refused.
* `Event.result` is what comes of an event: its refusal, or the tables that it leaves.
-/

namespace PrintFarm

open Store Tx
open Scalar (IsAmount)

variable {α β γ : Type}

/-! ## Refusals of a computation -/

namespace Tx

variable {db db₁ : Database α} {x : Tx α β} {f : β → Tx α γ} {b : β} {why : Refusal α}

/-- Why the computation is refused on `db`, if it is. -/
def refusal? (body : Tx α β) (db : Database α) : Option (Refusal α) :=
  match (body.run db).1 with
  | .ok _ => none
  | .error why => some why

theorem refusal?_eq_none : refusal? x db = none ↔ ∃ b db', Gives x db b db' := by
  rcases gives_or_refuses x db with ⟨b, db', h⟩ | ⟨why, db', h⟩
  · have hrun : refusal? x db = none := by rw [refusal?, h]
    exact ⟨fun _ => ⟨b, db', h⟩, fun _ => hrun⟩
  · have hrun : refusal? x db = some why := by rw [refusal?, h]
    rw [hrun]
    refine ⟨nofun, fun hgives => ?_⟩
    obtain ⟨b, db₁, hgives⟩ := hgives
    exact absurd h (not_refuses_of_gives hgives)

theorem refusal?_eq_some : refusal? x db = some why ↔ ∃ db', Refuses x db why db' := by
  rcases gives_or_refuses x db with ⟨b, db', h⟩ | ⟨first, db', h⟩
  · have hrun : refusal? x db = none := by rw [refusal?, h]
    rw [hrun]
    refine ⟨nofun, fun hrefuses => ?_⟩
    obtain ⟨db₁, hrefuses⟩ := hrefuses
    exact absurd hrefuses (not_refuses_of_gives h)
  · have hrun : refusal? x db = some first := by rw [refusal?, h]
    rw [hrun]
    constructor
    · intro heq
      obtain rfl := Option.some.inj heq
      exact ⟨db', h⟩
    · intro hrefuses
      obtain ⟨db₁, hrefuses⟩ := hrefuses
      exact congrArg some (Except.error.inj (congrArg Prod.fst (h.symm.trans hrefuses)))

@[simp] theorem refusal?_pure : refusal? (pure b : Tx α β) db = none :=
  rfl

@[simp] theorem refusal?_refuse : refusal? (refuse why : Tx α β) db = some why :=
  rfl

/-- What is given goes on. -/
theorem refusal?_bind_of_gives (h : Gives x db b db₁) :
    refusal? (x >>= f) db = refusal? (f b) db₁ := by
  rw [refusal?, run_of_gives h, refusal?]

/-- What is refused at first is refused whatever would follow. -/
theorem refusal?_bind_of_refuses (h : Refuses x db why db₁) : refusal? (x >>= f) db = some why :=
  refusal?_eq_some.mpr ⟨db₁, refuses_bind.mpr (Or.inl h)⟩

/-- What follows and is never refused makes no difference. -/
theorem refusal?_bind_eq (hf : ∀ b db, refusal? (f b) db = none) :
    refusal? (x >>= f) db = refusal? x db := by
  rcases gives_or_refuses x db with ⟨b, db₁, h⟩ | ⟨why, db₁, h⟩
  · rw [refusal?_bind_of_gives h, hf, refusal?_eq_none.mpr ⟨b, db₁, h⟩]
  · rw [refusal?_bind_of_refuses h, refusal?_eq_some.mpr ⟨db₁, h⟩]

@[simp] theorem refusal?_map {g : β → γ} : refusal? (g <$> x) db = refusal? x db := by
  rw [map_eq_pure_bind]
  exact refusal?_bind_eq fun _ _ => rfl

@[simp] theorem refusal?_atomically : refusal? (atomically x) db = refusal? x db := by
  rw [refusal?, run_atomically, refusal?]
  rcases x.run db with ⟨_ | b, after⟩ <;> rfl

@[simp] theorem refusal?_check_ok : refusal? (check (.ok b) >>= f) db = refusal? (f b) db :=
  rfl

@[simp] theorem refusal?_check_error :
    refusal? (check (.error why : Except (Refusal α) β) >>= f) db = some why :=
  rfl

/-- Complaints are reported, all of them at once. -/
theorem refusal?_refuseIfAny {complaints : List (FieldError α)} {f : Unit → Tx α γ} :
    refusal? (check (refuseIfAny complaints) >>= f) db =
      if complaints = [] then refusal? (f ()) db else some (.invalid complaints) := by
  cases complaints <;> rfl

end Tx

/-! ## The ledger -/

namespace Ledger

variable [Scalar α] {now : Timestamp} {run : Uuid} {target : RunStatus} {reason : DeductionReason}
  {db : Database α} {spools : List (Spool α)}

/-- Why an amount cannot be deducted: its spool is missing, or holds less. -/
def shortage? (spools : List (Spool α)) (u : SpoolUsage α) : Option (Refusal α) :=
  match spools.find? fun s => s.id = u.spool with
  | none => some (.notFound .spool u.spool)
  | some s =>
    if Scalar.lt s.weight u.grams then some (.insufficientStock u.spool u.grams s.weight) else none

theorem shortage?_of_find? {u : SpoolUsage α} {s : Spool α}
    (hfound : spools.find? (fun s => s.id = u.spool) = some s) :
    shortage? spools u = if Scalar.lt s.weight u.grams then
      some (.insufficientStock u.spool u.grams s.weight) else none := by
  rw [shortage?, hfound]

variable (now reason) in
/-- A spool is refused for its shortage, and for nothing else. -/
theorem refusal?_deduct [StockScalar α] {u : SpoolUsage α}
    (hstock : ∀ s ∈ spools, InStock db.tables s) (hrun : ∃ r ∈ db.tables.runs, r.id = run)
    (hend : target.isTerminal = true) (hpositive : Scalar.lt Scalar.zero u.grams = true)
    (hnew : unjournaled db.tables.deductions run target u = true) :
    refusal? (deduct now run target reason spools u) db = shortage? spools u := by
  unfold deduct
  cases hfound : spools.find? fun s => s.id = u.spool with
  | none =>
    rw [shortage?, hfound]
    rfl
  | some s =>
    have hid : s.id = u.spool := by simpa using List.find?_some hfound
    obtain ⟨hfinite, hweight, hmem⟩ := hstock s (List.mem_of_find?_eq_some hfound)
    have hfree : db.tables.deductions.any (fun d => d.covers run target u.spool) = false := by
      simpa [unjournaled] using hnew
    rw [shortage?_of_find? hfound, refusal?_bind_of_gives (gives_expect.mpr ⟨rfl, rfl⟩),
      refusal?_bind_of_gives (gives_deductionExists.mpr ⟨rfl, rfl⟩), hfree,
      if_neg Bool.false_ne_true]
    cases hshort : Scalar.lt s.weight u.grams with
    | true => rfl
    | false =>
      -- the amounts are numbers, so the row and the weight can be stored
      have hgrams := LawfulScalar.isAmount_of_positive _ hpositive
      have hleft := (StockScalar.isFinite_sub _ _ hfinite hweight hgrams hshort).2
      obtain ⟨q, hq, hqid⟩ := List.mem_map.mp hmem
      have hspool : ∃ s ∈ db.tables.spools, s.id = u.spool := ⟨q, hq, hqid.trans hid⟩
      rw [if_neg Bool.false_ne_true, if_neg Bool.false_ne_true]
      refine (refusal?_bind_of_gives (gives_insertDeduction.mpr ⟨_, stored?_eq_some.mpr
        ⟨rfl, hgrams.isNumber, hweight.isNumber, hleft.isNumber⟩, hend, hpositive,
        Or.inr ⟨by simpa using hfree, hrun, hspool, rfl, rfl⟩⟩)).trans ?_
      exact refusal?_bind_of_gives (gives_setSpoolWeight.mpr (Or.inr ⟨hspool, _,
        Scalar.stored?_eq_some.mpr ⟨hleft.isNumber, rfl⟩, isNotNegative_some hleft.notBelow, rfl,
        rfl⟩))

/-- One spool after the other: what is refused is the first shortage. -/
theorem refusal?_deductAll [StockScalar α] {usage : UsageTable α}
    (hnodup : (usage.map SpoolUsage.spool).Nodup)
    (hstock : ∀ s ∈ spools, InStock db.tables s) (hrun : ∃ r ∈ db.tables.runs, r.id = run)
    (hend : target.isTerminal = true)
    (hpositive : ∀ u ∈ usage, Scalar.lt Scalar.zero u.grams = true)
    (hnew : ∀ u ∈ usage, unjournaled db.tables.deductions run target u = true) :
    refusal? (deductAll now run target reason spools usage) db =
      usage.findSome? (shortage? spools) := by
  induction usage generalizing db with
  | nil => rfl
  | cons u usage ih =>
    obtain ⟨hother, hnodup⟩ := List.nodup_cons.mp (List.map_cons ▸ hnodup)
    obtain ⟨hpositive, hlater⟩ := List.forall_mem_cons.mp hpositive
    obtain ⟨hfirst, hnew⟩ := List.forall_mem_cons.mp hnew
    have hdeduct := refusal?_deduct now reason hstock hrun hend hpositive hfirst
    rw [deductAll, List.findSome?_cons, ← hdeduct]
    rcases gives_or_refuses (deduct now run target reason spools u) db with
      ⟨row, db₁, h⟩ | ⟨why, db₁, h⟩
    · rw [refusal?_bind_of_gives h, refusal?_eq_none.mpr ⟨row, db₁, h⟩]
      refine (refusal?_bind_eq fun _ _ => rfl).trans ?_
      rcases gives_deduct h with ⟨hold, -⟩ | ⟨-, d, -, hd, htables, -⟩
      · rw [hfirst] at hold
        exact nomatch hold
      · -- the row is about another spool than those that follow
        have hids : db₁.tables.spools.map Spool.id = db.tables.spools.map Spool.id := by
          rw [htables]
          exact map_changeRows fun _ _ _ => rfl
        refine ih hnodup (fun s hs => ?_) (by rw [htables]; exact hrun) hlater fun v hv => ?_
        · obtain ⟨hfinite, hweight, hmem⟩ := hstock s hs
          exact ⟨hfinite, hweight, hids ▸ hmem⟩
        · rw [htables]
          refine (unjournaled_append fun e he => ?_).trans (hnew v hv)
          obtain rfl := List.mem_singleton.mp he
          rw [hd.spool_eq]
          exact fun heq => hother (List.mem_map.mpr ⟨v, hv, heq.symm⟩)
    · rw [refusal?_bind_of_refuses h, refusal?_eq_some.mpr ⟨db₁, h⟩]

omit [Scalar α] in
/-- Of the spools that are read, each is found as it is in the table. -/
theorem find?_inOrder_filter {ids : List Uuid} {table : List (Spool α)} {id : Uuid}
    (hnodup : (table.map Spool.id).Nodup) (hid : id ∈ ids) :
    (inOrder (fun a b => !b.id.before a.id) (table.filter fun s => ids.contains s.id)).find?
        (fun s => s.id = id) = table.find? fun s => s.id = id := by
  cases hfound : table.find? fun s => s.id = id with
  | none =>
    refine List.find?_eq_none.mpr fun s hs => ?_
    exact List.find?_eq_none.mp hfound s (mem_of_mem_inOrder_filter hs)
  | some s =>
    have hsid : s.id = id := by simpa using List.find?_some hfound
    refine find?_of_unique ?_ (by simpa using hsid) fun q hq hqid => ?_
    · refine (inOrder_perm _ _).mem_iff.mpr (List.mem_filter.mpr
        ⟨List.mem_of_find?_eq_some hfound, ?_⟩)
      rw [hsid]
      exact List.contains_iff_mem.mpr hid
    · exact eq_of_key_eq hnodup (mem_of_mem_inOrder_filter hq) (List.mem_of_find?_eq_some hfound)
        ((of_decide_eq_true hqid).trans hsid.symm)

variable (now reason) in
/-- The ledger is refused for the first shortage, as the tables are before it writes. -/
theorem refusal?_applyDeductions [StockScalar α] {usage : UsageTable α}
    (hids : (db.tables.spools.map Spool.id).Nodup)
    (hstock : ∀ s ∈ db.tables.spools, InStock db.tables s)
    (hrun : ∃ r ∈ db.tables.runs, r.id = run) (hend : target.isTerminal = true)
    (hnodup : (usage.map SpoolUsage.spool).Nodup)
    (hpositive : ∀ u ∈ usage, Scalar.lt Scalar.zero u.grams = true)
    (hnew : ∀ u ∈ usage, unjournaled db.tables.deductions run target u = true) :
    refusal? (applyDeductions now run target reason usage) db =
      usage.findSome? (shortage? db.tables.spools) := by
  rw [applyDeductions, refusal?_bind_of_gives (gives_spoolsOf.mpr ⟨rfl, rfl⟩),
    refusal?_deductAll hnodup (fun s hs => hstock s (mem_of_mem_inOrder_filter hs)) hrun hend
      hpositive hnew]
  have hsame : ∀ u ∈ usage, shortage? (inOrder (fun a b => !b.id.before a.id)
      (db.tables.spools.filter fun s => (usage.map SpoolUsage.spool).contains s.id)) u =
        shortage? db.tables.spools u := by
    intro u hu
    unfold shortage?
    rw [find?_inOrder_filter hids (List.mem_map_of_mem hu)]
  clear hnodup hpositive hnew
  generalize inOrder _ _ = spools at hsame
  induction usage with
  | nil => rfl
  | cons u usage ih =>
    obtain ⟨hu, hsame⟩ := List.forall_mem_cons.mp hsame
    rw [List.findSome?_cons, List.findSome?_cons, hu, ih hsame]

end Ledger

/-! ## The end of a run -/

namespace Workflow

variable [Scalar α] {catalog : Catalog} {now : Timestamp} {db db₁ : Database α} {r : Run α}
  {op : Operation α} {ending : RunEnding α} {reason : DeductionReason} {usage : UsageTable α}

/-- Writing the end of a run is refused only for a text that cannot be stored. -/
theorem refusal?_close (hr : r ∈ db.tables.runs)
    (hfound : db.tables.runs.find? (fun s => s.id = r.id) = some r)
    (haccepts : acceptsRun (endedRun now ending r) = true) :
    refusal? (close now r ending) db =
      if allStorable [ending.wasteReason, ending.notes] then none else some (.storage .endRun) := by
  obtain ⟨n, db₁, hcancel⟩ : ∃ n db₁,
      Gives (cancelOpenPlates now r.id ending.completedAt) db n db₁ :=
    ⟨_, _, gives_cancelOpenPlates.mpr ⟨rfl, rfl⟩⟩
  have hruns : db₁.tables.runs = db.tables.runs := by rw [(gives_cancelOpenPlates.mp hcancel).1]
  rw [close, refusal?_bind_of_gives hcancel]
  rw [← hruns] at hr hfound
  cases htexts : allStorable [ending.wasteReason, ending.notes] with
  | false =>
    have hrefused : Refuses (endRun now r.id r.status ending) db₁ (.storage .endRun) db₁ :=
      refuses_first (refuses_require.mpr ⟨htexts, rfl, rfl⟩)
    exact refusal?_bind_of_refuses hrefused
  | true =>
    refine (refusal?_bind_of_gives (gives_endRun.mpr ⟨htexts, Or.inl ⟨r, hfound, rfl, haccepts, rfl,
      rfl⟩⟩)).trans ?_
    have hended : endedRun now ending r ∈
        changeRows (fun s => s.id = r.id) (fun _ => endedRun now ending r) db₁.tables.runs :=
      mem_changeRows.mpr ⟨r, hr, by simp⟩
    refine Option.eq_none_iff_forall_not_mem.mpr fun why hwhy => ?_
    obtain ⟨db', h⟩ := refusal?_eq_some.mp hwhy
    exact not_refuses_snapshot (r := endedRun now ending r) hended h

/-- Why the end of a run is refused once it is decided what it writes and deducts: the first
shortage, or else a text that cannot be stored. -/
def settlingRefusal? (t : Tables α) (ending : RunEnding α) (usage : UsageTable α) :
    Option (Refusal α) :=
  (usage.findSome? (Ledger.shortage? t.spools)).or
    (if allStorable [ending.wasteReason, ending.notes] then none else some (.storage .endRun))

variable [StockScalar α]

/-- What is left to do when the figures are fixed, if that changed no spool, no run and no row of
the journal. -/
theorem refusal?_settle (hdb : db.tables.Consistent) (hv : db.tables.Valued)
    (hr : r ∈ db.tables.runs) (hprogress : r.status = .inProgress)
    (hcloses : Closes catalog now db.tables r op ending reason usage)
    (hspools : db₁.tables.spools = db.tables.spools) (hruns : db₁.tables.runs = db.tables.runs)
    (hrows : db₁.tables.deductions = db.tables.deductions) :
    refusal? (do
      let _ ← Ledger.applyDeductions now r.id ending.status reason usage
      close now r ending) db₁ = settlingRefusal? db.tables ending usage := by
  have hfound := hdb.find_run hr
  have hnew : ∀ u ∈ usage,
      Ledger.unjournaled db₁.tables.deductions r.id ending.status u = true :=
    fun u _ => hrows ▸ hdb.unjournaled hr hprogress ending.status u
  have hledger := Ledger.refusal?_applyDeductions now reason
    (hspools ▸ hdb.spoolIds) (fun s hs => ?_) ⟨r, hruns ▸ hr, rfl⟩ hcloses.isTerminal
    hcloses.nodup_spools hcloses.positive hnew
  · rw [settlingRefusal?, ← hspools, ← hledger]
    rcases gives_or_refuses (Ledger.applyDeductions now r.id ending.status reason usage) db₁ with
      ⟨rows, db₂, h⟩ | ⟨why, db₂, h⟩
    · have hkept : db₂.tables.runs = db.tables.runs := by
        rw [(Ledger.gives_applyDeductions hcloses.nodup_spools h).2.1]
        exact hruns
      rw [refusal?_bind_of_gives h, refusal?_eq_none.mpr ⟨rows, db₂, h⟩, Option.none_or]
      exact refusal?_close (hkept ▸ hr) (hkept ▸ hfound)
        (hcloses.acceptsRun_ended (hv.hours r hr))
    · rw [refusal?_bind_of_refuses h, refusal?_eq_some.mpr ⟨db₂, h⟩, Option.some_or]
  · have hmem := hspools ▸ hs
    exact ⟨hv.stocks s hmem, hdb.isAmount_weight hmem, List.mem_map_of_mem hs⟩

omit [StockScalar α] in
variable (now db) in
theorem refusal?_fixLines (lines : List (PricedMaterial α)) :
    refusal? (fixLines now lines) db = none := by
  induction lines generalizing db with
  | nil => rfl
  | cons l lines ih =>
    refine (refusal?_bind_of_gives (b := ()) (gives_fixFigures.mpr rfl)).trans ?_
    exact (refusal?_bind_eq fun _ _ => rfl).trans (ih _)

omit [StockScalar α] in
variable (db) in
theorem refusal?_setUnitCosts (cost : Item α → Option α) (items : List (Item α)) :
    refusal? (items.forM fun i => setUnitCost i.id (cost i)) db = none := by
  induction items generalizing db with
  | nil => rfl
  | cons i items ih =>
    exact (refusal?_bind_of_gives (b := ()) (gives_setUnitCost.mpr rfl)).trans (ih _)

/-- What a run that is not completed is refused for. -/
theorem refusal?_abort {target : RunStatus} (hdb : db.tables.Consistent) (hv : db.tables.Valued)
    (hr : r ∈ db.tables.runs) (hprogress : r.status = .inProgress)
    (hcloses : Closes catalog now db.tables r op ending reason usage)
    (htarget : ending.status = target) :
    refusal? (do
      let _ ← fixLines now (← Store.materialsOf r.id)
      let _ ← Ledger.applyDeductions now r.id target reason usage
      close now r ending) db = settlingRefusal? db.tables ending usage := by
  obtain rfl := htarget
  rw [refusal?_bind_of_gives (gives_materialsOf.mpr ⟨rfl, rfl⟩)]
  obtain ⟨figures, db₁, hfigures⟩ :=
    refusal?_eq_none.mp (refusal?_fixLines now db (db.tables.linesOf r.id))
  rw [refusal?_bind_of_gives hfigures]
  have hfixed := (gives_fixLines hfigures).2
  apply refusal?_settle hdb hv hr hprogress hcloses
  all_goals rw [hfixed]

end Workflow

/-! ## Whole operations -/

namespace Operation

variable [Scalar α] {catalog : Catalog} {now : Timestamp} {db : Database α} {op : Operation α}

/-- The end of a run that is not there is refused once its request is in order. -/
theorem perform_missing {run : Uuid} (hends : op.ends? = some run)
    (hpreflight : op.preflight catalog = .ok ()) (hmissing : ∀ r ∈ db.tables.runs, r.id ≠ run) :
    (op.perform catalog now).run db = (.error (.notFound .run run), db) := by
  have hread : Refuses (Store.run run) db (.notFound .run run) db := by
    refine refuses_bind.mpr (Or.inr ⟨none, db, gives_run?.mpr ⟨?_, rfl⟩, ?_⟩)
    · exact (List.find?_eq_none.mpr fun r hr => by simpa using hmissing r hr).symm
    · exact refuses_refuse.mpr ⟨rfl, rfl⟩
  show Refuses (op.perform catalog now) db (.notFound .run run) db
  cases op with
  | completeRun id =>
    obtain rfl := Option.some.inj hends
    exact refuses_map.mpr (refuses_atomically_at_once (refuses_first hread))
  | cancelRun id request =>
    obtain rfl := Option.some.inj hends
    cases hdeductible : request.deductible with
    | error why =>
      rw [preflight, hdeductible] at hpreflight
      cases hpreflight
    | ok usage =>
      exact refuses_map.mpr (refuses_atomically_at_once
        (refuses_after_check hdeductible (refuses_first hread)))
  | failRun id request =>
    obtain rfl := Option.some.inj hends
    exact refuses_map.mpr (refuses_atomically_at_once
      (refuses_after_check hpreflight (refuses_first hread)))
  | _ => cases hends

variable [StockScalar α] {r : Run α} {ending : RunEnding α} {reason : DeductionReason}
  {usage : UsageTable α}

/-- The end of a run in progress whose request is in order is refused for the first shortage, or
for a text that cannot be stored. -/
theorem refusal?_of_closes (hdb : db.tables.Consistent) (hv : db.tables.Valued)
    (hr : r ∈ db.tables.runs) (hprogress : r.status = .inProgress)
    (hcloses : Closes catalog now db.tables r op ending reason usage) :
    refusal? (op.perform catalog now) db = Workflow.settlingRefusal? db.tables ending usage := by
  have hfound := hdb.find_run hr
  have hmove : ∀ next action, next.isTerminal = true → r.checkMove next action = .ok () :=
    fun next action hnext => Run.checkMove_eq_ok.mpr ⟨hprogress, hnext⟩
  cases id hcloses with
  | complete hmeasured =>
    rw [perform, refusal?_map, Workflow.completeRun, refusal?_atomically,
      refusal?_bind_of_gives (gives_run.mpr ⟨hfound, rfl⟩), hmove _ _ rfl, refusal?_check_ok,
      refusal?_bind_of_gives (gives_itemsOf.mpr ⟨rfl, rfl⟩),
      refusal?_bind_of_gives (gives_materialsOf.mpr ⟨rfl, rfl⟩), refusal?_refuseIfAny,
      if_pos hmeasured]
    obtain ⟨figures, db₁, hfigures⟩ := refusal?_eq_none.mp
      (Workflow.refusal?_fixLines now db (db.tables.linesOf r.id))
    have hfixed := (Workflow.gives_fixLines hfigures).2
    dsimp only
    rw [refusal?_bind_of_gives hfigures]
    obtain ⟨u, db₂, hcosts⟩ := refusal?_eq_none.mp
      (Workflow.refusal?_setUnitCosts db₁ (RunMetrics.compute (db.tables.itemsOf r.id) figures
        (some (r.durationHours.getD (elapsedHours r.startedAt now))) r.estimatedHours).unitCost
        (db.tables.itemsOf r.id))
    have hpriced := Workflow.gives_setUnitCosts hcosts
    rw [refusal?_bind_of_gives hcosts]
    have hspools : db₂.tables.spools = db.tables.spools := by rw [hpriced, hfixed]
    have hruns : db₂.tables.runs = db.tables.runs := by rw [hpriced, hfixed]
    have hrows : db₂.tables.deductions = db.tables.deductions := by rw [hpriced, hfixed]
    have h := Workflow.refusal?_settle hdb hv hr hprogress hcloses hspools hruns hrows
    exact h
  | cancel husage =>
    rw [perform, refusal?_map, Workflow.cancelRun, refusal?_atomically, husage, refusal?_check_ok,
      refusal?_bind_of_gives (gives_run.mpr ⟨hfound, rfl⟩), hmove _ _ rfl, refusal?_check_ok]
    exact Workflow.refusal?_abort hdb hv hr hprogress hcloses rfl
  | fail hvalid =>
    rw [perform, refusal?_map, Workflow.failRun, refusal?_atomically]
    dsimp only
    rw [refusal?_refuseIfAny, if_pos hvalid, refusal?_bind_of_gives (gives_run.mpr ⟨hfound, rfl⟩),
      hmove _ _ rfl, refusal?_check_ok]
    exact Workflow.refusal?_abort hdb hv hr hprogress hcloses rfl

omit [StockScalar α] in
/-- A run in progress is not completed while something is wrong with its lines or items. -/
theorem refusal?_unmeasured (hdb : db.tables.Consistent) (hr : r ∈ db.tables.runs)
    (hprogress : r.status = .inProgress)
    (hwrong :
      Workflow.completionComplaints (db.tables.linesOf r.id) (db.tables.itemsOf r.id) ≠ []) :
    refusal? ((completeRun r.id).perform catalog now) db = some (.invalid
      (Workflow.completionComplaints (db.tables.linesOf r.id) (db.tables.itemsOf r.id))) := by
  have hmove : r.checkMove .completed "complete" = .ok () :=
    Run.checkMove_eq_ok.mpr ⟨hprogress, rfl⟩
  rw [perform, refusal?_map, Workflow.completeRun, refusal?_atomically,
    refusal?_bind_of_gives (gives_run.mpr ⟨hdb.find_run hr, rfl⟩), hmove, refusal?_check_ok,
    refusal?_bind_of_gives (gives_itemsOf.mpr ⟨rfl, rfl⟩),
    refusal?_bind_of_gives (gives_materialsOf.mpr ⟨rfl, rfl⟩), refusal?_refuseIfAny, if_neg hwrong]

end Operation

/-! ## Events -/

namespace Event

variable [Scalar α] {e : Event α} {db : Database α} {why : Refusal α}

/-- What comes of the event: why it is refused, or the tables that it leaves. -/
def result (e : Event α) (db : Database α) : Except (Refusal α) (Tables α) :=
  (e.run db).1.map fun _ => (e.after db).tables

theorem result_of_refused (h : (e.run db).1 = .error why) : e.result db = .error why := by
  rw [result, h]
  rfl

theorem result_of_refusal? (h : refusal? (e.operation.perform e.catalog e.now) db = some why) :
    e.result db = .error why := by
  obtain ⟨db', hrun⟩ := refusal?_eq_some.mp h
  exact result_of_refused (congrArg Prod.fst hrun)

/-- What is checked before the run is read is refused first. -/
theorem result_of_preflight (h : e.operation.preflight e.catalog = .error why) :
    e.result db = .error why :=
  result_of_refused (congrArg Prod.fst (perform_preflight h))

/-- The end of a run that is not there. -/
theorem result_of_missing {run : Uuid} (hends : e.operation.ends? = some run)
    (hpreflight : e.operation.preflight e.catalog = .ok ())
    (hmissing : ∀ r ∈ db.tables.runs, r.id ≠ run) : e.result db = .error (.notFound .run run) :=
  result_of_refused (congrArg Prod.fst (Operation.perform_missing hends hpreflight hmissing))

/-- A change of a run that has ended. -/
theorem result_of_ended (hdb : db.tables.Consistent) {r : Run α} (hr : r ∈ db.tables.runs)
    (hended : r.status.isTerminal = true) {action : String}
    (hchange : e.operation.changes? = some (r.id, action))
    (hpreflight : e.operation.preflight e.catalog = .ok ()) :
    e.result db = .error (.illegalTransition .run r.id r.status.word action) :=
  result_of_refused (congrArg Prod.fst (perform_ended hdb hr hended hchange hpreflight))

/-- What is not refused is a step. -/
theorem result_of_accepted (hdb : db.Sound)
    (h : refusal? (e.operation.perform e.catalog e.now) db = none) :
    ∃ t', e.result db = .ok t' ∧ Step e.catalog e.now db.tables e.operation t' := by
  rcases e.step_or_refused hdb with ⟨answer, hanswer, hstep⟩ | ⟨why, hwhy, -⟩
  · refine ⟨(e.after db).tables, ?_, hstep⟩
    rw [result, hanswer]
    rfl
  · have hrefused := refusal?_eq_some.mpr ⟨(e.run db).2, Prod.ext hwhy rfl⟩
    exact nomatch h.symm.trans hrefused

/-- The end of a run in progress is refused as it is settled, or the run is closed. -/
theorem result_of_closes [StockScalar α] (hdb : db.Sound) (hv : db.tables.Valued) {r : Run α}
    {ending : RunEnding α} {reason : DeductionReason} {usage : UsageTable α}
    (hr : r ∈ db.tables.runs) (hprogress : r.status = .inProgress)
    (hcloses : Closes e.catalog e.now db.tables r e.operation ending reason usage) :
    (∃ why, Workflow.settlingRefusal? db.tables ending usage = some why ∧
        e.result db = .error why) ∨
      Workflow.settlingRefusal? db.tables ending usage = none ∧ ∃ rows,
        List.Forall₂ (Ledger.Deducted e.now r.id ending.status reason db.tables.spools) usage rows ∧
          e.result db = .ok (db.tables.closed e.now r ending rows) := by
  have hrefusal := Operation.refusal?_of_closes hdb.consistent hv hr hprogress hcloses
  cases hsettled : Workflow.settlingRefusal? db.tables ending usage with
  | some why => exact Or.inl ⟨why, rfl, result_of_refusal? (hrefusal.trans hsettled)⟩
  | none =>
    obtain ⟨t', hresult, hstep⟩ := result_of_accepted hdb (hrefusal.trans hsettled)
    obtain ⟨q, _, _, _, rows, hid, hq, -, hsame, hrows, rfl⟩ := hstep.closes hcloses.ends?_eq
    obtain rfl := eq_of_key_eq hdb.consistent.runIds hq hr hid
    obtain ⟨rfl, rfl, rfl⟩ := hcloses.unique hsame
    exact Or.inr ⟨rfl, rows, hrows, hresult⟩

/-- What an accepted event leaves. -/
theorem after_of_result {t' : Tables α} (h : e.result db = .ok t') :
    (∃ answer, (e.run db).1 = .ok answer) ∧ (e.after db).tables = t' := by
  unfold result at h
  cases hrun : (e.run db).1 with
  | error why =>
    rw [hrun] at h
    exact nomatch h
  | ok answer =>
    rw [hrun] at h
    exact ⟨⟨answer, rfl⟩, Except.ok.inj h⟩

/-- A refused event leaves all rows as they were. -/
theorem unchanged_of_result (hdb : db.Sound) (h : e.result db = .error why) :
    (e.run db).1 = .error why ∧ (e.after db).tables = db.tables := by
  rcases e.step_or_refused hdb with ⟨answer, hanswer, -⟩ | ⟨first, hfirst, hsame⟩
  · rw [result, hanswer] at h
    exact nomatch h
  · obtain rfl := Except.error.inj ((result_of_refused hfirst).symm.trans h)
    exact ⟨hfirst, hsame⟩

end Event

end PrintFarm
