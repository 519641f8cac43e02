import PrintFarm.Proofs.Balances
import PrintFarm.Proofs.Lifecycles
import PrintFarm.Proofs.Validation

/-!
# When the tables refuse

The end of a run writes to all tables, and what it writes is computed from what the tables hold.
So it takes the invariants of all tables to see that it is not refused by their rules.

* `clean_settle` is about the part that all ends of a run share.
* `clean_perform` puts all operations together, but for the listing of spools.
* That listing sums up what was deducted from each spool, and the sum can be larger than any number.
  `refused_by_tables_iff` says that nothing else is ever refused.
-/

namespace PrintFarm

open Store Tx
open Scalar (IsAmount)

variable {α : Type} [Scalar α]

/-! ## Deducting -/

namespace Ledger

variable {now : Timestamp} {run : Uuid} {target : RunStatus} {reason : DeductionReason}
  {db : Database α}

/-- The stock of a spool that is in the table is a finite amount. -/
def InStock (t : Tables α) (s : Spool α) : Prop :=
  Scalar.isFinite s.weight = true ∧ IsAmount s.weight ∧ s.id ∈ t.spools.map Spool.id

variable [StockScalar α]

/-- An amount above zero can be deducted from a spool in stock, or the spool holds too little. -/
theorem clean_deduct {spools : List (Spool α)} {u : SpoolUsage α}
    (hstock : ∀ s ∈ spools, InStock db.tables s) (hrun : ∃ r ∈ db.tables.runs, r.id = run)
    (hend : target.isTerminal = true) (hpositive : Scalar.lt Scalar.zero u.grams = true) :
    Clean (deduct now run target reason spools u) db := by
  refine .expect (fun _ => nofun) fun s hs => .read (.ite (fun _ => .pure _) fun _ => ?_)
  refine .ite (fun _ => .refuse fun _ => nofun) fun henough => ?_
  obtain ⟨hfinite, hweight, hmem⟩ := hstock s (List.mem_of_find?_eq_some hs)
  have hid : s.id = u.spool := by simpa using List.find?_some hs
  have hgrams := LawfulScalar.isAmount_of_positive _ hpositive
  have hleft := (StockScalar.isFinite_sub _ _ hfinite hweight hgrams (by simpa using henough)).2
  refine .bind (.insertDeduction hend hpositive ?_ hrun ?_) fun row _ _ => ?_
  · exact ⟨hgrams.isNumber, hweight.isNumber, hleft.isNumber⟩
  · obtain ⟨q, hq, hqid⟩ := List.mem_map.mp hmem
    exact ⟨q, hq, hqid.trans hid⟩
  · exact .ite (fun _ => .bind (.setSpoolWeight hleft) fun _ _ _ => .pure _) fun _ => .pure _

theorem clean_deductAll {spools : List (Spool α)} {usage : UsageTable α}
    (hstock : ∀ s ∈ spools, InStock db.tables s) (hrun : ∃ r ∈ db.tables.runs, r.id = run)
    (hend : target.isTerminal = true)
    (hpositive : ∀ u ∈ usage, Scalar.lt Scalar.zero u.grams = true) :
    Clean (deductAll now run target reason spools usage) db := by
  induction usage generalizing db with
  | nil => exact .pure _
  | cons u usage ih =>
    refine .bind (clean_deduct hstock hrun hend (hpositive u List.mem_cons_self))
      fun _ db₁ hfirst => .bind ?_ fun _ _ _ => .pure _
    -- the spools keep their identifiers and the run stays
    have hkept : db₁.tables.spools.map Spool.id = db.tables.spools.map Spool.id ∧
        db₁.tables.runs = db.tables.runs := by
      rcases gives_deduct hfirst with ⟨-, -, rfl⟩ | ⟨-, d, -, -, htables, -⟩
      · exact ⟨rfl, rfl⟩
      · rw [htables]
        exact ⟨map_changeRows fun _ _ _ => rfl, rfl⟩
    refine ih (fun s hs => ?_) (hkept.2 ▸ hrun) fun v hv => hpositive v (List.mem_cons_of_mem _ hv)
    obtain ⟨hfinite, hweight, hmem⟩ := hstock s hs
    exact ⟨hfinite, hweight, hkept.1 ▸ hmem⟩

theorem clean_applyDeductions {usage : UsageTable α}
    (hstock : ∀ s ∈ db.tables.spools, InStock db.tables s)
    (hrun : ∃ r ∈ db.tables.runs, r.id = run) (hend : target.isTerminal = true)
    (hpositive : ∀ u ∈ usage, Scalar.lt Scalar.zero u.grams = true) :
    Clean (applyDeductions now run target reason usage) db :=
  .read (clean_deductAll (fun s hs => hstock s (mem_of_mem_inOrder_filter hs)) hrun hend hpositive)

end Ledger

/-! ## What the end of a run writes -/

section Ends

variable {catalog : Catalog} {now : Timestamp} {t : Tables α} {r : Run α} {op : Operation α}
  {ending : RunEnding α} {reason : DeductionReason} {usage : UsageTable α}

theorem storable_mergedNotes {existing addition : Option String}
    (hexisting : existing.all storable = true) (haddition : addition.all storable = true) :
    (mergedNotes existing addition).all storable = true := by
  have hkept := storable_nonblank? hexisting
  have hadded := storable_nonblank? haddition
  unfold mergedNotes
  generalize addition.bind Text.nonblank? = added at *
  generalize existing.bind Text.nonblank? = kept at *
  cases added with
  | none => rfl
  | some added =>
    cases kept with
    | none => exact hadded
    | some kept => exact storable_append (storable_append hkept (by decide)) hadded

/-- The texts that the end of a run writes can be stored. -/
theorem Closes.storable (h : Closes catalog now t r op ending reason usage)
    (hdecodable : op.decodable = true) (hnotes : r.notes.all storable = true) :
    allStorable [ending.wasteReason, ending.notes] = true := by
  cases h with
  | complete => rfl
  | cancel =>
    simp only [Operation.decodable, allStorable, List.all_cons, List.all_nil, Bool.and_true] at *
    exact storable_mergedNotes hnotes hdecodable
  | fail =>
    simp only [Operation.decodable, allStorable, List.all_cons, List.all_nil, Bool.and_true,
      Bool.and_eq_true] at *
    exact ⟨hdecodable.1, storable_mergedNotes hnotes hdecodable.2⟩

variable [StockScalar α]

/-- What the end of a run deducts is above zero. -/
theorem Closes.positive (h : Closes catalog now t r op ending reason usage) :
    ∀ u ∈ usage, Scalar.lt Scalar.zero u.grams = true := by
  cases h with
  | complete => exact fun _ hu => positive_of_mem_positiveUsage hu
  | cancel husage =>
    rcases CancelRequest.deductible_eq_ok.mp husage with ⟨-, rfl⟩ | ⟨-, -, rfl⟩
    · simp
    · exact fun _ hu => positive_of_mem_positiveUsage hu
  | fail => exact fun _ hu => positive_of_mem_positiveUsage hu

/-- The hours and the waste of a run that ends are not below zero. -/
theorem Closes.acceptsRun_ended (h : Closes catalog now t r op ending reason usage)
    (hr : acceptsRun r = true) : acceptsRun (endedRun now ending r) = true := by
  simp only [acceptsRun, Bool.and_eq_true] at hr ⊢
  obtain ⟨⟨hduration, hestimate⟩, hwaste⟩ := hr
  cases h with
  | complete =>
    -- the hours that were entered, or those since the start
    have hhours : Scalar.lt (r.durationHours.getD (elapsedHours r.startedAt now)) Scalar.zero =
        false := by
      cases hentered : r.durationHours with
      | some hours => exact isNotNegative_iff.mp hduration hours hentered
      | none => exact (StockScalar.isAmount_hours _).notBelow
    have hwritten : isNotNegative (storedOption
        (some (r.durationHours.getD (elapsedHours r.startedAt now)))) = true :=
      isNotNegative_storedOption (by simpa using hhours)
    exact ⟨⟨isNotNegative_or hwritten hduration, hestimate⟩, hwaste⟩
  | cancel => exact ⟨⟨hduration, hestimate⟩, hwaste⟩
  | @fail request =>
    have hsum := isAmount_sum_positiveUsage request.waste
    have hwritten : isNotNegative (storedOption
        (some (Scalar.sum ((positiveUsage request.waste).map SpoolUsage.grams)))) = true := by
      rw [storedOption_some hsum]
      exact isNotNegative_some hsum.notBelow
    exact ⟨⟨hduration, hestimate⟩, isNotNegative_or hwritten hwaste⟩

end Ends

/-! ## Ending runs -/

namespace Workflow

variable {catalog : Catalog} {now : Timestamp} {db : Database α} {run : Uuid}

theorem clean_fixLines (lines : List (PricedMaterial α)) : Clean (fixLines now lines) db := by
  induction lines generalizing db with
  | nil => exact .pure _
  | cons l lines ih => exact .bind (.of_gives rfl) fun _ _ _ => .bind ih fun _ _ _ => .pure _

theorem clean_setUnitCosts {cost : Item α → Option α} (items : List (Item α)) :
    Clean (items.forM fun i => setUnitCost i.id (cost i)) db := by
  induction items generalizing db with
  | nil => exact .pure _
  | cons i items ih => exact .bind (.of_gives rfl) fun _ _ _ => ih

theorem clean_close {r : Run α} {ending : RunEnding α}
    (htexts : allStorable [ending.wasteReason, ending.notes] = true)
    (haccepts : ∀ s, db.tables.runs.find? (fun s => s.id = r.id) = some s →
      acceptsRun (endedRun now ending s) = true) :
    Clean (close now r ending) db := by
  refine .bind (.of_gives rfl) fun _ db₁ h => .bind (.endRun htexts ?_) fun _ _ _ => ?_
  · obtain ⟨rfl, -⟩ := gives_cancelOpenPlates.mp h
    exact haccepts
  · exact .ite (fun _ => .run fun _ _ => .refused fun _ => nofun) fun _ => .snapshot _

variable [StockScalar α]

/-- What is left to do when the figures are fixed is not refused, if that changed no spool and no
run. -/
theorem clean_settle (hdb : db.Orderly) {r : Run α} (hr : r ∈ db.tables.runs) {op : Operation α}
    {ending : RunEnding α} {reason : DeductionReason} {usage : UsageTable α}
    (hcloses : Closes catalog now db.tables r op ending reason usage)
    (hdecodable : op.decodable = true) {db₁ : Database α}
    (hspools : db₁.tables.spools = db.tables.spools) (hruns : db₁.tables.runs = db.tables.runs) :
    Clean (do
      let _ ← Ledger.applyDeductions now r.id ending.status reason usage
      close now r ending) db₁ := by
  refine .bind (Ledger.clean_applyDeductions (fun s hs => ?_) ⟨r, hruns ▸ hr, rfl⟩
    hcloses.isTerminal hcloses.positive) fun rows db₂ hrows => ?_
  · have hmem := hspools ▸ hs
    exact ⟨hdb.valued.stocks s hmem, hdb.consistent.isAmount_weight hmem, List.mem_map_of_mem hs⟩
  · have htables := (Ledger.gives_applyDeductions hcloses.nodup_spools hrows).2.1
    refine clean_close (hcloses.storable hdecodable (hdb.drawn.notes r hr)) fun s hs => ?_
    rw [htables] at hs
    have hfound := (hruns ▸ hs).symm.trans (hdb.consistent.find_run hr)
    obtain rfl := Option.some.inj hfound
    exact hcloses.acceptsRun_ended (hdb.valued.hours s hr)

/-- A run that is not completed keeps the costs of its items. -/
theorem clean_abort (hdb : db.Orderly) {r : Run α} (hr : r ∈ db.tables.runs) {op : Operation α}
    {ending : RunEnding α} {reason : DeductionReason} {usage : UsageTable α}
    (hcloses : Closes catalog now db.tables r op ending reason usage)
    (hdecodable : op.decodable = true) :
    Clean (do
      let _ ← fixLines now (← Store.materialsOf r.id)
      let _ ← Ledger.applyDeductions now r.id ending.status reason usage
      close now r ending) db := by
  refine .read (.bind (clean_fixLines _) fun figures db₁ hfigures => ?_)
  have hfixed := (gives_fixLines hfigures).2
  refine clean_settle hdb hr hcloses hdecodable ?_ ?_
  · rw [hfixed]
  · rw [hfixed]

theorem clean_completeRun (hdb : db.Orderly) : Clean (completeRun now run : Tx α _) db := by
  refine .atomically (.run fun r hr => .checkMove fun hprogress => .read (.read ?_))
  have hmem := List.mem_of_find?_eq_some hr
  obtain rfl : r.id = run := by simpa using List.find?_some hr
  refine .refuseIfAny fun hmeasured => .bind (clean_fixLines _) fun figures db₁ hfigures => ?_
  have hfixed := (gives_fixLines hfigures).2
  refine .bind (clean_setUnitCosts _) fun _ db₂ hcosts => ?_
  have hpriced := gives_setUnitCosts hcosts
  have hcloses : Closes .builtin now db.tables r (.completeRun r.id) _ _ _ := .complete hmeasured
  refine clean_settle hdb hmem hcloses rfl ?_ ?_
  · rw [hpriced, hfixed]
  · rw [hpriced, hfixed]

theorem clean_cancelRun (hdb : db.Orderly) {request : CancelRequest α}
    (hnotes : allStorable [request.notes] = true) : Clean (cancelRun now run request) db := by
  refine .atomically (.check (fun fault h => ?_) fun usage husage => .run fun r hr => ?_)
  · unfold CancelRequest.deductible at h
    split at h
    · exact nomatch h
    · dsimp only at h
      split at h <;> exact nomatch h
  have hmem := List.mem_of_find?_eq_some hr
  obtain rfl : r.id = run := by simpa using List.find?_some hr
  have hcloses : Closes .builtin now db.tables r (.cancelRun r.id request) _ _ _ := .cancel husage
  exact .checkMove fun _ => clean_abort hdb hmem hcloses hnotes

theorem clean_failRun (hdb : db.Orderly) {request : FailRequest α}
    (htexts : allStorable [some request.reason, request.notes] = true) :
    Clean (failRun catalog now run request) db := by
  refine .atomically (.refuseIfAny fun hvalid => .run fun r hr => ?_)
  have hmem := List.mem_of_find?_eq_some hr
  obtain rfl : r.id = run := by simpa using List.find?_some hr
  have hcloses : Closes catalog now db.tables r (.failRun r.id request) _ _ _ := .fail hvalid
  exact .checkMove fun _ => clean_abort hdb hmem hcloses htexts

end Workflow

/-! ## Listing spools -/

/-- The amounts that were deducted from a spool are finite, but their sum is not. -/
def Tables.Overflows (t : Tables α) (spool : Uuid) : Prop :=
  (∀ d ∈ t.ledgerOf spool, Scalar.isFinite d.grams = true) ∧
    Scalar.isFinite (((t.ledgerOf spool).map fun d => d.grams).foldl (· + ·) Scalar.zero) = false

section Listing

variable {β γ : Type} {db db' : Database α} {why : Refusal α}

theorem reads_totalDeducted (spool : Uuid) : (totalDeducted spool : Tx α α).Reads :=
  reads_tables.bind fun _ => (reads_require _ _).bind fun _ => reads_pure _

/-- A sum is refused for being too large, and for nothing else. -/
theorem refuses_totalDeducted {spool : Uuid} :
    Refuses (totalDeducted spool) db why db' ↔
      db.tables.Overflows spool ∧ why = .storage .sumDeductions ∧ db' = db := by
  simp only [totalDeducted, refuses_bind, refuses_tables, gives_tables, refuses_require,
    gives_require, refuses_pure, false_or, and_false, exists_false, or_false]
  constructor
  · intro h
    obtain ⟨_, _, ⟨rfl, rfl⟩, hrule, rfl, rfl⟩ := h
    obtain ⟨hsum, hparts⟩ := Bool.or_eq_false_iff.mp hrule
    exact ⟨⟨by simpa [Tables.ledgerOf, or_iff_not_imp_left] using hparts, hsum⟩, rfl, rfl⟩
  · intro h
    obtain ⟨⟨hparts, hsum⟩, rfl, rfl⟩ := h
    have hfinite : ((db'.tables.ledgerOf spool).map fun d => d.grams).all Scalar.isFinite = true :=
      List.all_eq_true.mpr (List.forall_mem_map.mpr hparts)
    exact ⟨_, _, ⟨rfl, rfl⟩, Bool.or_eq_false_iff.mpr ⟨hsum, congrArg not hfinite⟩, rfl, rfl⟩

omit [Scalar α] in
/-- Where reading for one row after the other is refused, it is refused for some row. -/
theorem refuses_of_mapM {xs : List β} {f : β → Tx α γ} (hreads : ∀ x, (f x).Reads)
    (h : Refuses (xs.mapM f) db why db') : ∃ x ∈ xs, Refuses (f x) db why db' := by
  induction xs with
  | nil => exact absurd h refuses_pure
  | cons x xs ih =>
    rw [List.mapM_cons] at h
    rcases refuses_bind.mp h with hfirst | ⟨b, db₁, hb, hrest⟩
    · exact ⟨x, List.mem_cons_self, hfirst⟩
    · obtain rfl := (hreads x).gives hb
      rcases refuses_bind.mp hrest with hrest | ⟨_, _, -, hanswer⟩
      · obtain ⟨y, hy, hrefuses⟩ := ih hrest
        exact ⟨y, List.mem_cons_of_mem _ hy, hrefuses⟩
      · exact absurd hanswer refuses_pure

omit [Scalar α] in
/-- Reading for one row after the other is refused if it is refused for one of them. -/
theorem mapM_refuses {xs : List β} {f : β → Tx α γ} (hreads : ∀ x, (f x).Reads) {x : β}
    (hx : x ∈ xs) (h : Refuses (f x) db why db') : ∃ why db', Refuses (xs.mapM f) db why db' := by
  induction xs with
  | nil => exact absurd hx List.not_mem_nil
  | cons y xs ih =>
    rw [List.mapM_cons]
    rcases gives_or_refuses (f y) db with ⟨b, db₁, hb⟩ | ⟨why, db₁, hfirst⟩
    · obtain rfl := (hreads y).gives hb
      rcases List.mem_cons.mp hx with rfl | hx
      · exact absurd h (not_refuses_of_gives hb)
      · obtain ⟨why, db', hrest⟩ := ih hx
        exact ⟨why, db', refuses_bind.mpr (Or.inr ⟨b, _, hb, refuses_bind.mpr (Or.inl hrest)⟩)⟩
    · exact ⟨why, db₁, refuses_bind.mpr (Or.inl hfirst)⟩

/-- The listing of spools is refused exactly where an amount that was deducted is too large. -/
theorem refuses_balances :
    (∃ fault db', Refuses Ledger.balances db (.storage fault) db') ↔
      ∃ s ∈ db.tables.spools, db.tables.Overflows s.id := by
  have hreads : ∀ s : Spool α, (do
      return (⟨s, ← totalDeducted s.id⟩ : SpoolBalance α)).Reads :=
    fun s => (reads_totalDeducted s.id).bind fun _ => reads_pure _
  have hrow : ∀ (s : Spool α) why db', Refuses (do
      return (⟨s, ← totalDeducted s.id⟩ : SpoolBalance α)) db why db' ↔
        db.tables.Overflows s.id ∧ why = .storage .sumDeductions ∧ db' = db := by
    intro s why db'
    simp [refuses_totalDeducted]
  simp only [Ledger.balances, listSpools, refuses_bind_read]
  constructor
  · intro h
    obtain ⟨fault, db', h⟩ := h
    obtain ⟨s, hs, hrefuses⟩ := refuses_of_mapM hreads h
    exact ⟨s, (inOrder_perm _ _).mem_iff.mp hs, ((hrow s _ _).mp hrefuses).1⟩
  · intro h
    obtain ⟨s, hs, hoverflows⟩ := h
    obtain ⟨why, db', hrefuses⟩ := mapM_refuses hreads ((inOrder_perm spoolOrder _).mem_iff.mpr hs)
      ((hrow s _ _).mpr ⟨hoverflows, rfl, rfl⟩)
    obtain ⟨q, -, hq⟩ := refuses_of_mapM hreads hrefuses
    obtain ⟨-, rfl, -⟩ := (hrow q _ _).mp hq
    exact ⟨_, db', hrefuses⟩

end Listing

/-! ## All operations -/

/-- A plate that is to be added without a number can still be numbered. -/
def Operation.HasNumber (op : Operation α) (t : Tables α) : Prop :=
  ∀ run new, op = .createPlate run new → new.number = none →
    ∀ p ∈ t.plates, p.run = run → p.number ≠ largestCount

/-- The tables refuse nothing but the listing of spools. -/
theorem Operation.clean_perform [StockScalar α] {catalog : Catalog} {now : Timestamp}
    {db : Database α} (hdb : db.Orderly) {op : Operation α} (hdecodable : op.decodable = true)
    (hnumber : op.HasNumber db.tables) (hlisting : op ≠ .listSpools) :
    Clean (op.perform catalog now) db := by
  cases op with
  | listSpools => exact absurd rfl hlisting
  | listReasons => exact .pure _
  | listRuns status => exact .map (.look _) _
  | showRun run => exact .map (.snapshot run) _
  | listDeductions run => exact .run fun _ _ => .map (.look _) _
  | listPlates run => exact .run fun _ _ => .map (.look _) _
  | createSpool new => exact .map (Workflow.clean_createSpool hdb hdecodable) _
  | createRun request => exact .map (Workflow.clean_createRun hdb hdecodable) _
  | updateRun run patch => exact .map (Workflow.clean_updateRun hdb hdecodable) _
  | completeRun run => exact .map (Workflow.clean_completeRun hdb) _
  | cancelRun run request => exact .map (Workflow.clean_cancelRun hdb hdecodable) _
  | failRun run request => exact .map (Workflow.clean_failRun hdb hdecodable) _
  | updateOutcome run item outcome =>
    exact .map (Workflow.clean_updateOutcome hdb item outcome) _
  | addMaterial run new => exact .map (Workflow.clean_addMaterial hdb new) _
  | recordActual run material request =>
    exact .map (Workflow.clean_recordActual hdb material request) _
  | resetActuals run => exact .map (Workflow.clean_resetActuals hdb) _
  | removeMaterial run material =>
    exact .bind (Workflow.clean_removeMaterial material) fun _ _ _ => .pure _
  | createPlate run new =>
    exact .map (Workflow.clean_createPlate hdb hdecodable (hnumber run new rfl)) _
  | updatePlate run plate patch => exact .map (Workflow.clean_updatePlate hdb plate hdecodable) _
  | deletePlate run plate =>
    exact .bind (Workflow.clean_deletePlate plate) fun _ _ _ => .pure _
  | startPlate run plate => exact .map (Workflow.clean_movePlate hdb .start rfl) _
  | completePlate run plate report =>
    refine .map (.refuseIfAny fun hvalid => ?_) _
    exact Workflow.clean_movePlate hdb (.complete hvalid) hdecodable
  | failPlate run plate notes => exact .map (Workflow.clean_movePlate hdb .fail hdecodable) _
  | cancelPlate run plate notes => exact .map (Workflow.clean_movePlate hdb .cancel hdecodable) _

/-- Events keep the database in order. -/
theorem Database.Orderly.after [StockScalar α] {db : Database α} (h : db.Orderly) (e : Event α) :
    (e.after db).Orderly := by
  have hdrawn := (e.draws db).drawn h.drawn
  rcases gives_or_refuses (e.operation.perform e.catalog e.now) db with
    ⟨answer, db', hrun⟩ | ⟨why, db', hrun⟩
  · have hstep := (Operation.perform_step h.consistent hrun).1
    have hafter : e.after db = db' := congrArg Prod.snd hrun
    rw [hafter] at hdrawn ⊢
    exact ⟨hstep.consistent h.consistent, hstep.valued h.consistent h.valued, hdrawn⟩
  · have hsame : (e.after db).tables = db.tables :=
      (congrArg (fun outcome => outcome.2.tables) hrun).trans (Operation.perform_refused hrun)
    exact ⟨hsame ▸ h.consistent, hsame ▸ h.valued, hdrawn⟩

theorem orderly_afterAll [StockScalar α] {start : Sequences} (hstart : 0 ≤ start.runNumber)
    (events : List (Event α)) : ((Database.fresh start).afterAll events).Orderly := by
  refine Database.afterAll_induction ?_ (fun e db h => h.after e) events
  exact ⟨.empty, .empty, drawn_afterAll hstart []⟩

/-- Whatever operations were performed before, a request that could be read breaks no rule of the
tables, as long as plates can be numbered and no identifier is drawn twice.  The one operation that
the tables ever refuse is the listing of spools: they refuse it exactly where the finite amounts
that were deducted from a spool have a sum that is not finite. -/
theorem refused_by_tables_iff (start : Sequences) (events : List (Event Float)) (e : Event Float)
    (hstart : 0 ≤ start.runNumber) (hdecodable : e.operation.decodable = true)
    (hnumber : e.operation.HasNumber ((Database.fresh start).afterAll events).tables)
    (hdistinct : (e.after ((Database.fresh start).afterAll events)).sequences.Distinct) :
    (∃ fault, (e.run ((Database.fresh start).afterAll events)).1 = .error (.storage fault)) ↔
      e.operation = .listSpools ∧
        ∃ s ∈ ((Database.fresh start).afterAll events).tables.spools,
          ((Database.fresh start).afterAll events).tables.Overflows s.id := by
  generalize hdb : (Database.fresh start).afterAll events = db at *
  have horderly : db.Orderly := hdb ▸ orderly_afterAll hstart events
  by_cases hlisting : e.operation = .listSpools
  · have hrun : e.run db = (Answer.balances <$> Ledger.balances : Tx Float _).run db := by
      rw [Event.run, hlisting]
      rfl
    rw [and_iff_right hlisting, ← refuses_balances, hrun]
    refine exists_congr fun fault => ⟨fun h => ⟨_, refuses_map.mp (Prod.ext h rfl)⟩, fun h => ?_⟩
    obtain ⟨db', h⟩ := h
    exact congrArg Prod.fst (refuses_map.mpr h)
  · refine ⟨fun h => ?_, fun h => absurd h.1 hlisting⟩
    obtain ⟨fault, hfault⟩ := h
    have hclean : Clean (e.operation.perform e.catalog e.now) db :=
      Operation.clean_perform horderly hdecodable hnumber hlisting
    exact absurd hdistinct (hclean fault _ (Prod.ext hfault rfl))

/-- A run for one model, with a plate that has the last number but one. -/
def platedSession : List (Event Float) :=
  let item : NewItem Float := ⟨.numbered 9 1, none, 4, none, none, none⟩
  let request : RunRequest Float := ⟨⟨none, 0.0, none, none, none, none, none⟩, [item], []⟩
  let plate : NewPlate Float := ⟨.numbered 9 1, none, some 2147483646, none, 2, none, none, none⟩
  [.createRun request, .createPlate (.numbered 2 1) plate].map
    (Event.mk .builtin ⟨1767225600, 0⟩)

/-- A plate without a number gets the last one. -/
theorem last_plate_taken :
    let new : NewPlate Float := ⟨.numbered 9 1, none, none, some " top ", 1, some 30, none, none⟩
    let e : Event Float := ⟨.builtin, ⟨1767225600, 0⟩, .createPlate (.numbered 2 1) new⟩
    ∀ fault, (e.run ((Database.fresh {}).afterAll platedSession)).1 ≠ .error (.storage fault) := by
  intro new e fault hrefused
  have hnumbers : ((Database.fresh {}).afterAll platedSession).tables.plates.map Plate.number =
      [2147483646] := by decide +kernel
  have hnumber : e.operation.HasNumber ((Database.fresh {}).afterAll platedSession).tables := by
    intro _ _ _ _ p hp _ hlast
    have hmem := List.mem_map_of_mem (f := Plate.number) hp
    rw [hnumbers, hlast] at hmem
    exact absurd hmem (by decide)
  have hdistinct : (e.after ((Database.fresh {}).afterAll platedSession)).sequences.Distinct := by
    constructor <;> decide +kernel
  have hiff := refused_by_tables_iff {} platedSession e (by decide) (by decide +kernel) hnumber
    hdistinct
  exact nomatch (hiff.mp ⟨fault, hrefused⟩).1

/-- Two runs fail, and what they have wasted of one spool adds up to more than the largest
number. -/
def overflowingSession : List (Event Float) :=
  let item : NewItem Float := ⟨.numbered 9 1, none, 1, none, none, none⟩
  let request : RunRequest Float := ⟨⟨none, 0.0, none, none, none, none, none⟩, [item], []⟩
  let waste (grams : Float) : List (SpoolUsage Float) := [⟨.numbered 1 1, grams⟩]
  [.createSpool ⟨"PLA", "PLA", none, 1.7976931348623157e308, 0.02⟩,
    .createRun request, .createRun request,
    .failRun (.numbered 2 1) ⟨"other", waste 8.377420393173159e307, none⟩,
    .failRun (.numbered 2 2) ⟨"other", waste 9.59951095545e307, none⟩].map
    (Event.mk .builtin ⟨1767225600, 0⟩)

/-- Whether the tables refused. -/
def isStorageFault {β : Type} : Except (Refusal α) β → Bool
  | .error (.storage _) => true
  | _ => false

omit [Scalar α] in
theorem isStorageFault_iff {β : Type} {outcome : Except (Refusal α) β} :
    isStorageFault outcome = true ↔ ∃ fault, outcome = .error (.storage fault) := by
  unfold isStorageFault
  split <;> simp_all

/-- After the session the spools cannot be listed, although nothing is wrong with the request and no
identifier was drawn twice. -/
theorem listing_overflows :
    let e : Event Float := ⟨.builtin, ⟨1767225600, 0⟩, .listSpools⟩
    e.operation.decodable = true ∧
      e.operation.HasNumber ((Database.fresh {}).afterAll overflowingSession).tables ∧
      (e.after ((Database.fresh {}).afterAll overflowingSession)).sequences.Distinct ∧
      ∃ fault, (e.run ((Database.fresh {}).afterAll overflowingSession)).1 =
        .error (.storage fault) := by
  intro e
  have hrefused : isStorageFault (e.run ((Database.fresh {}).afterAll overflowingSession)).1 =
      true := by decide +kernel
  have hnumber :
      e.operation.HasNumber ((Database.fresh {}).afterAll overflowingSession).tables := by
    intro run new hop
    exact nomatch hop
  exact ⟨rfl, hnumber, by constructor <;> decide +kernel, isStorageFault_iff.mp hrefused⟩

end PrintFarm
