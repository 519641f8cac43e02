import PrintFarm.Proofs.Decoding
import PrintFarm.Proofs.Refusing
import PrintFarm.Proofs.Surfaces

/-!
# What a failure leaves

A request or a command line that fails leaves all tables as they were, and the next run gets the
number that it would have got without it.

* The tables are put back where an operation is refused (`Event.tables_of_refused`), but the counter
  of runs is not.  `RunRequest.drawsNumber` says which requests get as far as drawing a number, and
  `Workflow.runNumber_createRun` that the counter goes on by one for those.
* So a refusal must come before a run gets its number, or not at all:
  `Workflow.runNumber_of_refuses_createRun` rests on `clean_createRun`, by which the tables take all
  that is left to add by then.  No check has seen the texts of the items, which the tables can still
  refuse; `RunRequest.SpoilsItem` excludes them.
* `Database.NumbersNext` tells the number of the next run, whatever happens before it is created.
* `Use.failed` takes requests and command lines to operations, and `failures_undone` puts all
  together.
-/

namespace PrintFarm

open Store Tx

variable {α β γ : Type}

/-! ## Creating runs -/

section Creating

variable [Scalar α] {now : Timestamp} {run : Uuid} {db db' : Database α} {why : Refusal α}

omit [Scalar α] in
theorem reads_findSpools (materials : List (NewMaterial α)) :
    (materials.forM fun m => do
      let _ ← expect (← spool? m.spool) (.notFound .spool m.spool) : Tx α PUnit).Reads := by
  induction materials with
  | nil => exact reads_pure _
  | cons m materials ih =>
    exact (Workflow.reads_findSpool m.spool).bind fun _ => ih

/-- Some item of the request has a text that cannot be stored, or a quantity that is no count. -/
def RunRequest.SpoilsItem (request : RunRequest α) : Prop :=
  ∃ i ∈ request.items, i.decodable = false

omit [Scalar α] in
theorem RunRequest.decodable_of_not_spoilsItem {request : RunRequest α}
    (hstorable : storableRun request.run = true) (hitems : ¬request.SpoilsItem) :
    request.decodable = true := by
  simp only [RunRequest.decodable, Bool.and_eq_true, List.all_eq_true]
  refine ⟨hstorable, fun i hi => ?_⟩
  cases h : i.decodable with
  | true => rfl
  | false => exact absurd ⟨i, hi, h⟩ hitems

/-- Nothing is wrong with the request before the row of the run is added, which draws the number. -/
def RunRequest.drawsNumber (request : RunRequest α) (t : Tables α) : Bool :=
  request.complaints.isEmpty &&
    request.materials.all (fun m => t.spools.any fun s => s.id = m.spool) &&
    storableRun request.run

theorem RunRequest.drawsNumber_iff {request : RunRequest α} {t : Tables α} :
    request.drawsNumber t = true ↔ request.complaints = [] ∧
      (∀ m ∈ request.materials, ∃ s ∈ t.spools, s.id = m.spool) ∧
      storableRun request.run = true := by
  simp [drawsNumber, and_assoc]

/-- The row of a run draws a number if its texts and its start can be stored, and what belongs to the
run draws none. -/
theorem Workflow.runNumber_addRun (request : RunRequest α) (db : Database α) :
    ((do
      let run ← Store.insertRun now request.run
      request.items.forM fun i => do
        let _ ← Store.insertItem now run.id i
      request.materials.forM fun m => do
        let _ ← Store.insertMaterial now run.id m m.estimatedTotal
      Store.snapshot run.id).run db).2.sequences.runNumber = db.sequences.runNumber +
        if storableRun request.run then 1 else 0 := by
  have hfill := fun run db => (Workflow.follows_fillRun
    (Database.Draws.admits fun _ h => h) now request run db).reaches.runNumber_eq (fun h => h rfl)
  cases hstorable : storableRun request.run with
  | false =>
    have hrefused : Refuses (Store.insertRun now request.run) db (.storage .insertRun) db :=
      refuses_bind.mpr (Or.inl (refuses_require.mpr ⟨hstorable, rfl, rfl⟩))
    rw [refuses_bind.mpr (Or.inl hrefused)]
    simp
  | true =>
    rcases gives_or_refuses (Store.insertRun now request.run) db with
      ⟨r, db₁, hrun⟩ | ⟨why, db₁, hrun⟩
    · rw [run_of_gives hrun, hfill]
      obtain ⟨-, -, -, -, -, rfl⟩ := gives_insertRun.mp hrun
      rfl
    · rw [refuses_bind.mpr (Or.inl hrun)]
      rcases refusesAfterDraw_insertRun now request.run db why db₁ hrun with ⟨-, hnot⟩ | rfl
      · exact absurd hstorable (by simp [hnot])
      · rfl

/-- The counter goes on by one where the request gets as far as the row of the run, whether the run
is created then or not. -/
theorem Workflow.runNumber_createRun (now : Timestamp) (request : RunRequest α)
    (db : Database α) : ((createRun now request).run db).2.sequences.runNumber =
      db.sequences.runNumber + if request.drawsNumber db.tables then 1 else 0 := by
  rw [createRun, sequences_atomically]
  rcases gives_or_refuses (check (refuseIfAny request.complaints)) db with
    ⟨_, _, hcheck⟩ | ⟨why, _, hcheck⟩
  · rw [run_of_gives hcheck]
    obtain ⟨hvalid, rfl⟩ := gives_check.mp hcheck
    rcases gives_or_refuses (request.materials.forM fun m => do
      let _ ← expect (← spool? m.spool) (.notFound .spool m.spool)) _ with
      ⟨_, _, hspools⟩ | ⟨why, _, hspools⟩
    · rw [run_of_gives hspools, runNumber_addRun]
      obtain rfl := gives_findSpools hspools
      have hfound := found_of_gives_findSpools hspools
      refine congrArg _ (if_congr (Iff.symm ?_) rfl rfl)
      rw [RunRequest.drawsNumber_iff, and_iff_right (refuseIfAny_eq_ok.mp hvalid),
        and_iff_right hfound]
    · obtain ⟨_, m, _, hsplit, -, hmissing, -⟩ := refuses_findSpools hspools
      rw [refuses_bind.mpr (Or.inl hspools), (reads_findSpools _).refuses hspools, if_neg, add_zero]
      intro hdraws
      obtain ⟨s, hs, hid⟩ := (RunRequest.drawsNumber_iff.mp hdraws).2.1 m (by simp [hsplit])
      exact hmissing s hs hid
  · rw [refuses_bind.mpr (Or.inl hcheck), (reads_check _).refuses hcheck, if_neg, add_zero]
    intro hdraws
    have hwhy := (refuses_check.mp hcheck).1
    rw [(RunRequest.drawsNumber_iff.mp hdraws).1] at hwhy
    cases hwhy

/-- Only the tables refuse a run that has drawn its number, and only for an item. -/
theorem Workflow.spoilsItem_of_refuses_createRun [StockScalar α] (hdb : db.Orderly)
    {request : RunRequest α} (hdraws : request.drawsNumber db.tables = true)
    (h : Refuses (createRun now request) db why db') (hdistinct : db'.sequences.Distinct) :
    request.SpoilsItem := by
  obtain ⟨hvalid, hspools, hstorable⟩ := RunRequest.drawsNumber_iff.mp hdraws
  by_contra hitems
  have hdecodable := RunRequest.decodable_of_not_spoilsItem hstorable hitems
  obtain ⟨db₁, hbody, -⟩ := refuses_atomically.mp h
  rcases refuses_bind.mp hbody with hrefused | ⟨_, _, hcheck, hsearch⟩
  · have hwhy := (refuses_check.mp hrefused).1
    rw [hvalid] at hwhy
    exact nomatch hwhy
  obtain ⟨-, rfl⟩ := gives_check.mp hcheck
  rcases refuses_bind.mp hsearch with hrefused | ⟨_, _, -, hcreate⟩
  · obtain ⟨_, m, _, hsplit, -, hmissing, -⟩ := refuses_findSpools hrefused
    obtain ⟨s, hs, hid⟩ := hspools m (by simp [hsplit])
    exact hmissing s hs hid
  -- the tables take all that is left to add
  obtain ⟨fault, rfl⟩ := refusedByTables_addRun now request _ _ _ hcreate
  exact clean_createRun hdb hdecodable fault _ h hdistinct

/-- A run that is not created is not counted, if its items are sound. -/
theorem Workflow.runNumber_of_refuses_createRun [StockScalar α] (hdb : db.Orderly)
    {request : RunRequest α} (hitems : ¬request.SpoilsItem)
    (h : Refuses (createRun now request) db why db') (hdistinct : db'.sequences.Distinct) :
    db'.sequences.runNumber = db.sequences.runNumber := by
  have hcounter := Workflow.runNumber_createRun now request db
  rw [h, if_neg fun hdraws => hitems (spoilsItem_of_refuses_createRun hdb hdraws h hdistinct)]
    at hcounter
  simpa using hcounter

/-- A run that is created gets the next number. -/
theorem Workflow.number_of_createRun {request : RunRequest α} {view : Snapshot α}
    (h : Gives (createRun now request) db view db') :
    view.run.number = Store.runNumber now (db.sequences.runNumber + 1) := by
  obtain ⟨r, hnumber, hnew, hruns, hview⟩ := shown_of_createRun h
  obtain ⟨s, hs, rfl, -⟩ := gives_snapshot.mp hview
  rw [hruns] at hs
  -- no other run has the identifier
  rcases List.mem_append.mp (List.mem_of_find?_eq_some hs) with hold | hadded
  · exact absurd (by simpa using List.find?_some hs) (hnew s hold)
  · obtain rfl := List.mem_singleton.mp hadded
    exact hnumber

end Creating

/-! ## Operations -/

/-- An operation that is refused changes no table. -/
theorem Event.tables_of_refused [Scalar α] {e : Event α} {db : Database α} {why : Refusal α}
    (h : (e.run db).1 = .error why) : (e.after db).tables = db.tables :=
  Operation.perform_refused (Prod.ext h rfl)

/-- A run is created at the moment, or one is to be created with an item that the tables refuse. -/
def Moment.CountsRun [Scalar α] (m : Moment α) : Prop :=
  ∃ request, m.event.operation = .createRun request ∧
    (m.isAccepted = true ∨ request.SpoilsItem)

section Counting

variable [Scalar α] [StockScalar α] {db : Database α}

/-- At all other moments the counter of runs stays. -/
theorem Event.runNumber_kept (e : Event α) (hdb : db.Orderly)
    (hquiet : ¬(Moment.mk e db).CountsRun) (hdistinct : (e.after db).sequences.Distinct) :
    (e.after db).sequences.runNumber = db.sequences.runNumber := by
  by_cases hop : ∃ request, e.operation = .createRun request
  · obtain ⟨request, hop⟩ := hop
    have hrefused : ∃ why, (e.run db).1 = .error why := by
      cases houtcome : (e.run db).1 with
      | error why => exact ⟨why, rfl⟩
      | ok answer =>
        exact absurd ⟨request, hop, Or.inl (Moment.isAccepted_of_ok houtcome)⟩ hquiet
    obtain ⟨why, hwhy⟩ := hrefused
    have hrefuses : Refuses (e.operation.perform e.catalog e.now) db why (e.after db) :=
      Prod.ext hwhy rfl
    rw [hop] at hrefuses
    exact Workflow.runNumber_of_refuses_createRun hdb
      (fun hspoils => hquiet ⟨request, hop, Or.inr hspoils⟩) (refuses_map.mp hrefuses) hdistinct
  · exact e.runNumber_after db fun request h => hop ⟨request, h⟩

omit [StockScalar α] in
theorem Database.draws_afterAll (db : Database α) (events : List (Event α)) :
    db.Draws (fun _ => True) (db.afterAll events) :=
  Database.afterAll_induction (motive := fun db' => db.Draws (fun _ => True) db')
    (Database.Draws.path.refl db) (fun e _ h => Database.Draws.path.trans h (e.draws _)) events

/-- While no run is counted, the counter of runs stays. -/
theorem Database.runNumber_afterAll (hdb : db.Orderly) (later : List (Event α))
    (hquiet : ∀ m ∈ db.history later, ¬m.CountsRun)
    (hdistinct : (db.afterAll later).sequences.Distinct) :
    (db.afterAll later).sequences.runNumber = db.sequences.runNumber := by
  induction later generalizing db with
  | nil => rfl
  | cons e later ih =>
    obtain ⟨hfirst, hrest⟩ := List.forall_mem_cons.mp hquiet
    have hearlier : (e.after db).sequences.Distinct :=
      (Database.draws_afterAll (e.after db) later).reaches.distinct hdistinct
    exact (ih (hdb.after e) hrest hdistinct).trans (e.runNumber_kept hdb hfirst hearlier)

end Counting

/-- Whatever else is done or refused in the meantime, the next run that is created is numbered by
the counter. -/
def Database.NumbersNext [Scalar α] (db : Database α) (counter : Int) : Prop :=
  ∀ (later : List (Event α)) (e : Event α) (request : RunRequest α) (view : Snapshot α),
    (∀ m ∈ db.history later, ¬m.CountsRun) → (db.afterAll later).sequences.Distinct →
    e.operation = .createRun request → (e.run (db.afterAll later)).1 = .ok (.snapshot view) →
    view.run.number = Store.runNumber e.now counter

theorem Database.Orderly.numbersNext [Scalar α] [StockScalar α] {db : Database α}
    (hdb : db.Orderly) : db.NumbersNext (db.sequences.runNumber + 1) := by
  intro later e request view hquiet hdistinct hop haccepted
  have hgives : Gives (e.operation.perform e.catalog e.now) (db.afterAll later)
      (.snapshot view) (e.after (db.afterAll later)) := Prod.ext haccepted rfl
  rw [hop] at hgives
  obtain ⟨shown, hcreated, hsame⟩ := gives_map.mp hgives
  obtain rfl := Answer.snapshot.inj hsame
  rw [Workflow.number_of_createRun hcreated, Database.runNumber_afterAll hdb later hquiet hdistinct]

/-! ## Requests -/

namespace Http

/-- The call that a request is answered with, or the answer if it asks for none. -/
def Request.asked (r : Request) : Except Reply Call :=
  match r.method with
  | .options => .error (.bare 200)
  | .head => r.call .get
  | method => r.call method

/-- Answers of calls have no status of failures. -/
theorem Call.status_reply (c : Call) (answer : Answer Float) : (c.reply answer).status < 400 := by
  have hsuccess : successStatus c.operation < 400 := by
    unfold successStatus
    split <;> decide
  unfold Call.reply
  split
  · exact (by decide : 200 < 400)
  · exact (by decide : 204 < 400)
  · exact hsuccess

theorem answer_failed {catalog : Catalog} {now : Timestamp} {r : Request} {method : Method}
    {db : Database Float} (h : 400 ≤ ((answer catalog now r method).run db).1.status) :
    ((answer catalog now r method).run db).2 = db ∨ ∃ c why, r.call method = .ok c ∧
      Refuses (c.operation.perform catalog now) db why
        ((answer catalog now r method).run db).2 := by
  unfold answer at h ⊢
  cases hcall : r.call method with
  | error reply => exact Or.inl rfl
  | ok call =>
    refine Or.inr ?_
    simp only [hcall, Call.perform, StateT.run_bind] at h ⊢
    rcases hrun : (call.operation.perform catalog now).run db with ⟨why | given, db'⟩
    · simp only [StateT.run, hrun]
      exact ⟨call, why, rfl, hrun⟩
    · simp only [StateT.run, hrun] at h
      exact absurd (call.status_reply given) (Nat.not_lt.mpr h)

/-- Where a request fails, nothing was done or its operation was refused. -/
theorem respond_failed {catalog : Catalog} {now : Timestamp} {r : Request} {db : Database Float}
    (h : 400 ≤ ((respond catalog now r).run db).1.status) :
    ((respond catalog now r).run db).2 = db ∨ ∃ c why, r.asked = .ok c ∧
      Refuses (c.operation.perform catalog now) db why ((respond catalog now r).run db).2 := by
  have hfailed := fun method => @answer_failed catalog now r method db
  unfold respond Request.asked at *
  generalize answer catalog now r = answered at h hfailed ⊢
  cases hmethod : r.method with
  | options => exact Or.inl rfl
  | _ =>
    rw [hmethod] at h
    exact hfailed _ h

/-- Only one call creates a run. -/
theorem call_createRun {r : Request} {query : String} {method : Method} {place : Place}
    {request : RunRequest Float} (h : call r query method place = .ok (.api (.createRun request))) :
    r.payload Api.runRequest = .ok request := by
  unfold call at h
  split at h
  all_goals
    simp [pure, Except.pure] at h
  case h_3 => exact h
  case h_18 id bed step =>
    obtain ⟨run, -, plate, -, h⟩ := h
    cases step <;> simp at h

/-- The quantities of a run that a request asks for are counts. -/
theorem Request.fitsCount_of_asked {r : Request} {request : RunRequest Float}
    (h : r.asked = .ok (.api (.createRun request))) :
    ∀ i ∈ request.items, fitsCount i.quantity = true := by
  have hcall : ∃ method, r.call method = .ok (.api (.createRun request)) := by
    unfold asked at h
    split at h
    · exact nomatch h
    · exact ⟨_, h⟩
    · exact ⟨_, h⟩
  obtain ⟨method, hcall⟩ := hcall
  have hpayload : r.payload Api.runRequest = .ok request := by
    unfold call at hcall
    split at hcall
    split at hcall
    · exact call_createRun hcall
    · exact nomatch hcall
  unfold payload at hpayload
  split at hpayload
  · unfold decoded at hpayload
    split at hpayload
    · exact Api.yields_runRequest.decode (Json.mapError_eq_ok.mp hpayload)
    · exact nomatch hpayload
  · exact nomatch hpayload

end Http

/-! ## Command lines -/

/-- The database after at most one operation that was refused and was not to create a run. -/
def RefusedOnce (db db' : Database Float) : Prop :=
  db' = db ∨ ∃ (e : Event Float) (why : Refusal Float),
    (∀ request, e.operation ≠ .createRun request) ∧ (e.run db).1 = .error why ∧ db' = e.after db

namespace Act

variable {x : Act β} {f : β → Act γ}

/-- Where the part of a command ends in a fault, at most one operation was refused. -/
def FailsOnce (act : Act β) : Prop :=
  ∀ w : Workplace, (act.run.run w).1.isOk = false →
    RefusedOnce w.database (act.run.run w).2.database

theorem Keeps.failsOnce (h : x.Keeps) : x.FailsOnce :=
  fun w _ => Or.inl (h w)

theorem Keeps.bind_failsOnce (hx : x.Keeps) (hf : ∀ b, (f b).FailsOnce) :
    (x >>= f).FailsOnce := by
  intro w hfails
  have hfirst := hx w
  simp only [ExceptT.run_bind, StateT.run_bind] at hfails ⊢
  rcases hrun : x.run.run w with ⟨fault | b, w₁⟩
  · rw [hrun] at hfirst
    exact Or.inl hfirst
  · rw [hrun] at hfirst hfails
    rw [← hfirst]
    exact hf b w₁ hfails

/-- What is checked is known afterwards. -/
theorem failsOnce_check {ε : Type} {fault : ε → CommandFault} {outcome : Except ε β}
    (hf : ∀ b, outcome = .ok b → (f b).FailsOnce) : (check fault outcome >>= f).FailsOnce := by
  cases outcome with
  | ok b => exact hf b rfl
  | error e => exact fun w _ => Or.inl rfl

/-- Printing does not fail. -/
theorem FailsOnce.bind_print {text : β → String} (hx : x.FailsOnce) :
    (x >>= fun b => print (text b)).FailsOnce := by
  intro w hfails
  have hfirst := hx w
  simp only [ExceptT.run_bind, StateT.run_bind] at hfails ⊢
  rcases hrun : x.run.run w with ⟨fault | b, w₁⟩
  · rw [hrun] at hfirst
    exact hfirst rfl
  · rw [hrun] at hfails
    exact nomatch hfails

theorem failsOnce_perform {op : Operation Float} (hop : ∀ request, op ≠ .createRun request)
    (catalog : Catalog) (now : Timestamp) :
    (onDatabase (op.perform catalog now)).FailsOnce := by
  intro w hfails
  rw [onDatabase_after]
  rcases hrun : (op.perform catalog now).run w.database with ⟨why | answer, db⟩
  · exact Or.inr ⟨⟨catalog, now, op⟩, why, hop, congrArg Prod.fst hrun,
      congrArg Prod.snd hrun.symm⟩
  · have hok : ((onDatabase (op.perform catalog now)).run.run w).1.isOk = true := by
      show ((check CommandFault.refused _).run.run _).1.isOk = _
      simp only [StateT.run, hrun]
      rfl
    rw [hok] at hfails
    exact nomatch hfails

end Act

/-- No task creates a run. -/
theorem Task.operation_ne_createRun {t : Task} {op : Operation Float} (h : t.operation = .ok op)
    (request : RunRequest Float) : op ≠ .createRun request := by
  rintro rfl
  cases t with
  | listRuns status => exact nomatch h
  | spools => exact nomatch h
  | _ =>
    obtain ⟨_, -, h⟩ := Json.map_eq_ok.mp h
    exact nomatch h

open Act in
theorem Task.failsOnce_execute (s : Surroundings) (databaseUrl : Option String) (t : Task) :
    (t.execute s databaseUrl).FailsOnce := by
  refine (s.keeps_settings databaseUrl).bind_failsOnce fun settings => ?_
  have hrest : ∀ catalog, (do
      s.connect settings.storage
      printLines t.remarks
      let operation ← check id t.operation
      let answer ← onDatabase (operation.perform catalog s.now)
      print (t.report answer) : Act Unit).FailsOnce := by
    intro catalog
    refine (s.keeps_connect _).bind_failsOnce fun _ => (keeps_print _).bind_failsOnce fun _ => ?_
    refine failsOnce_check fun operation h => FailsOnce.bind_print ?_
    exact failsOnce_perform (operation_ne_createRun h) catalog s.now
  split
  · exact keeps_get.bind_failsOnce fun w => (keeps_check _ _).bind_failsOnce hrest
  · exact hrest _

theorem Invocation.failsOnce_execute (s : Surroundings) (i : Invocation) :
    (i.execute s).FailsOnce := by
  unfold execute
  cases i.command with
  | writeSettings file force => exact (file.keeps_put s force).failsOnce
  | prepareDatabase => exact (s.keeps_prepareDatabase i.databaseUrl).failsOnce
  | listReasons => exact (s.keeps_listReasons i.databaseUrl).failsOnce
  | task t => exact t.failsOnce_execute s i.databaseUrl

/-- Where a command line fails, at most one operation was refused. -/
theorem execute_failed {s : Surroundings} {args : List String} {w : Workplace}
    (h : ((execute s args).run w).1.code ≠ 0) :
    RefusedOnce w.database ((execute s args).run w).2.database := by
  unfold execute at h ⊢
  cases hargs : Invocation.ofArguments? args with
  | none => exact Or.inl rfl
  | some i =>
    have hfails := i.failsOnce_execute s w
    simp only [hargs, StateT.run_bind] at h ⊢
    rcases hrun : (i.execute s).run.run w with ⟨fault | _, w'⟩
    · rw [hrun] at hfails
      exact hfails rfl
    · rw [hrun] at h
      exact absurd rfl h

/-! ## Any use -/

/-- A use fails: the request is answered with the status of a failure, or the command line ends with
another exit code than zero. -/
def Use.Fails (db : Database Float) : Use → Prop
  | .request catalog now r => 400 ≤ ((Http.respond catalog now r).run db).1.status
  | .command s args files printed => ((execute s args).run ⟨files, db, printed⟩).1.code ≠ 0

/-- A use is to create a run with an item whose texts cannot be stored. -/
def Use.SpoilsItem : Use → Prop
  | .request _ _ r => ∃ request, r.asked = .ok (.api (.createRun request)) ∧
    ∃ i ∈ request.items, allStorable [i.modelName, i.bedPosition] = false
  | .command .. => False

/-- Where a use fails, at most one operation was refused, and the use spoils an item if that
operation does. -/
theorem Use.failed {u : Use} {db : Database Float} (h : u.Fails db) :
    u.after db = db ∨ ∃ (e : Event Float) (why : Refusal Float), (e.run db).1 = .error why ∧
      u.after db = e.after db ∧
      ∀ request, e.operation = .createRun request → request.SpoilsItem → u.SpoilsItem := by
  cases u with
  | request catalog now r =>
    rcases Http.respond_failed h with hsame | ⟨c, why, hasked, hrefuses⟩
    · exact Or.inl hsame
    refine Or.inr ⟨⟨catalog, now, c.operation⟩, why, congrArg Prod.fst hrefuses,
      congrArg Prod.snd hrefuses.symm, fun request hop hspoils => ?_⟩
    have hcall : r.asked = .ok (.api (.createRun request)) := by
      cases c with
      | index => exact nomatch hop
      | api operation =>
        obtain rfl : operation = .createRun request := hop
        exact hasked
    obtain ⟨i, hi, hdecodable⟩ := hspoils
    have hfits := Http.Request.fitsCount_of_asked hcall i hi
    exact ⟨request, hcall, i, hi, by simpa [NewItem.decodable, hfits] using hdecodable⟩
  | command s args files printed =>
    rcases execute_failed h with hsame | ⟨e, why, hop, hrefused, hafter⟩
    · exact Or.inl hsame
    · exact Or.inr ⟨e, why, hrefused, hafter, fun request h => absurd h (hop request)⟩

/-- A run cannot be completed if it has used more of a spool than that holds. -/
theorem Event.refused_of_short {e : Event Float} {db : Database Float}
    (hdb : db.tables.Consistent) {run : Uuid} (hop : e.operation = .completeRun run)
    {u : SpoolUsage Float} (hu : u ∈ positiveUsage (Workflow.consumed (db.tables.linesOf run)))
    {s : Spool Float} (hs : s ∈ db.tables.spools) (hid : s.id = u.spool)
    (hshort : Scalar.lt s.weight u.grams = true) : ∃ why, (e.run db).1 = .error why := by
  cases houtcome : (e.run db).1 with
  | error why => exact ⟨why, rfl⟩
  | ok answer =>
    have hgives : Gives (e.operation.perform e.catalog e.now) db answer (e.after db) :=
      Prod.ext houtcome rfl
    have hends : e.operation.ends? = some run := by
      rw [hop]
      rfl
    obtain ⟨r, _, _, _, rows, rfl, -, -, hcloses, hrows, -⟩ :=
      (Operation.perform_step hdb hgives).1.closes hends
    rw [hop] at hcloses
    cases hcloses
    -- the journal would tell that there was enough
    obtain ⟨d, -, hd⟩ := exists_of_forall₂ (List.Forall₂.flip hrows) hu
    obtain ⟨q, hq, hqid, hweight⟩ := hd.stock
    obtain rfl : q = s := eq_of_key_eq hdb.spoolIds hq hs (hqid.trans (hd.spool_eq.trans hid.symm))
    have henough := hd.enough
    rw [← hweight, hd.grams_eq, hshort] at henough
    exact nomatch henough

/-- Whatever operations were performed before, a request or a command line that fails leaves all
tables as they were.  Unless it is to create a run with an item whose texts cannot be stored, and if
no identifier is drawn twice, the next run gets the number that it would have got.  The completion
of a run fails if the run has used more of any spool than that holds. -/
theorem failures_undone (start : Sequences) (hstart : 0 ≤ start.runNumber)
    (events : List (Event Float)) :
    let db := (Database.fresh start).afterAll events
    (∀ u : Use, u.Fails db → (u.after db).tables = db.tables ∧
      (¬u.SpoilsItem → (u.after db).sequences.Distinct →
        db.NumbersNext (db.sequences.runNumber + 1) ∧
        (u.after db).NumbersNext (db.sequences.runNumber + 1))) ∧
    ∀ (e : Event Float) (run : Uuid) (u : SpoolUsage Float) (s : Spool Float),
      e.operation = .completeRun run →
      u ∈ positiveUsage (Workflow.consumed (db.tables.linesOf run)) →
      s ∈ db.tables.spools → s.id = u.spool → Scalar.lt s.weight u.grams = true →
      (∃ why, (e.run db).1 = .error why) ∧ (e.after db).tables = db.tables := by
  intro db
  have horderly : db.Orderly := orderly_afterAll hstart events
  refine ⟨fun u hfails => ?_, fun e run u s hop hu hs hid hshort => ?_⟩
  · rcases u.failed hfails with hsame | ⟨e, why, hrefused, hafter, hcreate⟩
    · rw [hsame]
      exact ⟨rfl, fun _ _ => ⟨horderly.numbersNext, horderly.numbersNext⟩⟩
    · rw [hafter]
      refine ⟨e.tables_of_refused hrefused, fun hitems hdistinct => ⟨horderly.numbersNext, ?_⟩⟩
      have hquiet : ¬(Moment.mk e db).CountsRun := by
        intro hcounts
        obtain ⟨request, hop, haccepted | hspoils⟩ := hcounts
        · rw [Moment.isAccepted, Moment.outcome, hrefused] at haccepted
          exact absurd haccepted Bool.false_ne_true
        · exact hitems (hcreate request hop hspoils)
      rw [← e.runNumber_kept horderly hquiet hdistinct]
      exact (horderly.after e).numbersNext
  · obtain ⟨why, hwhy⟩ := Event.refused_of_short horderly.consistent hop hu hs hid hshort
    exact ⟨⟨why, hwhy⟩, e.tables_of_refused hwhy⟩

/-- A run uses two spools, and more of the second one than it holds. -/
def shortSession : List (Event Float) :=
  let item : NewItem Float := ⟨.numbered 9 1, none, 1, none, none, none⟩
  let material (n : Nat) : NewMaterial Float := ⟨.numbered 1 n, 10.0, none, none⟩
  let request : RunRequest Float :=
    ⟨⟨none, 0.0, none, none, none, none, none⟩, [item], [material 1, material 2]⟩
  let measured (grams : Float) : MeasurementRequest Float := ⟨some grams, none, none⟩
  [.createSpool ⟨"PLA", "PLA", none, 100.0, 0.02⟩, .createSpool ⟨"PETG", "PETG", none, 100.0, 0.03⟩,
    .createRun request,
    .recordActual (.numbered 2 1) (.numbered 4 1) (measured 10.0),
    .recordActual (.numbered 2 1) (.numbered 4 2) (measured 120.0)].map
    (Event.mk .builtin ⟨1767225600, 0⟩)

/-- The run cannot be completed from the command line either, and the next run is the second one. -/
theorem short_completion_undone :
    let db := (Database.fresh {}).afterAll shortSession
    let e : Event Float := ⟨.builtin, ⟨1767225600, 0⟩, .completeRun (.numbered 2 1)⟩
    let u : Use := .command ⟨⟨1767225600, 0⟩, fun _ => none, "/settings", fun _ => true⟩
      ["complete", "20000000-0000-4000-8000-000000000001"] ⟨[], []⟩ ""
    u.Fails db ∧ (u.after db).tables = db.tables ∧ (u.after db).NumbersNext 2 ∧
      ∃ why, (e.run db).1 = .error why := by
  intro db e u
  obtain ⟨huses, hshort⟩ := failures_undone {} (by decide) shortSession
  have hfails : u.Fails db := by
    show ((execute _ _).run _).1.code ≠ 0
    decide +kernel
  have hdistinct : (u.after db).sequences.Distinct := by constructor <;> decide +kernel
  have hcounter : db.sequences.runNumber + 1 = 2 := by decide +kernel
  obtain ⟨hsame, hnumbers⟩ := huses u hfails
  have hnext := (hnumbers id hdistinct).2
  rw [hcounter] at hnext
  have hused : ∃ v ∈ positiveUsage (Workflow.consumed (db.tables.linesOf (.numbered 2 1))),
      ∃ s ∈ db.tables.spools, s.id = v.spool ∧ Scalar.lt s.weight v.grams = true := by
    decide +kernel
  obtain ⟨v, hv, s, hs, hid, hlt⟩ := hused
  exact ⟨hfails, hsame, hnext, (hshort e _ v s rfl hv hs hid hlt).1⟩

/-- The text that a run was numbered with, if one was created. -/
def createdNumber (e : Event Float) (db : Database Float) : Option String :=
  match (e.run db).1 with
  | .ok (.snapshot view) => some view.run.number
  | _ => none

/-- A run whose item has a zero character in the name of its model is not created, but the run after
it misses a number. -/
theorem spoiled_item_counted :
    let run : NewRun Float := ⟨none, 0.0, none, none, none, none, none⟩
    let creation (name : Option String) : Event Float :=
      ⟨.builtin, ⟨1772323200, 0⟩,
        .createRun ⟨run, [⟨.numbered 9 1, name, 1, none, none, none⟩], []⟩⟩
    ((creation (some "a\x00b")).run (Database.fresh {})).1.isOk = false ∧
      createdNumber (creation none) (Database.fresh {}) = some "RUN-20260301-0001" ∧
      createdNumber (creation none) ((creation (some "a\x00b")).after (Database.fresh {})) =
        some "RUN-20260301-0002" := by
  decide +kernel

end PrintFarm
