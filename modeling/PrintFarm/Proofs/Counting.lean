import PrintFarm.Proofs.Atomicity
import PrintFarm.Proofs.Creating

/-!
# How runs are counted

Runs are numbered by one counter that never goes back, neither with the clock nor where an operation
is refused.  Its text is behind the last hyphen of the number, and it is never cut off, so no two
runs get one number.

* `Spells` says how a number is written, and that the counter reads back from it.
* `assignedNumbers` are the numbers that were given to runs.  `missedNumbers` counts those that were
  drawn for runs which the tables refused for an item.
* `runNumber_counted` finds the counter where these two lead it.
* `births` are the times and the counters with which runs were created, and the counters ascend
  (`ascending_births`).  `runs_counted` puts all together.
-/

namespace PrintFarm

open Store Tx

variable {α : Type}

/-! ## How numbers are written -/

/-- The number has the day and the digits of the counter, with zeros in front of them up to four.
The counter reads back from what is behind the last hyphen. -/
structure Spells (number : String) (now : Timestamp) (counter : Nat) : Prop where
  text_eq : number = "RUN-" ++ now.dayNumber ++ "-" ++
    String.ofList (List.replicate (4 - (Nat.toDigits 10 counter).length) '0' ++
      Nat.toDigits 10 counter)
  read_eq : Nat.ofDigitChars 10 (afterHyphen number.toList) 0 = counter

theorem spells_runNumber (now : Timestamp) (counter : Nat) :
    Spells (Store.runNumber now counter) now counter where
  text_eq := by
    have hdigits : Text.zeroPadded 4 counter = String.ofList
        (List.replicate (4 - (Nat.toDigits 10 counter).length) '0' ++ Nat.toDigits 10 counter) :=
      String.toList_injective (by rw [toList_zeroPadded, String.toList_ofList])
    rw [runNumber_eq, hdigits]
  read_eq := ofDigitChars_runNumber now counter

/-! ## One moment -/

section Moments

variable [Scalar α]

namespace Moment

/-- The number of the run that is created at the moment. -/
def assigned? (m : Moment α) : Option String :=
  match m.event.operation, m.outcome with
  | .createRun _, .ok (.snapshot view) => some view.run.number
  | _, _ => none

/-- At the moment a number is drawn for a run with an item that the tables refuse. -/
def missesNumber (m : Moment α) : Bool :=
  match m.event.operation with
  | .createRun request =>
    request.drawsNumber m.before.tables && request.items.any fun i => !i.decodable
  | _ => false

variable {m : Moment α}

/-- What comes of creating a run. -/
theorem gives_or_refuses_createRun {request : RunRequest α}
    (hop : m.event.operation = .createRun request) :
    (∃ view, m.outcome = .ok (.snapshot view) ∧
      Gives (Workflow.createRun m.event.now request) m.before view m.after) ∨
    ∃ why, m.outcome = .error why ∧
      Refuses (Workflow.createRun m.event.now request) m.before why m.after := by
  have hrun : ∀ {outcome db'}, m.event.run m.before = (outcome, db') →
      m.outcome = outcome ∧ m.after = db' :=
    fun h => ⟨congrArg Prod.fst h, congrArg Prod.snd h⟩
  have hperform : m.event.operation.perform m.event.catalog m.event.now =
      Answer.snapshot <$> Workflow.createRun m.event.now request := by
    rw [hop]
    rfl
  rcases gives_or_refuses (Workflow.createRun m.event.now request) m.before with
    ⟨view, db', h⟩ | ⟨why, db', h⟩
  · obtain ⟨houtcome, hafter⟩ := hrun (hperform ▸ gives_map.mpr ⟨view, h, rfl⟩)
    exact Or.inl ⟨view, houtcome, hafter ▸ h⟩
  · obtain ⟨houtcome, hafter⟩ := hrun (hperform ▸ refuses_map.mpr h)
    exact Or.inr ⟨why, houtcome, hafter ▸ h⟩

theorem exists_of_assigned? {number : String} (h : m.assigned? = some number) :
    ∃ request view, m.event.operation = .createRun request ∧ view.run.number = number ∧
      Gives (Workflow.createRun m.event.now request) m.before view m.after := by
  unfold assigned? at h
  split at h
  · rename_i request view hop hok
    have hgives : Gives (m.event.operation.perform m.event.catalog m.event.now) m.before
        (.snapshot view) m.after := Prod.ext hok rfl
    rw [hop] at hgives
    obtain ⟨view', hcreated, hview⟩ := gives_map.mp hgives
    obtain rfl := Answer.snapshot.inj hview
    exact ⟨request, view, hop, Option.some.inj h, hcreated⟩
  · exact nomatch h

theorem runNumber_of_assigned? {number : String} (h : m.assigned? = some number) :
    number = Store.runNumber m.event.now (m.before.sequences.runNumber + 1) ∧
      m.after.sequences.runNumber = m.before.sequences.runNumber + 1 ∧ m.missesNumber = false := by
  obtain ⟨request, view, hop, rfl, hcreated⟩ := exists_of_assigned? h
  obtain ⟨hvalid, hspools, hdecodable⟩ := Workflow.decodable_of_createRun hcreated
  obtain ⟨htexts, hitems⟩ := Bool.and_eq_true_iff.mp hdecodable
  have hdraws : request.drawsNumber m.before.tables = true :=
    RunRequest.drawsNumber_iff.mpr ⟨hvalid, hspools, htexts⟩
  have hcounter := Workflow.runNumber_createRun m.event.now request m.before
  rw [hcreated, if_pos hdraws] at hcounter
  refine ⟨Workflow.number_of_createRun hcreated, hcounter, ?_⟩
  simp only [missesNumber, hop, Bool.and_eq_false_imp, List.any_eq_false]
  intro _ i hi
  simp [List.all_eq_true.mp hitems i hi]

/-- Where no run is created, the counter goes on only past a number that is missed. -/
theorem runNumber_of_not_assigned [StockScalar α] (hdb : m.before.Orderly)
    (hdistinct : m.after.sequences.Distinct) (h : m.assigned? = none) :
    m.after.sequences.runNumber =
      m.before.sequences.runNumber + if m.missesNumber then 1 else 0 := by
  by_cases hop : ∃ request, m.event.operation = .createRun request
  · obtain ⟨request, hop⟩ := hop
    rcases gives_or_refuses_createRun hop with ⟨view, hok, -⟩ | ⟨why, -, hrefused⟩
    · rw [assigned?, hop, hok] at h
      exact nomatch h
    have hcounter := Workflow.runNumber_createRun m.event.now request m.before
    rw [hrefused] at hcounter
    rw [hcounter]
    refine congrArg _ (if_congr ⟨fun hdraws => ?_, fun hmisses => ?_⟩ rfl rfl)
    · obtain ⟨i, hi, hspoils⟩ :=
        Workflow.spoilsItem_of_refuses_createRun hdb hdraws hrefused hdistinct
      simp only [missesNumber, hop, hdraws, Bool.true_and]
      exact List.any_eq_true.mpr ⟨i, hi, by simp [hspoils]⟩
    · simp only [missesNumber, hop, Bool.and_eq_true] at hmisses
      exact hmisses.1
  · have hkept : m.after.sequences.runNumber = m.before.sequences.runNumber :=
      m.event.runNumber_after m.before fun request h => hop ⟨request, h⟩
    have hquiet : m.missesNumber = false := by
      unfold missesNumber
      split
      · rename_i request hcreate
        exact absurd ⟨request, hcreate⟩ hop
      · rfl
    rw [hquiet, hkept]
    simp

end Moment

end Moments

/-! ## Every history -/

section Histories

variable [Scalar α]

/-- The numbers that were given to runs, in the order of creation. -/
def assignedNumbers (past : List (Moment α)) : List String :=
  past.filterMap Moment.assigned?

/-- How many numbers were drawn for runs that the tables refused for an item. -/
def missedNumbers (past : List (Moment α)) : Nat :=
  past.countP Moment.missesNumber

theorem assignedNumbers_concat (past : List (Moment α)) (m : Moment α) :
    assignedNumbers (past ++ [m]) = assignedNumbers past ++ m.assigned?.toList := by
  rw [assignedNumbers, List.filterMap_append]
  cases h : m.assigned? <;> simp [assignedNumbers, h]

theorem missedNumbers_concat (past : List (Moment α)) (m : Moment α) :
    missedNumbers (past ++ [m]) = missedNumbers past + if m.missesNumber then 1 else 0 := by
  simp [missedNumbers, List.countP_append, List.countP_singleton]

/-- The counter is where the numbers that were assigned and those that were missed have led it. -/
theorem runNumber_counted [StockScalar α] {start : Sequences} (hstart : 0 ≤ start.runNumber)
    (events : List (Event α))
    (hdistinct : ((Database.fresh start : Database α).afterAll events).sequences.Distinct) :
    ((Database.fresh start : Database α).afterAll events).sequences.runNumber = start.runNumber +
      (assignedNumbers ((Database.fresh start).history events)).length +
      missedNumbers ((Database.fresh start).history events) := by
  induction events using List.reverseRecOn with
  | nil => simp [Database.afterAll, Database.history, Database.fresh, assignedNumbers,
      missedNumbers]
  | append_singleton events e ih =>
    rw [Database.afterAll_append] at hdistinct ⊢
    rw [Database.history_append]
    have horderly : ((Database.fresh start).afterAll events).Orderly :=
      orderly_afterAll hstart events
    generalize (Database.fresh start).afterAll events = db at *
    generalize (Database.fresh start).history events = past at *
    have hearlier := ih ((e.draws db).reaches.distinct hdistinct)
    show (Moment.mk e db).after.sequences.runNumber = start.runNumber +
      (assignedNumbers (past ++ [⟨e, db⟩])).length + missedNumbers (past ++ [⟨e, db⟩])
    rw [assignedNumbers_concat, missedNumbers_concat, List.length_append]
    cases hassigned : (Moment.mk e db).assigned? with
    | some number =>
      obtain ⟨-, hnext, hmisses⟩ := Moment.runNumber_of_assigned? hassigned
      simp [hnext, hmisses, hearlier]
      omega
    | none =>
      rw [Moment.runNumber_of_not_assigned (m := ⟨e, db⟩) horderly hdistinct hassigned]
      simp [hearlier]
      split <;> omega

/-! ### Ascending counters -/

/-- The time and the counter with which a run was created. -/
structure Birth where
  now : Timestamp
  counter : Nat

/-- The number that the run was given. -/
def Birth.number (b : Birth) : String :=
  Store.runNumber b.now b.counter

/-- A run that is created at the moment. -/
def Moment.birth? (m : Moment α) : Option Birth :=
  m.assigned?.map fun _ => ⟨m.event.now, (m.before.sequences.runNumber + 1).toNat⟩

/-- The runs that were created, one after the other. -/
def births (past : List (Moment α)) : List Birth :=
  past.filterMap Moment.birth?

theorem births_concat (past : List (Moment α)) (m : Moment α) :
    births (past ++ [m]) = births past ++ m.birth?.toList := by
  rw [births, List.filterMap_append]
  cases h : m.birth? <;> simp [births, h]

/-- Each run has a counter above those of the runs before it, and none is above the last one. -/
structure Ascending (born : List Birth) (last : Int) : Prop where
  counters : born.Pairwise fun older newer => older.counter < newer.counter
  drawn : ∀ b ∈ born, (b.counter : Int) ≤ last

section Ascending

variable {born : List Birth} {last : Int}

theorem Ascending.mono (h : Ascending born last) {later : Int} (hlater : last ≤ later) :
    Ascending born later :=
  ⟨h.counters, fun b hb => Int.le_trans (h.drawn b hb) hlater⟩

/-- The next counter is above all others. -/
theorem Ascending.concat (h : Ascending born last) {newest : Birth}
    (hnewest : (newest.counter : Int) = last + 1) : Ascending (born ++ [newest]) (last + 1) := by
  refine ⟨List.pairwise_append.mpr ⟨h.counters, List.pairwise_singleton _ _, ?_⟩,
    List.forall_mem_append.mpr ⟨(h.mono (by omega)).drawn, ?_⟩⟩
  · intro b hb _ hmem
    obtain rfl := List.mem_singleton.mp hmem
    have hbefore := h.drawn b hb
    omega
  · exact List.forall_mem_singleton.mpr (Int.le_of_eq hnewest)

/-- Runs with ascending counters have different numbers. -/
theorem Ascending.nodup_numbers (h : Ascending born last) : (born.map Birth.number).Nodup := by
  rw [List.Nodup, List.pairwise_map]
  exact h.counters.imp fun hlt hsame => hlt.ne (runNumber_inj hsame)

end Ascending

/-- Numbers are assigned with ascending counters, whatever the clock does. -/
theorem ascending_births {start : Sequences} (hstart : 0 ≤ start.runNumber)
    (events : List (Event α)) :
    Ascending (births ((Database.fresh start).history events))
        ((Database.fresh start : Database α).afterAll events).sequences.runNumber ∧
      assignedNumbers ((Database.fresh start).history events) =
        (births ((Database.fresh start).history events)).map Birth.number := by
  have hinvariant := Database.history_induction
    (motive := fun past (db : Database α) => 0 ≤ db.sequences.runNumber ∧
      Ascending (births past) db.sequences.runNumber ∧
      assignedNumbers past = (births past).map Birth.number)
    (.fresh start) ⟨hstart, ⟨List.Pairwise.nil, nofun⟩, rfl⟩ ?_ events
  · exact hinvariant.2
  intro past e db _ h
  obtain ⟨hnonneg, hascending, hnumbers⟩ := h
  have hlater : db.sequences.runNumber ≤ (e.after db).sequences.runNumber :=
    (e.draws db).reaches.within.runNumber
  refine ⟨Int.le_trans hnonneg hlater, ?_⟩
  rw [assignedNumbers_concat, births_concat, Moment.birth?]
  cases hassigned : (Moment.mk e db).assigned? with
  | none =>
    simp only [Option.map_none, Option.toList_none, List.append_nil]
    exact ⟨hascending.mono hlater, hnumbers⟩
  | some number =>
    obtain ⟨hnumber, hnext, -⟩ := Moment.runNumber_of_assigned? hassigned
    have hcounter : ((db.sequences.runNumber + 1).toNat : Int) = db.sequences.runNumber + 1 := by
      omega
    simp only [Option.map_some, Option.toList_some, List.map_append, List.map_cons, List.map_nil,
      Birth.number, hcounter, hnumbers, hnumber]
    have hafter : (e.after db).sequences.runNumber = db.sequences.runNumber + 1 := hnext
    rw [hafter]
    exact ⟨hascending.concat hcounter, trivial⟩

/-- Whatever operations were performed and refused before, and whatever the clock did, no two runs
were given one number.  As long as no identifier is drawn twice, the next run that is created gets
the number after all that were assigned and missed.  A creation that is refused leaves the counter
where it is, unless nothing is wrong with it but an item that the tables refuse. -/
theorem runs_counted [StockScalar α] (start : Sequences) (hstart : 0 ≤ start.runNumber)
    (events : List (Event α)) :
    let past := (Database.fresh start).history events
    let db := (Database.fresh start).afterAll events
    (assignedNumbers past).Nodup ∧
    ∀ (e : Event α) (request : RunRequest α), e.operation = .createRun request →
      (e.after db).sequences.Distinct →
      let m : Moment α := ⟨e, db⟩
      if m.isAccepted then
        m.missesNumber = false ∧ ∃ number, m.assigned? = some number ∧ Spells number e.now
          (start.runNumber.toNat + ((assignedNumbers past).length + 1) + missedNumbers past)
      else
        m.after.sequences.runNumber = db.sequences.runNumber + if m.missesNumber then 1 else 0 := by
  intro past db
  obtain ⟨hascending, hnumbers⟩ := ascending_births hstart events
  refine ⟨hnumbers ▸ hascending.nodup_numbers, ?_⟩
  intro e request hop hdistinct m
  have horderly : db.Orderly := orderly_afterAll hstart events
  rcases Moment.gives_or_refuses_createRun (m := m) hop with
    ⟨view, hok, -⟩ | ⟨why, herror, -⟩
  · have hassigned : m.assigned? = some view.run.number := by
      rw [Moment.assigned?, hop, hok]
    rw [if_pos (Moment.isAccepted_of_ok hok)]
    obtain ⟨hnumber, -, hmisses⟩ := Moment.runNumber_of_assigned? hassigned
    refine ⟨hmisses, _, hassigned, ?_⟩
    have hcounter : db.sequences.runNumber =
        start.runNumber + (assignedNumbers past).length + missedNumbers past :=
      runNumber_counted hstart events ((e.draws db).reaches.distinct hdistinct)
    have hnext : db.sequences.runNumber + 1 = ((start.runNumber.toNat +
        ((assignedNumbers past).length + 1) + missedNumbers past : Nat) : Int) := by
      omega
    rw [hnumber, hnext]
    exact spells_runNumber _ _
  · have hnone : m.assigned? = none := by
      rw [Moment.assigned?, hop, herror]
    rw [if_neg (by simp [Moment.isAccepted_of_error herror])]
    exact Moment.runNumber_of_not_assigned horderly hdistinct hnone

end Histories

/-- A run for one print of a model that goes by the name is asked for. -/
def creationOf (name : Option String) (seconds : Int) : Event Float :=
  ⟨.builtin, ⟨seconds, 0⟩, .createRun
    ⟨⟨none, 0.0, none, none, none, none, none⟩, [⟨.numbered 9 1, name, 1, none, none, none⟩], []⟩⟩

/-- The last number with four digits is assigned, and the first with five is missed. -/
def wideningSession : List (Event Float) :=
  [creationOf none 1772409600, creationOf (some "a\x00b") 1772409600]

/-- The next run has a number with five digits, also if it is created the day before. -/
theorem widened_number_assigned :
    let start : Sequences := { runNumber := 9998 }
    let db := (Database.fresh start).afterAll wideningSession
    let e := creationOf none 1772323200
    (0 : Int) ≤ start.runNumber ∧ (e.after db).sequences.Distinct ∧
      ∃ number, Moment.assigned? ⟨e, db⟩ = some number ∧ number = "RUN-20260301-10001" ∧
        Spells number e.now 10001 := by
  intro start db e
  have hstart : (0 : Int) ≤ start.runNumber := by decide
  have hdistinct : (e.after db).sequences.Distinct := by constructor <;> decide +kernel
  have haccepted : (Moment.mk e db).isAccepted = true := by decide +kernel
  have hcounts : start.runNumber.toNat +
      ((assignedNumbers ((Database.fresh start).history wideningSession)).length + 1) +
      missedNumbers ((Database.fresh start).history wideningSession) = 10001 := by decide +kernel
  have hcounted := (runs_counted start hstart wideningSession).2 e _ rfl hdistinct
  rw [if_pos haccepted, hcounts] at hcounted
  obtain ⟨-, number, hassigned, hspells⟩ := hcounted
  have hread : Moment.assigned? ⟨e, db⟩ = some "RUN-20260301-10001" := by decide +kernel
  exact ⟨hstart, hdistinct, number, hassigned, Option.some.inj (hassigned.symm.trans hread),
    hspells⟩

/-- After a creation that failed for a zero character in the name of the model, the first run that
is created has the second number. -/
theorem first_number_missed :
    let past := (Database.fresh {}).history
      [creationOf (some "a\x00b") 1772323200, creationOf none 1772323200]
    past.map Moment.isAccepted = [false, true] ∧ assignedNumbers past = ["RUN-20260301-0002"] ∧
      Store.runNumber ⟨1772323200, 0⟩ (({} : Sequences).runNumber + 1) = "RUN-20260301-0001" := by
  decide +kernel

end PrintFarm
