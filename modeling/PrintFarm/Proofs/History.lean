import PrintFarm.Proofs.Accepted

/-!
# Histories

The program is used by one operation after the other.  An `Event` is an operation with the time and
the failure reasons it is done with, `Database.afterAll` is the database after a list of events, and
`Database.history` is the list of the `Moment`s at which they happened, each with the database it
met.  What was asked for and what was answered in the past is read off the history.

* A fresh database has no rows.  Its sequences are arbitrary, so that nothing depends on which
  identifiers and numbers are drawn.
* `Database.Sound` holds after every list of events (`sound_afterAll`).
* An accepted event is a `Step`, and a refused one leaves the tables as they were
  (`Event.step_or_refused`).  `Database.history_induction` is the induction over histories.
-/

namespace PrintFarm

open Tx

variable {α : Type}

/-- An operation with the failure reasons and the time it is done with. -/
structure Event (α : Type) where
  catalog : Catalog
  now : Timestamp
  operation : Operation α

/-- An event and the database it met. -/
structure Moment (α : Type) where
  event : Event α
  before : Database α

/-- A database without rows. -/
def Database.fresh (sequences : Sequences) : Database α :=
  ⟨{}, sequences⟩

variable [Scalar α]

/-- What holds of a database between events. -/
structure Database.Sound (db : Database α) : Prop where
  consistent : db.tables.Consistent
  ordered : db.tables.deductions.Pairwise fun d e => d.number < e.number
  drawn : ∀ d ∈ db.tables.deductions, d.number ≤ db.sequences.journal

namespace Database.Sound

variable {db db' : Database α}

theorem fresh (sequences : Sequences) : (Database.fresh sequences : Database α).Sound :=
  ⟨.empty, List.Pairwise.nil, by simp [Database.fresh]⟩

/-- The rows that are added have later numbers than those that are there. -/
theorem grows (h : db.Sound) (hdb' : db'.tables.Consistent) (hgrows : db.Grows db') :
    db'.Sound := by
  obtain ⟨hdrawn, rows, heq, hordered, hnew⟩ := hgrows
  refine ⟨hdb', ?_, ?_⟩
  · rw [heq]
    refine List.pairwise_append.mpr ⟨h.ordered, hordered, fun d hd e he => ?_⟩
    have hd := h.drawn d hd
    have he := (hnew e he).1
    omega
  · intro d hd
    rw [heq] at hd
    rcases List.mem_append.mp hd with hd | hd
    · have hd := h.drawn d hd
      omega
    · exact (hnew d hd).2

end Database.Sound

namespace Event

/-- What the event answers, and the database it leaves. -/
def run (e : Event α) (db : Database α) : Except (Refusal α) (Answer α) × Database α :=
  (e.operation.perform e.catalog e.now).run db

/-- The database after the event. -/
def after (e : Event α) (db : Database α) : Database α :=
  (e.run db).2

/-- An event is accepted, and then it is a step, or refused, and then no row changes. -/
theorem step_or_refused (e : Event α) {db : Database α} (h : db.Sound) :
    (∃ answer, (e.run db).1 = .ok answer ∧
      Step e.catalog e.now db.tables e.operation (e.after db).tables) ∨
    (∃ why, (e.run db).1 = .error why ∧ (e.after db).tables = db.tables) := by
  rcases gives_or_refuses (e.operation.perform e.catalog e.now) db with
    ⟨answer, db', hrun⟩ | ⟨why, db', hrun⟩
  · refine Or.inl ⟨answer, congrArg Prod.fst hrun, ?_⟩
    rw [after, run, hrun]
    exact (Operation.perform_step h.consistent hrun).1
  · refine Or.inr ⟨why, congrArg Prod.fst hrun, ?_⟩
    rw [after, run, hrun]
    exact Operation.perform_refused hrun

/-- What comes of an event is what comes of the workflow it calls. -/
theorem run_cases (e : Event α) {db : Database α} {β : Type} {body : Tx α β} {answer : β → Answer α}
    {outcome : Except (Refusal α) (Answer α) → Tables α → Prop}
    (hperform : e.operation.perform e.catalog e.now = answer <$> body)
    (hgives : ∀ b db', Gives body db b db' → outcome (.ok (answer b)) db'.tables)
    (hrefuses : ∀ why, Refuses body db why (e.after db) → outcome (.error why) db.tables) :
    outcome (e.run db).1 (e.after db).tables := by
  rcases gives_or_refuses body db with ⟨b, db', h⟩ | ⟨why, db', h⟩
  · have hrun : Gives (e.operation.perform e.catalog e.now) db (answer b) db' :=
      hperform ▸ gives_map.mpr ⟨b, h, rfl⟩
    rw [after, run, hrun]
    exact hgives b db' h
  · have hrun : Refuses (e.operation.perform e.catalog e.now) db why db' :=
      hperform ▸ refuses_map.mpr h
    have hsame : db'.tables = db.tables := Operation.perform_refused hrun
    rw [after, run, hrun] at hrefuses ⊢
    rw [hsame]
    exact hrefuses why h

theorem sound_after (e : Event α) {db : Database α} (h : db.Sound) : (e.after db).Sound := by
  refine h.grows ?_ (Operation.perform_grows h.consistent e.operation)
  rcases e.step_or_refused h with ⟨_, -, hstep⟩ | ⟨_, -, hsame⟩
  · exact hstep.consistent h.consistent
  · rw [hsame]
    exact h.consistent

end Event

namespace Moment

/-- What the event was answered. -/
def outcome (m : Moment α) : Except (Refusal α) (Answer α) :=
  (m.event.run m.before).1

/-- The database after the event. -/
def after (m : Moment α) : Database α :=
  m.event.after m.before

/-- The event was accepted. -/
def isAccepted (m : Moment α) : Bool :=
  m.outcome.isOk

variable {m : Moment α}

theorem isAccepted_of_ok {answer : Answer α} (h : m.outcome = .ok answer) :
    m.isAccepted = true := by
  rw [isAccepted, h]
  rfl

theorem isAccepted_of_error {why : Refusal α} (h : m.outcome = .error why) :
    m.isAccepted = false := by
  rw [isAccepted, h]
  rfl

end Moment

namespace Database

/-- The database after one event and the other. -/
def afterAll (db : Database α) (events : List (Event α)) : Database α :=
  events.foldl (fun db e => e.after db) db

/-- The moments at which the events happened. -/
def history (db : Database α) : List (Event α) → List (Moment α)
  | [] => []
  | e :: events => ⟨e, db⟩ :: history (e.after db) events

theorem afterAll_append (db : Database α) (past later : List (Event α)) :
    db.afterAll (past ++ later) = (db.afterAll past).afterAll later :=
  List.foldl_append

theorem history_append (db : Database α) (past later : List (Event α)) :
    db.history (past ++ later) = db.history past ++ (db.afterAll past).history later := by
  induction past generalizing db with
  | nil => rfl
  | cons e past ih =>
    show ⟨e, db⟩ :: (e.after db).history (past ++ later) = _
    rw [ih]
    rfl

/-- What every event keeps is kept by a list of events. -/
theorem afterAll_induction {motive : Database α → Prop} {db : Database α} (hdb : motive db)
    (hevent : ∀ (e : Event α) (db : Database α), motive db → motive (e.after db))
    (events : List (Event α)) : motive (db.afterAll events) := by
  induction events generalizing db with
  | nil => exact hdb
  | cons e events ih => exact ih (hevent e db hdb)

theorem sound_afterAll {db : Database α} (h : db.Sound) (events : List (Event α)) :
    (db.afterAll events).Sound :=
  afterAll_induction h (fun e _ h => e.sound_after h) events

/-- Every event of a history met a sound database. -/
theorem sound_of_mem_history {start : Database α} (h : start.Sound) {events : List (Event α)}
    {m : Moment α} (hm : m ∈ start.history events) : m.before.Sound := by
  induction events generalizing start with
  | nil => exact absurd hm List.not_mem_nil
  | cons e events ih =>
    rcases List.mem_cons.mp hm with rfl | hm
    · exact h
    · exact ih (e.sound_after h) hm

/-- The induction over histories: the past grows at its end, by one moment after the other. -/
theorem history_induction {motive : List (Moment α) → Database α → Prop} {start : Database α}
    (hstart : start.Sound) (hempty : motive [] start)
    (hmoment : ∀ past (e : Event α) db, db.Sound → motive past db →
      motive (past ++ [⟨e, db⟩]) (e.after db))
    (events : List (Event α)) : motive (start.history events) (start.afterAll events) := by
  induction events using List.reverseRecOn with
  | nil => exact hempty
  | append_singleton events e ih =>
    rw [history_append, afterAll_append]
    exact hmoment _ e _ (sound_afterAll hstart events) ih

end Database

end PrintFarm
