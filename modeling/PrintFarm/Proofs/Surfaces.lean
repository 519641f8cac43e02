import PrintFarm.Command.Execution
import PrintFarm.Http.Server
import PrintFarm.Proofs.History

/-!
# Requests and command lines are events

The database is used over HTTP and from the command line.  A request or a command line, whatever it
is, is at most one event to the database (`respond_after`, `execute_after`).  So any use of the
program in any order is a list of events (`Use.afterAll_eq`), and what holds after every list of
events holds of every database that the program can leave.
-/

namespace PrintFarm

/-- The database after a use is as it was, or it is the database after one event. -/
def AtMostOneEvent (db db' : Database Float) : Prop :=
  db' = db ∨ ∃ e : Event Float, db' = e.after db

/-! ## Requests -/

namespace Http

theorem answer_after (catalog : Catalog) (now : Timestamp) (r : Request) (method : Method)
    (db : Database Float) : AtMostOneEvent db ((answer catalog now r method).run db).2 := by
  unfold answer
  cases r.call method with
  | error reply => exact Or.inl rfl
  | ok call =>
    refine Or.inr ⟨⟨catalog, now, call.operation⟩, ?_⟩
    show ((call.perform catalog now).run db).2 = ((call.operation.perform catalog now).run db).2
    simp only [Call.perform, StateT.run_bind]
    rcases hrun : (call.operation.perform catalog now).run db with ⟨why | given, db'⟩
    all_goals
      simp only [StateT.run, hrun]
      rfl

/-- A request is at most one event. -/
theorem respond_after (catalog : Catalog) (now : Timestamp) (r : Request) (db : Database Float) :
    AtMostOneEvent db ((respond catalog now r).run db).2 := by
  have h := fun method => answer_after catalog now r method db
  unfold respond
  generalize answer catalog now r = answered at h ⊢
  cases r.method with
  | options => exact Or.inl rfl
  | head => exact h .get
  | _ => exact h _

end Http

/-! ## Command lines -/

namespace Act

variable {β γ : Type}

/-- The part of a command leaves the database as it is. -/
def Keeps (act : Act β) : Prop :=
  ∀ w : Workplace, (act.run.run w).2.database = w.database

/-- The part of a command is at most one event. -/
def Uses (act : Act β) : Prop :=
  ∀ w : Workplace, AtMostOneEvent w.database (act.run.run w).2.database

theorem Keeps.uses {act : Act β} (h : act.Keeps) : act.Uses :=
  fun w => Or.inl (h w)

theorem keeps_pure (b : β) : (pure b : Act β).Keeps :=
  fun _ => rfl

theorem keeps_throw (fault : CommandFault) : (throw fault : Act β).Keeps :=
  fun _ => rfl

theorem keeps_get : (get : Act Workplace).Keeps :=
  fun _ => rfl

theorem keeps_print (text : String) : (print text).Keeps :=
  fun _ => rfl

theorem keeps_check {ε : Type} (fault : ε → CommandFault) (outcome : Except ε β) :
    (check fault outcome).Keeps := by
  cases outcome with
  | ok b => exact keeps_pure b
  | error e => exact keeps_throw (fault e)

theorem keeps_ite {p : Prop} [Decidable p] {x y : Act β} (hx : x.Keeps) (hy : y.Keeps) :
    (if p then x else y).Keeps := by
  split
  · exact hx
  · exact hy

theorem Keeps.bind {x : Act β} {f : β → Act γ} (hx : x.Keeps) (hf : ∀ b, (f b).Keeps) :
    (x >>= f).Keeps := by
  intro w
  have hfirst := hx w
  simp only [ExceptT.run_bind, StateT.run_bind]
  rcases hrun : x.run.run w with ⟨fault | b, w₁⟩
  · rw [hrun] at hfirst
    exact hfirst
  · rw [hrun] at hfirst
    exact (hf b w₁).trans hfirst

/-- A guard that ends the command in a fault. -/
theorem keeps_guard {p : Prop} [Decidable p] {fault : CommandFault} {rest : PUnit → Act γ}
    (h : ∀ u, (rest u).Keeps) :
    (if p then (throw fault : Act PUnit) >>= rest else rest ⟨⟩).Keeps :=
  keeps_ite ((keeps_throw fault).bind h) (h ⟨⟩)

theorem uses_ite {p : Prop} [Decidable p] {x y : Act β} (hx : x.Uses) (hy : y.Uses) :
    (if p then x else y).Uses := by
  split
  · exact hx
  · exact hy

/-- What comes before an event may not touch the database. -/
theorem Keeps.bind_uses {x : Act β} {f : β → Act γ} (hx : x.Keeps) (hf : ∀ b, (f b).Uses) :
    (x >>= f).Uses := by
  intro w
  have hfirst := hx w
  simp only [ExceptT.run_bind, StateT.run_bind]
  rcases hrun : x.run.run w with ⟨fault | b, w₁⟩
  · rw [hrun] at hfirst
    exact Or.inl hfirst
  · rw [hrun] at hfirst
    rw [← hfirst]
    exact hf b w₁

/-- Nor may what comes after it. -/
theorem Uses.bind_keeps {x : Act β} {f : β → Act γ} (hx : x.Uses) (hf : ∀ b, (f b).Keeps) :
    (x >>= f).Uses := by
  intro w
  have hfirst := hx w
  simp only [ExceptT.run_bind, StateT.run_bind]
  rcases hrun : x.run.run w with ⟨fault | b, w₁⟩
  · rw [hrun] at hfirst
    exact hfirst
  · rw [hrun, ← hf b w₁] at hfirst
    exact hfirst

/-- What is done with the database is what the computation does. -/
theorem onDatabase_after (tx : Tx Float β) (w : Workplace) :
    ((onDatabase tx).run.run w).2.database = (tx.run w.database).2 := by
  show ((check CommandFault.refused _).run.run _).2.database = _
  rcases hrun : tx.run w.database with ⟨why | b, db⟩
  all_goals
    simp only [StateT.run, hrun]
    rfl

theorem uses_perform (op : Operation Float) (catalog : Catalog) (now : Timestamp) :
    (onDatabase (op.perform catalog now)).Uses := by
  intro w
  rw [onDatabase_after]
  exact Or.inr ⟨⟨catalog, now, op⟩, rfl⟩

theorem keeps_reads {tx : Tx Float β} (h : tx.Reads) : (onDatabase tx).Keeps := by
  intro w
  rw [onDatabase_after, h]

end Act

theorem Surroundings.keeps_settings (s : Surroundings) (databaseUrl : Option String) :
    (s.settings databaseUrl).Keeps :=
  Act.keeps_get.bind fun _ => Act.keeps_check _ _

theorem Surroundings.keeps_connect (s : Surroundings) (storage : StorageSettings) :
    (s.connect storage).Keeps :=
  Act.keeps_ite (Act.keeps_pure ()) (Act.keeps_throw _)

/-- Writing the settings leaves the database alone. -/
theorem SettingsFile.keeps_put (s : Surroundings) (file : SettingsFile) (force : Bool) :
    (file.put s force).Keeps := by
  have hwritten : ∀ files : Files,
      (modify fun w => { w with files := files } : Act PUnit).Keeps := fun _ _ => rfl
  refine Act.keeps_get.bind fun w => ?_
  refine Act.keeps_guard fun _ => Act.keeps_guard fun _ => Act.keeps_guard fun _ => ?_
  exact (hwritten _).bind fun _ => Act.keeps_print _

theorem reads_tableCounts : (Store.tableCounts : Tx Float _).Reads :=
  Tx.reads_tables.bind fun _ => Tx.reads_pure _

/-- Making sure of the database counts its rows and changes none. -/
theorem Surroundings.keeps_prepareDatabase (s : Surroundings) (databaseUrl : Option String) :
    (s.prepareDatabase databaseUrl).Keeps := by
  refine (s.keeps_settings databaseUrl).bind fun settings => ?_
  refine (Act.keeps_print _).bind fun _ => ?_
  refine Act.keeps_guard fun _ => Act.keeps_guard fun _ => ?_
  refine (Act.keeps_reads reads_tableCounts).bind fun counts => ?_
  exact (Act.keeps_print _).bind fun _ => Act.keeps_print _

theorem Surroundings.keeps_listReasons (s : Surroundings) (databaseUrl : Option String) :
    (do
      let settings ← s.settings databaseUrl
      let catalog ← Act.check id (settings.catalog (← get).files)
      Act.print (Report.reasonTable catalog) : Act Unit).Keeps := by
  refine (s.keeps_settings databaseUrl).bind fun settings => Act.keeps_get.bind fun w => ?_
  exact (Act.keeps_check _ _).bind fun catalog => Act.keeps_print _

/-- A task is at most one event: what comes before its operation does not touch the database. -/
theorem Task.uses_execute (s : Surroundings) (databaseUrl : Option String) (t : Task) :
    (t.execute s databaseUrl).Uses := by
  refine (s.keeps_settings databaseUrl).bind_uses fun settings => ?_
  refine Act.uses_ite
    (Act.keeps_get.bind_uses fun w => (Act.keeps_check _ _).bind_uses fun catalog => ?_)
    ((Act.keeps_pure Catalog.builtin).bind_uses fun catalog => ?_)
  all_goals
    refine (s.keeps_connect _).bind_uses fun _ => (Act.keeps_print _).bind_uses fun _ => ?_
    refine (Act.keeps_check _ _).bind_uses fun operation => ?_
    exact (Act.uses_perform operation catalog s.now).bind_keeps fun _ => Act.keeps_print _

theorem Invocation.uses_execute (s : Surroundings) (i : Invocation) : (i.execute s).Uses := by
  unfold execute
  cases i.command with
  | writeSettings file force => exact (file.keeps_put s force).uses
  | prepareDatabase => exact (s.keeps_prepareDatabase i.databaseUrl).uses
  | listReasons => exact (s.keeps_listReasons i.databaseUrl).uses
  | task t => exact t.uses_execute s i.databaseUrl

/-- A command line is at most one event. -/
theorem execute_after (s : Surroundings) (args : List String) (w : Workplace) :
    AtMostOneEvent w.database ((execute s args).run w).2.database := by
  unfold execute
  cases Invocation.ofArguments? args with
  | none => exact Or.inl rfl
  | some i =>
    have h := i.uses_execute s w
    simp only [StateT.run_bind]
    rcases hrun : (i.execute s).run.run w with ⟨fault | _, w'⟩
    all_goals
      rw [hrun] at h
      exact h

/-! ## Any use -/

/-- A use of the program: a request, or a command line that finds files and prints. -/
inductive Use
  | request (catalog : Catalog) (now : Timestamp) (r : Http.Request)
  | command (s : Surroundings) (args : List String) (files : Files) (printed : String)

/-- The database after a use. -/
def Use.after (db : Database Float) : Use → Database Float
  | .request catalog now r => ((Http.respond catalog now r).run db).2
  | .command s args files printed => ((execute s args).run ⟨files, db, printed⟩).2.database

/-- Any uses of the program are events to the database. -/
theorem Use.afterAll_eq (uses : List Use) (db : Database Float) :
    ∃ events : List (Event Float), uses.foldl Use.after db = db.afterAll events := by
  induction uses generalizing db with
  | nil => exact ⟨[], rfl⟩
  | cons use uses ih =>
    have hfirst : AtMostOneEvent db (use.after db) := by
      cases use with
      | request catalog now r => exact Http.respond_after catalog now r db
      | command s args files printed => exact execute_after s args ⟨files, db, printed⟩
    obtain ⟨events, hrest⟩ := ih (use.after db)
    rw [List.foldl_cons, hrest]
    rcases hfirst with hsame | ⟨e, hevent⟩
    · exact ⟨events, by rw [hsame]⟩
    · exact ⟨e :: events, by rw [hevent]; rfl⟩

end PrintFarm
