import Mathlib
import PrintFarm.Store.Basic

/-!
# What a computation on the database gives and refuses

A computation on a database either gives an answer or refuses, and leaves a database behind in both
cases.  `Tx.Gives` and `Tx.Refuses` name the two cases, and the lemmas below take a computation
apart along its binds.

* `gives_bind` and `refuses_bind` are the only lemmas about sequencing.  They hold in both
  directions: read from left to right they invert a computation that has ended, read from right to
  left they carry one out.
* `Reads` says that a computation only reads, and is kept by sequencing.
* `gives_forM` carries an invariant along a list.
* `gives_atomically` and `refuses_atomically` say what a transaction is: all of the body, or none of
  its changes to the tables.
-/

namespace PrintFarm.Tx

variable {α β γ : Type}

/-- `body` gives `b` on `db` and leaves `db'`. -/
def Gives (body : Tx α β) (db : Database α) (b : β) (db' : Database α) : Prop :=
  body.run db = (.ok b, db')

/-- `body` refuses because of `why` on `db` and leaves `db'`. -/
def Refuses (body : Tx α β) (db : Database α) (why : Refusal α) (db' : Database α) : Prop :=
  body.run db = (.error why, db')

/-- A computation gives or refuses. -/
theorem gives_or_refuses (body : Tx α β) (db : Database α) :
    (∃ b db', Gives body db b db') ∨ ∃ why db', Refuses body db why db' := by
  rcases h : body.run db with ⟨_ | b, db'⟩
  · exact Or.inr ⟨_, db', h⟩
  · exact Or.inl ⟨b, db', h⟩

/-- Computations that do the same are the same. -/
theorem ext {x y : Tx α β} (h : ∀ db, x.run db = y.run db) : x = y := by
  cases x
  cases y
  congr
  exact funext h

/-- A bind goes on where its first part gives, and ends where it refuses. -/
theorem run_bind (x : Tx α β) (f : β → Tx α γ) (db : Database α) :
    (x >>= f).run db = match x.run db with
      | (.ok b, db₁) => (f b).run db₁
      | (.error why, db₁) => (.error why, db₁) :=
  rfl

instance : LawfulMonad (Tx α) := LawfulMonad.mk' (Tx α)
  (fun x => ext fun db => by
    show (x >>= pure).run db = _
    rw [run_bind]
    rcases x.run db with ⟨_ | b, db₁⟩ <;> rfl)
  (fun _ _ => rfl)
  (fun x f g => ext fun db => by
    rw [run_bind, run_bind, run_bind]
    rcases x.run db with ⟨_ | b, db₁⟩ <;> rfl)

/-! ## Steps without a database -/

section Steps

variable {db db' : Database α} {b b' : β} {c : γ} {why why' : Refusal α}

@[simp] theorem gives_pure : Gives (pure b : Tx α β) db b' db' ↔ b' = b ∧ db' = db := by
  constructor
  · intro h
    cases h
    exact ⟨rfl, rfl⟩
  · intro h
    obtain ⟨rfl, rfl⟩ := h
    rfl

@[simp] theorem refuses_pure : ¬Refuses (pure b : Tx α β) db why db' :=
  fun h => nomatch h

@[simp] theorem gives_refuse : ¬Gives (refuse why : Tx α β) db b db' :=
  fun h => nomatch h

@[simp] theorem refuses_refuse :
    Refuses (refuse why : Tx α β) db why' db' ↔ why' = why ∧ db' = db := by
  constructor
  · intro h
    cases h
    exact ⟨rfl, rfl⟩
  · intro h
    obtain ⟨rfl, rfl⟩ := h
    rfl

@[simp] theorem gives_check {outcome : Except (Refusal α) β} :
    Gives (check outcome) db b db' ↔ outcome = .ok b ∧ db' = db := by
  cases outcome <;> simp [check, eq_comm]

@[simp] theorem refuses_check {outcome : Except (Refusal α) β} :
    Refuses (check outcome) db why db' ↔ outcome = .error why ∧ db' = db := by
  cases outcome <;> simp [check, eq_comm]

@[simp] theorem gives_expect {value : Option β} :
    Gives (expect value why) db b db' ↔ value = some b ∧ db' = db := by
  cases value <;> simp [expect, eq_comm]

@[simp] theorem gives_require {holds : Bool} {fault : StorageFault} {u : Unit} :
    Gives (require holds fault) db u db' ↔ holds = true ∧ db' = db := by
  cases holds <;> simp [require]

/-! ## Steps on the database -/

@[simp] theorem gives_tables {t : Tables α} :
    Gives tables db t db' ↔ t = db.tables ∧ db' = db := by
  constructor
  · intro h
    cases h
    exact ⟨rfl, rfl⟩
  · intro h
    obtain ⟨rfl, rfl⟩ := h
    rfl

@[simp] theorem refuses_tables : ¬Refuses (tables : Tx α _) db why db' :=
  fun h => nomatch h

@[simp] theorem gives_changeTables {f : Tables α → Tables α} {u : Unit} :
    Gives (changeTables f) db u db' ↔ db' = { db with tables := f db.tables } := by
  constructor
  · intro h
    cases h
    rfl
  · intro h
    obtain rfl := h
    rfl

@[simp] theorem gives_draw {d : Draw} {s : Sequences} :
    Gives (draw d) db s db' ↔
      s = db.sequences.draw d ∧ db' = { db with sequences := db.sequences.draw d } := by
  constructor
  · intro h
    cases h
    exact ⟨rfl, rfl⟩
  · intro h
    obtain ⟨rfl, rfl⟩ := h
    rfl

/-! ## Sequencing -/

@[simp] theorem gives_bind {x : Tx α β} {f : β → Tx α γ} :
    Gives (x >>= f) db c db' ↔ ∃ b db₁, Gives x db b db₁ ∧ Gives (f b) db₁ c db' := by
  unfold Gives
  rw [run_bind]
  constructor
  · intro h
    rcases hx : x.run db with ⟨_ | b, db₁⟩
    · rw [hx] at h
      exact nomatch h
    · rw [hx] at h
      exact ⟨b, db₁, rfl, h⟩
  · intro h
    obtain ⟨b, db₁, hx, hf⟩ := h
    rw [hx]
    exact hf

theorem refuses_bind {x : Tx α β} {f : β → Tx α γ} :
    Refuses (x >>= f) db why db' ↔
      Refuses x db why db' ∨ ∃ b db₁, Gives x db b db₁ ∧ Refuses (f b) db₁ why db' := by
  unfold Refuses Gives
  rw [run_bind]
  constructor
  · intro h
    rcases hx : x.run db with ⟨_ | b, db₁⟩
    · rw [hx] at h
      cases h
      exact Or.inl rfl
    · rw [hx] at h
      exact Or.inr ⟨b, db₁, rfl, h⟩
  · intro h
    rcases h with hx | ⟨b, db₁, hx, hf⟩
    · rw [hx]
    · rw [hx]
      exact hf

/-- What is given is what goes on. -/
theorem run_of_gives {x : Tx α β} {f : β → Tx α γ} {db₁ : Database α} (h : Gives x db b db₁) :
    (x >>= f).run db = (f b).run db₁ := by
  rw [run_bind, h]

@[simp] theorem gives_map {x : Tx α β} {f : β → γ} :
    Gives (f <$> x) db c db' ↔ ∃ b, Gives x db b db' ∧ c = f b := by
  rw [map_eq_pure_bind, gives_bind]
  constructor
  · intro h
    obtain ⟨b, db₁, hx, hc⟩ := h
    obtain ⟨rfl, rfl⟩ := gives_pure.mp hc
    exact ⟨b, hx, rfl⟩
  · intro h
    obtain ⟨b, hx, rfl⟩ := h
    exact ⟨b, db', hx, gives_pure.mpr ⟨rfl, rfl⟩⟩

@[simp] theorem refuses_map {x : Tx α β} {f : β → γ} :
    Refuses (f <$> x) db why db' ↔ Refuses x db why db' := by
  rw [map_eq_pure_bind, refuses_bind]
  simp

@[simp] theorem gives_ite {p : Prop} [Decidable p] {x y : Tx α β} :
    Gives (if p then x else y) db b db' ↔ p ∧ Gives x db b db' ∨ ¬p ∧ Gives y db b db' := by
  by_cases h : p <;> simp [h]

/-- A check that is made only where `p` holds. -/
theorem gives_checkIf {p : Prop} [Decidable p] {outcome : Except (Refusal α) Unit} {k : Tx α β} :
    Gives (if p then (do check outcome; k) else k) db b db' ↔
      (p → outcome = .ok ()) ∧ Gives k db b db' := by
  by_cases h : p
  · simp only [if_pos h, gives_bind, gives_check]
    constructor
    · intro h
      obtain ⟨_, _, ⟨hok, rfl⟩, hk⟩ := h
      exact ⟨fun _ => hok, hk⟩
    · intro h
      obtain ⟨hok, hk⟩ := h
      exact ⟨(), db, ⟨hok h, rfl⟩, hk⟩
  · simp [h]

/-- Reading off the tables. -/
theorem gives_read (f : Tables α → β) :
    Gives (do return f (← tables)) db b db' ↔ b = f db.tables ∧ db' = db := by
  simp only [gives_bind, gives_tables, gives_pure]
  constructor
  · intro h
    obtain ⟨_, _, ⟨rfl, rfl⟩, rfl, rfl⟩ := h
    exact ⟨rfl, rfl⟩
  · intro h
    obtain ⟨rfl, rfl⟩ := h
    exact ⟨_, _, ⟨rfl, rfl⟩, rfl, rfl⟩

theorem refuses_read (f : Tables α → β) : ¬Refuses (do return f (← tables)) db why db' := by
  simp

/-- What is refused after reading is refused for what was read. -/
theorem refuses_bind_read {g : Tables α → β} {f : β → Tx α γ} :
    Refuses ((do return g (← tables)) >>= f) db why db' ↔
      Refuses (f (g db.tables)) db why db' := by
  rw [refuses_bind]
  constructor
  · intro h
    rcases h with h | ⟨b, db₁, hread, h⟩
    · exact absurd h (refuses_read g)
    · obtain ⟨rfl, rfl⟩ := (gives_read g).mp hread
      exact h
  · intro h
    exact Or.inr ⟨_, _, (gives_read g).mpr ⟨rfl, rfl⟩, h⟩

/-! ## Transactions -/

theorem run_atomically (body : Tx α β) (db : Database α) :
    (atomically body).run db = match body.run db with
      | (.ok b, after) => (.ok b, after)
      | (.error why, after) => (.error why, { after with tables := db.tables }) :=
  rfl

/-- What a transaction has drawn stays drawn, also where it is refused. -/
theorem sequences_atomically (body : Tx α β) (db : Database α) :
    ((atomically body).run db).2.sequences = (body.run db).2.sequences := by
  rw [run_atomically]
  rcases body.run db with ⟨_ | _, _⟩
  · rfl
  · rfl

@[simp] theorem gives_atomically {body : Tx α β} :
    Gives (atomically body) db b db' ↔ Gives body db b db' := by
  unfold Gives
  rw [run_atomically]
  rcases hx : body.run db with ⟨_ | b₁, db₁⟩
  · constructor <;> exact fun h => nomatch h
  · exact Iff.rfl

/-- A refused transaction leaves the tables as they were, and what was drawn stays drawn. -/
@[simp] theorem refuses_atomically {body : Tx α β} :
    Refuses (atomically body) db why db' ↔
      ∃ db₁, Refuses body db why db₁ ∧ db' = { db₁ with tables := db.tables } := by
  unfold Refuses
  rw [run_atomically]
  constructor
  · intro h
    rcases hx : body.run db with ⟨_ | b₁, db₁⟩
    · rw [hx] at h
      cases h
      exact ⟨db₁, rfl, rfl⟩
    · rw [hx] at h
      exact nomatch h
  · intro h
    obtain ⟨db₁, hx, rfl⟩ := h
    rw [hx]

end Steps

/-! ## Computations that only read -/

/-- Whatever `body` answers, it leaves the database as it is. -/
def Reads (body : Tx α β) : Prop :=
  ∀ db, (body.run db).2 = db

theorem Reads.gives {body : Tx α β} (h : body.Reads) {db db' : Database α} {b : β}
    (hb : Gives body db b db') : db' = db := by
  rw [← h db, hb]

theorem Reads.refuses {body : Tx α β} (h : body.Reads) {db db' : Database α} {why : Refusal α}
    (hb : Refuses body db why db') : db' = db := by
  rw [← h db, hb]

theorem reads_pure (b : β) : (pure b : Tx α β).Reads :=
  fun _ => rfl

theorem reads_tables : (tables : Tx α _).Reads :=
  fun _ => rfl

theorem reads_expect (value : Option β) (why : Refusal α) : (expect value why).Reads := by
  intro db
  cases value <;> rfl

theorem reads_require (holds : Bool) (fault : StorageFault) :
    (require holds fault : Tx α Unit).Reads := by
  intro db
  cases holds <;> rfl

theorem Reads.bind {x : Tx α β} {f : β → Tx α γ} (hx : x.Reads) (hf : ∀ b, (f b).Reads) :
    (x >>= f).Reads := by
  intro db
  have hdb := hx db
  rw [run_bind]
  rcases h : x.run db with ⟨why | b, db₁⟩
  · rwa [h] at hdb
  · rw [h] at hdb
    exact (hf b db₁).trans hdb

theorem Reads.map {x : Tx α β} (hx : x.Reads) (f : β → γ) : (f <$> x).Reads :=
  hx.bind fun _ => reads_pure _

theorem Reads.mapM {xs : List β} {f : β → Tx α γ} (hf : ∀ x, (f x).Reads) :
    (xs.mapM f).Reads := by
  induction xs with
  | nil => exact reads_pure _
  | cons x xs ih =>
    rw [List.mapM_cons]
    exact (hf x).bind fun _ => ih.bind fun _ => reads_pure _

/-! ## Lists of steps -/

/-- What every step of a list keeps, the whole list keeps. -/
theorem gives_forM {xs : List β} {f : β → Tx α PUnit} {db db' : Database α} {u : PUnit}
    (keeps : Database α → Prop)
    (hstep : ∀ x ∈ xs, ∀ db u db', keeps db → Gives (f x) db u db' → keeps db')
    (hdb : keeps db) (h : Gives (xs.forM f) db u db') : keeps db' := by
  induction xs generalizing db with
  | nil =>
    obtain ⟨-, rfl⟩ := gives_pure.mp h
    exact hdb
  | cons x xs ih =>
    obtain ⟨u₁, db₁, hx, hxs⟩ := gives_bind.mp h
    exact ih (fun y hy => hstep y (List.mem_cons_of_mem _ hy))
      (hstep x List.mem_cons_self _ _ _ hdb hx) hxs

end PrintFarm.Tx
