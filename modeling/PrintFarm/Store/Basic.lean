import PrintFarm.Deduction
import PrintFarm.Item
import PrintFarm.Material.Basic
import PrintFarm.Plate.Basic
import PrintFarm.Run.Basic
import PrintFarm.Spool

/-!
# Tables and transactions

A database is six tables, each a list of rows in the order of insertion, and the sequences from
which identifiers and numbers are drawn. No two rows of a table have the same identifier. A query
is a function on databases that may be refused. `Tx.atomically` undoes what a refused body has done
to the tables; a number that was drawn stays drawn.
-/

namespace PrintFarm

/-- The rows of a database. -/
structure Tables (α : Type) where
  spools : List (Spool α) := []
  runs : List (Run α) := []
  items : List (Item α) := []
  materials : List (Material α) := []
  plates : List (Plate α) := []
  deductions : List (Deduction α) := []

/-- How many identifiers were drawn for each table, and the last run number and journal number.
The first rows of a table get the identifiers that are listed for it. Numbers have no end here: the
end of a sequence of 64 bits, at which a draw is refused, is left out. -/
structure Sequences where
  presetSpools : List Uuid := []
  presetRuns : List Uuid := []
  presetItems : List Uuid := []
  presetMaterials : List Uuid := []
  presetPlates : List Uuid := []
  spools : Nat := 0
  runs : Nat := 0
  items : Nat := 0
  materials : Nat := 0
  plates : Nat := 0
  runNumber : Int := 0
  journal : Int := 0

/-- The `n`-th identifier of a table, counted from one: a listed one, or else the next in order. -/
def rowId (preset : List Uuid) (table n : Nat) : Uuid :=
  preset[n - 1]?.getD (Uuid.numbered table n)

namespace Sequences

/-- The identifier that was drawn last for a spool, and likewise for the other tables. -/
def spoolId (s : Sequences) : Uuid := rowId s.presetSpools 1 s.spools

def runId (s : Sequences) : Uuid := rowId s.presetRuns 2 s.runs

def itemId (s : Sequences) : Uuid := rowId s.presetItems 3 s.items

def materialId (s : Sequences) : Uuid := rowId s.presetMaterials 4 s.materials

def plateId (s : Sequences) : Uuid := rowId s.presetPlates 5 s.plates

end Sequences

/-- What can be drawn: an identifier for a row of a table, and for runs a number with it, or a
number for a row of the journal. -/
inductive Draw
  | spool
  | run
  | item
  | material
  | plate
  | deduction

namespace Sequences

/-- The sequences after a draw. -/
def draw (s : Sequences) : Draw → Sequences
  | .spool => { s with spools := s.spools + 1 }
  | .run => { s with runs := s.runs + 1, runNumber := s.runNumber + 1 }
  | .item => { s with items := s.items + 1 }
  | .material => { s with materials := s.materials + 1 }
  | .plate => { s with plates := s.plates + 1 }
  | .deduction => { s with journal := s.journal + 1 }

/-- No number is lower in `later` than in `s`. -/
structure Precedes (s later : Sequences) : Prop where
  runNumber : s.runNumber ≤ later.runNumber
  journal : s.journal ≤ later.journal

theorem Precedes.refl (s : Sequences) : s.Precedes s :=
  ⟨Int.le_refl _, Int.le_refl _⟩

theorem Precedes.trans {s t u : Sequences} (hst : s.Precedes t) (htu : t.Precedes u) :
    s.Precedes u :=
  ⟨Int.le_trans hst.runNumber htu.runNumber, Int.le_trans hst.journal htu.journal⟩

/-- A draw does not lower a number. -/
theorem precedes_draw (s : Sequences) (d : Draw) : s.Precedes (s.draw d) := by
  cases d <;> constructor <;> simp only [draw] <;> omega

end Sequences

/-- Tables and sequences. -/
structure Database (α : Type) where
  tables : Tables α
  sequences : Sequences

/-- The database before anything was registered. -/
def Database.empty {α : Type} : Database α := ⟨{}, {}⟩

/-- A computation on a database that may be refused. What it does to the tables is undone if it is
part of a refused transaction, but no number goes back in the sequences. -/
structure Tx (α β : Type) where
  run : StateM (Database α) (Except (Refusal α) β)
  forward : ∀ db : Database α, db.sequences.Precedes (run db).2.sequences

namespace Tx

variable {α β γ : Type}

/-- Gives `b`. -/
protected def pure (b : β) : Tx α β where
  run := fun db => (.ok b, db)
  forward := fun _ => .refl _

/-- Refuses. -/
def refuse (why : Refusal α) : Tx α β where
  run := fun db => (.error why, db)
  forward := fun _ => .refl _

/-- Goes on with what `x` gives, and ends where `x` refuses. -/
protected def bind (x : Tx α β) (f : β → Tx α γ) : Tx α γ where
  run := fun db =>
    match x.run db with
    | (.ok b, after) => (f b).run after
    | (.error why, after) => (.error why, after)
  forward := fun db => by
    have hx := x.forward db
    split
    · rename_i b after h
      rw [h] at hx
      exact hx.trans ((f b).forward after)
    · rename_i why after h
      rw [h] at hx
      exact hx

instance : Monad (Tx α) where
  pure := Tx.pure
  bind := Tx.bind

/-- The tables as they are. -/
def tables : Tx α (Tables α) where
  run := fun db => (.ok db.tables, db)
  forward := fun _ => .refl _

/-- Changes the tables. -/
def changeTables (f : Tables α → Tables α) : Tx α Unit where
  run := fun db => (.ok (), { db with tables := f db.tables })
  forward := fun _ => .refl _

/-- Draws, and gives the sequences as they are afterwards. -/
def draw (d : Draw) : Tx α Sequences where
  run := fun db => (.ok (db.sequences.draw d), { db with sequences := db.sequences.draw d })
  forward := fun db => db.sequences.precedes_draw d

/-- The outcome of a check that needs no database. -/
def check (outcome : Except (Refusal α) β) : Tx α β :=
  match outcome with
  | .ok b => pure b
  | .error why => refuse why

/-- A value that has to be there. -/
def expect (value : Option β) (why : Refusal α) : Tx α β :=
  match value with
  | some b => pure b
  | none => refuse why

/-- A rule of the tables that has to hold. -/
def require (holds : Bool) (fault : StorageFault) : Tx α Unit :=
  if holds then pure () else refuse (.storage fault)

/-- Does all of `body` or, if it is refused, nothing to the tables. -/
def atomically (body : Tx α β) : Tx α β where
  run := fun db =>
    match body.run db with
    | (.ok b, after) => (.ok b, after)
    | (.error why, after) => (.error why, { after with tables := db.tables })
  forward := fun db => by
    have h := body.forward db
    split
    · rename_i b after hrun
      rw [hrun] at h
      exact h
    · rename_i why after hrun
      rw [hrun] at h
      exact h

end Tx

/-- Columns of text hold any character but U+0000. -/
def storable (s : String) : Bool :=
  s.toList.all fun c => c.toNat != 0

/-- Whether all texts that are there can be stored. -/
def allStorable (texts : List (Option String)) : Bool :=
  texts.all fun t => t.all storable

/-- Changes the rows that are selected and leaves the others as they are. -/
def changeRows {ρ : Type} (selected : ρ → Bool) (change : ρ → ρ) (rows : List ρ) : List ρ :=
  rows.map fun r => if selected r then change r else r

/-- Puts a row before the first one that it may stand before. -/
def insertInOrder {ρ : Type} (mayPrecede : ρ → ρ → Bool) (row : ρ) : List ρ → List ρ
  | [] => [row]
  | r :: rows =>
    if mayPrecede row r then row :: r :: rows else r :: insertInOrder mayPrecede row rows

/-- The rows in an order. Those that may stand before each other stay as they are. -/
def inOrder {ρ : Type} (mayPrecede : ρ → ρ → Bool) (rows : List ρ) : List ρ :=
  rows.foldr (insertInOrder mayPrecede) []

/-- What a column of numbers holds of an optional value. -/
def storedOption {α : Type} [Scalar α] (x : Option α) : Option α :=
  x.bind Scalar.stored?

/-- Whether a number that is there is from zero up. -/
def isNotNegative {α : Type} [Scalar α] (x : Option α) : Bool :=
  x.all fun y => !Scalar.lt y Scalar.zero

end PrintFarm
