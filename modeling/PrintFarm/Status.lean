import PrintFarm.Text.Quoted

/-!
# Statuses and other words of a fixed set

Each word that a column or a request may hold is a constructor here. `word` is how it is written,
and `ofWord?` reads exactly what `word` writes. `unknown` is the complaint about another word.
-/

namespace PrintFarm

/-- Where a run stands. -/
inductive RunStatus
  | inProgress
  | completed
  | failed
  | cancelled
  deriving DecidableEq, Repr

namespace RunStatus

def word : RunStatus → String
  | inProgress => "in_progress"
  | completed => "completed"
  | failed => "failed"
  | cancelled => "cancelled"

def ofWord? : String → Option RunStatus
  | "in_progress" => some inProgress
  | "completed" => some completed
  | "failed" => some failed
  | "cancelled" => some cancelled
  | _ => none

def unknown (s : String) : String :=
  "invalid run status: " ++ Text.quoted s

/-- A run that has ended never changes its status again. -/
def isTerminal : RunStatus → Bool
  | inProgress => false
  | _ => true

/-- A run ends once, in any of three ways. -/
def canBecome (current next : RunStatus) : Bool :=
  !current.isTerminal && next.isTerminal

theorem ofWord?_word (s : RunStatus) : ofWord? s.word = some s := by
  cases s <;> rfl

end RunStatus

/-- Where a plate stands. -/
inductive PlateStatus
  | pending
  | printing
  | completed
  | failed
  | cancelled
  deriving DecidableEq, Repr

namespace PlateStatus

def word : PlateStatus → String
  | pending => "pending"
  | printing => "printing"
  | completed => "completed"
  | failed => "failed"
  | cancelled => "cancelled"

def ofWord? : String → Option PlateStatus
  | "pending" => some pending
  | "printing" => some printing
  | "completed" => some completed
  | "failed" => some failed
  | "cancelled" => some cancelled
  | _ => none

def unknown (s : String) : String :=
  "invalid plate status: " ++ Text.quoted s

def isTerminal : PlateStatus → Bool
  | completed | failed | cancelled => true
  | pending | printing => false

/-- A pending plate can be started, and a plate that has not ended can end in any of three ways. -/
def canBecome : PlateStatus → PlateStatus → Bool
  | pending, printing => true
  | current, next => !current.isTerminal && next.isTerminal

theorem ofWord?_word (s : PlateStatus) : ofWord? s.word = some s := by
  cases s <;> rfl

end PlateStatus

/-- What becomes of the filament that a cancelled run has used: nothing was used, or what is
reported for each spool is deducted. -/
inductive CancelMode
  | fullReversal
  | recordPartial
  deriving DecidableEq, Repr

namespace CancelMode

def word : CancelMode → String
  | fullReversal => "full_reversal"
  | recordPartial => "record_partial"

def ofWord? : String → Option CancelMode
  | "full_reversal" => some fullReversal
  | "record_partial" => some recordPartial
  | _ => none

def unknown (s : String) : String :=
  "invalid cancel mode: " ++ Text.quoted s ++ " (expected full_reversal or record_partial)"

theorem ofWord?_word (m : CancelMode) : ofWord? m.word = some m := by
  cases m <;> rfl

end CancelMode

/-- How an actual weight was found: entered by hand, or by weighing the spool before and after. -/
inductive EntryMode
  | manual
  | weighing
  deriving DecidableEq, Repr

namespace EntryMode

def word : EntryMode → String
  | manual => "manual"
  | weighing => "weighing"

def ofWord? : String → Option EntryMode
  | "manual" => some manual
  | "weighing" => some weighing
  | _ => none

theorem ofWord?_word (m : EntryMode) : ofWord? m.word = some m := by
  cases m <;> rfl

end EntryMode

/-- Why filament left a spool: a completed run consumed it, a cancelled run had used it, or a
failed run wasted it. -/
inductive DeductionReason
  | consumption
  | partialUsage
  | waste
  deriving DecidableEq, Repr

namespace DeductionReason

def word : DeductionReason → String
  | consumption => "consumption"
  | partialUsage => "partial_usage"
  | waste => "waste"

def ofWord? : String → Option DeductionReason
  | "consumption" => some consumption
  | "partial_usage" => some partialUsage
  | "waste" => some waste
  | _ => none

theorem ofWord?_word (r : DeductionReason) : ofWord? r.word = some r := by
  cases r <;> rfl

end DeductionReason

end PrintFarm
