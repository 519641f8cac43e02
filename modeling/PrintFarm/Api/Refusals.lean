import PrintFarm.Api.Rows
import PrintFarm.Refusal.Message

/-!
# Refusals as JSON

A refusal is answered with a status, its code and message, and details that depend on its kind.
-/

namespace PrintFarm

open Json (Value)

/-- A field and what is wrong with it. -/
def FieldError.value (e : FieldError Float) : Value :=
  .record [("field", .text e.field), ("message", .text e.problem.message)]

namespace Refusal

/-- The status with which a refusal is answered. -/
def status : Refusal Float → Nat
  | invalid _ => 422
  | notFound .. => 404
  | illegalTransition .. | insufficientStock .. | concurrentModification .. => 409
  | storage _ => 500

/-- The details of a refusal. Those of the tables are kept back. -/
def details : Refusal Float → Value
  | invalid fields => .list (fields.map FieldError.value)
  | illegalTransition entity id current action =>
    .record [("entity", .text entity.word), ("id", Api.uuidValue id), ("current", .text current),
      ("action", .text action)]
  | notFound entity id => .record [("entity", .text entity.word), ("id", Api.uuidValue id)]
  | insufficientStock spool requested available =>
    .record [("spool_id", Api.uuidValue spool), ("requested", .real requested),
      ("available", .real available)]
  | concurrentModification entity id expected actual =>
    .record [("entity", .text entity.word), ("id", Api.uuidValue id),
      ("expected", .text expected), ("actual", .text actual)]
  | storage _ => .null

/-- The body with which a refusal is answered. -/
def body (r : Refusal Float) : Value :=
  .record [("code", .text r.code), ("message", .text r.message), ("details", r.details)]

/-- The fields that a refusal names. -/
def fields : Refusal Float → List (FieldError Float)
  | invalid fields => fields
  | _ => []

end Refusal

end PrintFarm
