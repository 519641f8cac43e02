import PrintFarm.Material.Basic

/-!
# Measurements

The use of a material line is entered by hand, or found by weighing the spool before and after the
run. A request has to say exactly one of the two. What a line holds of its measurement decides
whether its run can be completed.
-/

namespace PrintFarm

/-- A measurement of what a line has used. -/
inductive Measurement (α : Type)
  | manual (grams : α)
  | weighing (before after : α)

/-- What a line keeps of a measurement. -/
structure Reading (α : Type) where
  mode : EntryMode
  actual : α
  before : Option α
  after : Option α

/-- The three fields of a request that records a measurement. -/
structure MeasurementRequest (α : Type) where
  manual : Option α
  before : Option α
  after : Option α

variable {α : Type}

/-- The measurement that a request asks for: a weight alone, or both weighings alone. -/
def MeasurementRequest.measurement (r : MeasurementRequest α) :
    Except (Refusal α) (Measurement α) :=
  match r.manual, r.before, r.after with
  | some grams, none, none => .ok (.manual grams)
  | none, some before, some after => .ok (.weighing before after)
  | none, some _, none => .error (.field "spool_weight_after_grams" .weighedAfterMissing)
  | none, none, some _ => .error (.field "spool_weight_before_grams" .weighedBeforeMissing)
  | none, none, none => .error (.field "actual_model_weight_grams" .noMeasurement)
  | some _, _, _ => .error (.field "actual_model_weight_grams" .twoMeasurements)

variable [Scalar α]

/-- What was used between two weighings. A spool does not gain weight. -/
def weightUsed (before after : α) : Except (Refusal α) α :=
  if Scalar.lt before after then
    .error (.field "spool_weight_after_grams" (.heavierAfter before after))
  else .ok (Scalar.positivePart (before - after))

/-- What a line keeps of the measurement, if its numbers make sense. -/
def Measurement.reading : Measurement α → Except (Refusal α) (Reading α)
  | manual grams =>
    if Scalar.isNonNegative grams then .ok ⟨.manual, grams, none, none⟩
    else .error (.field "actual_model_weight_grams" .noNonNegativeNumber)
  | weighing before after => do
    refuseIfAny
      (complaint (!Scalar.isNonNegative before) "spool_weight_before_grams" .noNonNegativeNumber ++
        complaint (!Scalar.isNonNegative after) "spool_weight_after_grams" .noNonNegativeNumber)
    let actual ← weightUsed before after
    .ok ⟨.weighing, actual, some before, some after⟩

/-- Why the use of a line cannot be told, if so. It can be told from both weighings, the first one
no less than the second, or from an entered weight above zero. -/
def Material.problem? (m : Material α) : Option MeasurementProblem :=
  match m.actualTotal with
  | none => some .notRecorded
  | some actual =>
    match m.entryMode with
    | some .weighing =>
      match m.weighedBefore, m.weighedAfter with
      | some before, some after => if Scalar.le after before then none else some .gainedWeight
      | _, _ => some .incompletePair
    | _ => if Scalar.lt Scalar.zero actual then none else some .notPositive

/-- The line with a reading in place of what was recorded before. -/
def Material.record (m : Material α) (r : Reading α) : Material α :=
  { m with
    actualTotal := Scalar.stored? r.actual
    entryMode := some r.mode
    weighedBefore := r.before.bind Scalar.stored?
    weighedAfter := r.after.bind Scalar.stored? }

end PrintFarm
