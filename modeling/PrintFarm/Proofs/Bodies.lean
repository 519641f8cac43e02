import PrintFarm.Proofs.Atomicity
import PrintFarm.Proofs.Numerals
import PrintFarm.Proofs.Reading

/-!
# What becomes of a body

A route that takes a body reads it as a record.

* The parts of each of these records are listed, with a lemma that the record is read as its parts.
* `intake?` tells for each method and place what is read and which operation is performed with it.
  All other routes take no body (`call_bodiless`).
* `Request.Treated` tells what can become of a body, and `bodies_heeded` that this is so on every
  route.  No part of a body is passed over, but in two places: the registration of a spool skips the
  names that it does not know, and the end of a plate takes no notes from a body that is not said to
  be JSON.  Nor is a part changed, but for numbers that are too long: these may be read as another
  double than the one that is nearest to them.
-/

namespace PrintFarm

open Json

/-! ## Parts of the records -/

def NewSpool.parts (s : NewSpool Float) : List Part :=
  [.required "label" Decoder.text s.label,
    .required "material_type" Decoder.text s.materialType,
    .optional "color" Decoder.text s.color,
    .required "current_weight_grams" Decoder.real s.weight,
    .required "cost_per_gram" Decoder.real s.costPerGram]

def NewItem.parts (i : NewItem Float) : List Part :=
  [.required "model_id" Decoder.uuid i.model,
    .optional "model_name" Decoder.text i.modelName,
    .required "quantity" Decoder.int32 i.quantity,
    .optional "bed_position" Decoder.text i.bedPosition,
    .optional "model_weight_grams" Decoder.real i.modelWeight,
    .optional "estimated_cost_per_unit" Decoder.real i.estimatedUnitCost]

def NewMaterial.parts (m : NewMaterial Float) : List Part :=
  [.required "spool_id" Decoder.uuid m.spool,
    .defaulted "estimated_model_weight_grams" 0.0 Decoder.real m.estimatedModel,
    .optional "estimated_flushed_grams" Decoder.real m.estimatedFlushed,
    .optional "estimated_tower_grams" Decoder.real m.estimatedTower]

def RunRequest.parts (r : RunRequest Float) : List Part :=
  [.optional "started_at" Decoder.timestamp r.run.startedAt,
    .defaulted "estimated_print_time_hours" 0.0 Decoder.real r.run.estimatedHours,
    .optional "printer_name" Decoder.text r.run.printerName,
    .optional "slicer_software" Decoder.text r.run.slicerSoftware,
    .optional "bed_temperature" Decoder.int32 r.run.bedTemperature,
    .optional "nozzle_temperature" Decoder.int32 r.run.nozzleTemperature,
    .optional "notes" Decoder.text r.run.notes,
    .entries "items" NewItem.parts r.items,
    .entries "materials" NewMaterial.parts r.materials]

def RunPatch.parts (p : RunPatch Float) : List Part :=
  [.optional "duration_hours" Decoder.real p.durationHours,
    .optional "started_at" Decoder.timestamp p.startedAt,
    .optional "estimated_print_time_hours" Decoder.real p.estimatedHours,
    .optional "printer_name" Decoder.text p.printerName,
    .optional "slicer_software" Decoder.text p.slicerSoftware,
    .optional "bed_temperature" Decoder.int32 p.bedTemperature,
    .optional "nozzle_temperature" Decoder.int32 p.nozzleTemperature,
    .optional "notes" Decoder.text p.notes]

def Outcome.parts (o : Outcome) : List Part :=
  [.required "successful_quantity" Decoder.int32 o.successful,
    .required "failed_quantity" Decoder.int32 o.failed]

def MeasurementRequest.parts (m : MeasurementRequest Float) : List Part :=
  [.optional "actual_model_weight_grams" Decoder.real m.manual,
    .optional "spool_weight_before_grams" Decoder.real m.before,
    .optional "spool_weight_after_grams" Decoder.real m.after]

def SpoolUsage.parts (u : SpoolUsage Float) : List Part :=
  [.required "spool_id" Decoder.uuid u.spool,
    .required "grams" Decoder.real u.grams]

def CancelRequest.parts (r : CancelRequest Float) : List Part :=
  [.required "cancel_mode" Api.cancelMode r.mode,
    .entries "partial_usage" SpoolUsage.parts r.usage,
    .optional "notes" Decoder.text r.notes]

def FailRequest.parts (r : FailRequest Float) : List Part :=
  [.required "failure_reason" Decoder.text r.reason,
    .entries "waste_materials" SpoolUsage.parts r.waste,
    .optional "notes" Decoder.text r.notes]

def NewPlate.parts (p : NewPlate Float) : List Part :=
  [.required "model_id" Decoder.uuid p.model,
    .optional "printer_id" Decoder.uuid p.printer,
    .optional "plate_number" Decoder.int32 p.number,
    .optional "plate_name" Decoder.text p.name,
    .defaulted "prints_per_plate" 1 Decoder.int32 p.printsPerPlate,
    .optional "print_time_minutes" Decoder.int32 p.printMinutes,
    .optional "estimated_material_weight_grams" Decoder.real p.estimatedWeight,
    .optional "notes" Decoder.text p.notes]

def PlatePatch.parts (p : PlatePatch Float) : List Part :=
  [.optional "plate_name" Decoder.text p.name,
    .optional "printer_id" Decoder.uuid p.printer,
    .optional "print_time_minutes" Decoder.int32 p.printMinutes,
    .optional "estimated_material_weight_grams" Decoder.real p.estimatedWeight,
    .optional "notes" Decoder.text p.notes]

def PlateReport.parts (r : PlateReport Float) : List Part :=
  [.required "successful_prints" Decoder.int32 r.successful,
    .defaulted "failed_prints" 0 Decoder.int32 r.failed,
    .optional "actual_print_time_minutes" Decoder.int32 r.actualPrintMinutes,
    .optional "actual_material_weight_grams" Decoder.real r.actualWeight,
    .optional "notes" Decoder.text r.notes]

def plateNotesParts (notes : Option String) : List Part :=
  [.optional "notes" Decoder.text notes]

namespace Api

theorem reads_newSpool : newSpool.Reads true NewSpool.parts :=
  .recordWith (fun _ => rfl) fun source s => by
    cases s
    simp [NewSpool.parts, Source.Gives, and_assoc]

theorem reads_newItem : newItem.Reads false NewItem.parts :=
  .recordWith (fun _ => rfl) fun source i => by
    cases i
    simp [NewItem.parts, Source.Gives, and_assoc]

theorem reads_newMaterial : newMaterial.Reads false NewMaterial.parts :=
  .recordWith (fun _ => rfl) fun source m => by
    cases m
    simp [NewMaterial.parts, Source.Gives, and_assoc]

theorem reads_runRequest : runRequest.Reads false RunRequest.parts :=
  .recordWith (fun _ => rfl) fun source r => by
    obtain ⟨⟨⟩, items, materials⟩ := r
    simp only [Fields.read_seq, Fields.read_map, Fields.read_entries reads_newItem,
      Fields.read_entries reads_newMaterial]
    simp [RunRequest.parts, newRunFields, Source.Gives, and_assoc]

theorem reads_runPatch : runPatch.Reads false RunPatch.parts :=
  .recordWith (fun _ => rfl) fun source p => by
    cases p
    simp [RunPatch.parts, Source.Gives, and_assoc]

theorem reads_outcome : outcome.Reads false Outcome.parts :=
  .recordWith (fun _ => rfl) fun source o => by
    cases o
    simp [Outcome.parts, Source.Gives]

theorem reads_measurement : measurement.Reads false MeasurementRequest.parts :=
  .recordWith (fun _ => rfl) fun source m => by
    cases m
    simp [MeasurementRequest.parts, Source.Gives]

theorem reads_spoolUsage : spoolUsage.Reads false SpoolUsage.parts :=
  .recordWith (fun _ => rfl) fun source u => by
    cases u
    simp [SpoolUsage.parts, Source.Gives]

theorem reads_cancelRequest : cancelRequest.Reads false CancelRequest.parts :=
  .recordWith (fun _ => rfl) fun source r => by
    cases r
    simp only [Fields.read_seq, Fields.read_map, Fields.read_entries reads_spoolUsage]
    simp [CancelRequest.parts, Source.Gives, and_assoc]

theorem reads_failRequest : failRequest.Reads false FailRequest.parts :=
  .recordWith (fun _ => rfl) fun source r => by
    cases r
    simp only [Fields.read_seq, Fields.read_map, Fields.read_entries reads_spoolUsage]
    simp [FailRequest.parts, Source.Gives, and_assoc]

theorem reads_newPlate : newPlate.Reads false NewPlate.parts :=
  .recordWith (fun _ => rfl) fun source p => by
    cases p
    simp [NewPlate.parts, Source.Gives, and_assoc]

theorem reads_platePatch : platePatch.Reads false PlatePatch.parts :=
  .recordWith (fun _ => rfl) fun source p => by
    cases p
    simp [PlatePatch.parts, Source.Gives, and_assoc]

theorem reads_plateReport : plateReport.Reads false PlateReport.parts :=
  .recordWith (fun _ => rfl) fun source r => by
    cases r
    simp [PlateReport.parts, Source.Gives, and_assoc]

theorem reads_plateNotes : plateNotes.Reads false plateNotesParts :=
  .recordWith (fun _ => rfl) fun source notes => by
    simp [plateNotesParts, Source.Gives]

end Api

namespace Http

/-! ## What the routes take -/

/-- What a route takes: a record with these parts, with which it performs an operation. Other names
may be allowed, and there may be something to take where the body is not said to be JSON. -/
structure Intake where
  {Payload : Type}
  {decoder : Decoder Payload}
  {others : Bool}
  {parts : Payload → List Part}
  reads : decoder.Reads others parts
  operation : Payload → Operation Float
  otherwise : Option Payload := none

/-- What is taken of a request. -/
def Intake.read (i : Intake) (r : Request) : Except Reply i.Payload :=
  match i.otherwise with
  | none => r.payload i.decoder
  | some a => if r.isJson then r.decoded i.decoder else .ok a

/-- What is taken within a run, if its identifier can be read. -/
def takenAt (run : String) (intake : Uuid → Intake) : Option (Except Reply Intake) :=
  some ((pathId run).map intake)

/-- What is taken at a part of a run, if both identifiers can be read. -/
def takenWithin (run id : String) (intake : Uuid → Uuid → Intake) : Option (Except Reply Intake) :=
  some ((pathId run).bind fun run => (pathId id).map (intake run))

theorem status_pathId {part : String} {reply : Reply} (h : pathId part = .error reply) :
    reply.status = 400 := by
  unfold pathId at h
  split at h
  · exact nomatch h
  · cases h
    rfl

theorem takenAt_eq_some {run : String} {intake : Uuid → Intake} {route : Except Reply Intake}
    (h : takenAt run intake = some route) :
    (∃ r, pathId run = .ok r ∧ route = .ok (intake r)) ∨
      ∃ reply, route = .error reply ∧ reply.status = 400 := by
  obtain rfl := Option.some.inj h
  cases hrun : pathId run with
  | ok r => exact Or.inl ⟨r, rfl, rfl⟩
  | error reply => exact Or.inr ⟨reply, rfl, status_pathId hrun⟩

theorem takenWithin_eq_some {run id : String} {intake : Uuid → Uuid → Intake}
    {route : Except Reply Intake} (h : takenWithin run id intake = some route) :
    (∃ r p, pathId run = .ok r ∧ pathId id = .ok p ∧ route = .ok (intake r p)) ∨
      ∃ reply, route = .error reply ∧ reply.status = 400 := by
  obtain rfl := Option.some.inj h
  cases hrun : pathId run with
  | error reply => exact Or.inr ⟨reply, rfl, status_pathId hrun⟩
  | ok r =>
    cases hid : pathId id with
    | ok p => exact Or.inl ⟨r, p, rfl, rfl, rfl⟩
    | error reply => exact Or.inr ⟨reply, rfl, status_pathId hid⟩

/-- The routes that take a body. -/
def intake? : Method → Place → Option (Except Reply Intake)
  | .post, .runs => some (.ok ⟨Api.reads_runRequest, .createRun, none⟩)
  | .post, .spools => some (.ok ⟨Api.reads_newSpool, .createSpool, none⟩)
  | .patch, .run id => takenAt id fun run => ⟨Api.reads_runPatch, .updateRun run, none⟩
  | .post, .cancellation id => takenAt id fun run => ⟨Api.reads_cancelRequest, .cancelRun run, none⟩
  | .post, .failure id => takenAt id fun run => ⟨Api.reads_failRequest, .failRun run, none⟩
  | .post, .materials id => takenAt id fun run => ⟨Api.reads_newMaterial, .addMaterial run, none⟩
  | .post, .plates id => takenAt id fun run => ⟨Api.reads_newPlate, .createPlate run, none⟩
  | .patch, .material id line => takenWithin id line fun run material =>
    ⟨Api.reads_measurement, .recordActual run material, none⟩
  | .patch, .item id part => takenWithin id part fun run item =>
    ⟨Api.reads_outcome, .updateOutcome run item, none⟩
  | .patch, .plate id bed => takenWithin id bed fun run plate =>
    ⟨Api.reads_platePatch, .updatePlate run plate, none⟩
  | .post, .plateStep id bed .complete => takenWithin id bed fun run plate =>
    ⟨Api.reads_plateReport, .completePlate run plate, none⟩
  | .post, .plateStep id bed .fail => takenWithin id bed fun run plate =>
    ⟨Api.reads_plateNotes, .failPlate run plate, some none⟩
  | .post, .plateStep id bed .cancel => takenWithin id bed fun run plate =>
    ⟨Api.reads_plateNotes, .cancelPlate run plate, some none⟩
  | _, _ => none

/-- A route that takes a body calls its operation with what it takes. -/
theorem call_of_intake? {r : Request} {query : String} {method : Method} {place : Place}
    {route : Except Reply Intake} (h : intake? method place = some route) :
    call r query method place =
      route.bind fun i => (i.read r).map fun a => .api (i.operation a) := by
  have hmap {β : Type} (x : Except Reply β) (f : β → Call) :
      x.map f = x >>= fun a => pure (f a) := by
    cases x <;> rfl
  unfold intake? at h
  split at h
  case h_1 | h_2 =>
    cases h
    exact (hmap _ _).symm
  case h_3 id | h_4 id | h_5 id | h_6 id | h_7 id =>
    obtain rfl := Option.some.inj h
    simp only [call]
    cases pathId id with
    | error reply => rfl
    | ok run => exact (hmap _ _).symm
  case h_14 => exact nomatch h
  case h_8 run id | h_9 run id | h_10 run id | h_11 run id | h_12 run id | h_13 run id =>
    obtain rfl := Option.some.inj h
    simp only [call]
    cases pathId run with
    | error reply => rfl
    | ok run =>
      cases pathId id with
      | error reply => rfl
      | ok id => exact (hmap _ _).symm

/-- All other routes give the same answer to any body. -/
theorem call_bodiless {r : Request} {query : String} {method : Method} {place : Place}
    (h : intake? method place = none) (contentType : Option String) (body : String) :
    call { r with contentType, body } query method place = call r query method place := by
  cases method <;> cases place
  case post.plateStep run id step =>
    cases step
    · rfl
    · exact nomatch h
    · exact nomatch h
    · exact nomatch h
  all_goals first | rfl | exact nomatch h

/-- What a route takes. Most of them take just the parts of their record. -/
inductive Taken : Place → Except Reply Intake → Prop
  | unread {place : Place} {reply : Reply} (hstatus : reply.status = 400) :
    Taken place (.error reply)
  | just {place : Place} {i : Intake} (hclosed : i.others = false) (honly : i.otherwise = none) :
    Taken place (.ok i)
  | spool : Taken .spools (.ok ⟨Api.reads_newSpool, .createSpool, none⟩)
  | failed {id bed : String} {run plate : Uuid} (hrun : pathId id = .ok run)
    (hplate : pathId bed = .ok plate) :
    Taken (.plateStep id bed .fail)
      (.ok ⟨Api.reads_plateNotes, .failPlate run plate, some none⟩)
  | cancelled {id bed : String} {run plate : Uuid} (hrun : pathId id = .ok run)
    (hplate : pathId bed = .ok plate) :
    Taken (.plateStep id bed .cancel)
      (.ok ⟨Api.reads_plateNotes, .cancelPlate run plate, some none⟩)

theorem taken_of_intake? {method : Method} {place : Place} {route : Except Reply Intake}
    (h : intake? method place = some route) : Taken place route := by
  unfold intake? at h
  split at h
  case h_14 => exact nomatch h
  case h_1 =>
    cases h
    exact .just rfl rfl
  case h_2 =>
    cases h
    exact .spool
  case h_3 | h_4 | h_5 | h_6 | h_7 =>
    obtain ⟨run, -, rfl⟩ | ⟨reply, rfl, hstatus⟩ := takenAt_eq_some h
    · exact .just rfl rfl
    · exact .unread hstatus
  case h_8 | h_9 | h_10 | h_11 =>
    obtain ⟨run, id, -, -, rfl⟩ | ⟨reply, rfl, hstatus⟩ := takenWithin_eq_some h
    · exact .just rfl rfl
    · exact .unread hstatus
  case h_12 =>
    obtain ⟨run, plate, hrun, hplate, rfl⟩ | ⟨reply, rfl, hstatus⟩ := takenWithin_eq_some h
    · exact .failed hrun hplate
    · exact .unread hstatus
  case h_13 =>
    obtain ⟨run, plate, hrun, hplate, rfl⟩ | ⟨reply, rfl, hstatus⟩ := takenWithin_eq_some h
    · exact .cancelled hrun hplate
    · exact .unread hstatus

/-- Only the registration of a spool takes other names. -/
theorem Taken.others_eq {place : Place} {i : Intake} (h : Taken place (.ok i))
    (hplace : place ≠ .spools) : i.others = false := by
  cases h with
  | just hclosed _ => exact hclosed
  | spool => exact absurd rfl hplace
  | failed _ _ => rfl
  | cancelled _ _ => rfl

/-- Only the end of a plate takes a body that is not said to be JSON. -/
theorem Taken.otherwise_eq {place : Place} {i : Intake} (h : Taken place (.ok i))
    (hplace : ∀ id bed, place ≠ .plateStep id bed .fail ∧ place ≠ .plateStep id bed .cancel) :
    i.otherwise = none := by
  cases h with
  | just _ honly => exact honly
  | spool => rfl
  | failed _ _ => exact absurd rfl (hplace _ _).1
  | cancelled _ _ => exact absurd rfl (hplace _ _).2

/-! ## What is taken of a request -/

/-- The body is taken in, and is one value, which says these parts. -/
def Request.Says (r : Request) (others : Bool) (parts : List Part) : Prop :=
  r.fits = true ∧ ∃ document, readDocument r.body = (document, false) ∧ document.Says others parts

theorem Request.decoded_eq_ok {β : Type} {decoder : Decoder β} {others : Bool}
    {parts : β → List Part} (hreads : decoder.Reads others parts) {r : Request} {a : β} :
    r.decoded decoder = .ok a ↔ r.Says others (parts a) := by
  unfold decoded Says decode
  cases r.fits with
  | false => simp
  | true =>
    rw [if_pos rfl, mapError_eq_ok, and_iff_right rfl]
    rcases readDocument r.body with ⟨document, more⟩
    simp only [bind_eq_ok, hreads _ _]
    cases more with
    | true => simp
    | false => simp

theorem Request.status_decoded {β : Type} {decoder : Decoder β} {r : Request} {reply : Reply}
    (h : r.decoded decoder = .error reply) : reply.status = 422 := by
  unfold decoded at h
  split at h
  · cases hdecode : decode decoder r.body with
    | ok a =>
      rw [hdecode] at h
      exact nomatch h
    | error fault =>
      rw [hdecode] at h
      cases h
      rfl
  · cases h
    rfl

/-- What is taken is what the body says; or the body is not said to be JSON, and there is something
to take without it. -/
theorem Intake.read_eq_ok {i : Intake} {r : Request} {a : i.Payload} :
    i.read r = .ok a ↔
      r.isJson = true ∧ r.Says i.others (i.parts a) ∨ r.isJson = false ∧ i.otherwise = some a := by
  unfold read Request.payload
  cases i.otherwise with
  | none =>
    cases r.isJson with
    | true => simp [Request.decoded_eq_ok i.reads]
    | false => simp
  | some given =>
    cases r.isJson with
    | true => simp [Request.decoded_eq_ok i.reads]
    | false => simp

theorem Intake.status_read {i : Intake} {r : Request} {reply : Reply}
    (h : i.read r = .error reply) : reply.status = 422 := by
  unfold read Request.payload at h
  split at h
  · split at h
    · exact Request.status_decoded h
    · cases h
      rfl
  · split at h
    · exact Request.status_decoded h
    · exact nomatch h

section

variable (catalog : Catalog) (now : Timestamp) (db : Database Float) {r : Request} {place : Place}

/-- A route that takes a body is answered by its own method. -/
theorem respond_eq_answer {route : Except Reply Intake}
    (hroute : intake? r.method place = some route) :
    respond catalog now r = answer catalog now r r.method := by
  unfold respond
  cases hmethod : r.method with
  | options =>
    rw [hmethod] at hroute
    exact nomatch hroute
  | head =>
    rw [hmethod] at hroute
    exact nomatch hroute
  | _ => rfl

theorem Request.call_eq (hplace : Place.ofPath? (splitTarget r.target).1 = some place)
    {route : Except Reply Intake} (hroute : intake? r.method place = some route) :
    r.call r.method = route.bind fun i => (i.read r).map fun a => .api (i.operation a) := by
  unfold Request.call
  simp only [hplace]
  exact call_of_intake? hroute

/-- Where an identifier cannot be read, nothing is done. -/
theorem respond_unread (hplace : Place.ofPath? (splitTarget r.target).1 = some place)
    {reply : Reply} (hroute : intake? r.method place = some (.error reply)) :
    (respond catalog now r).run db = (reply, db) := by
  have hcall : r.call r.method = .error reply := Request.call_eq hplace hroute
  rw [respond_eq_answer catalog now hroute, answer, hcall]
  rfl

/-- What a route takes goes to its operation; where it takes nothing, nothing is done. -/
theorem respond_intake (hplace : Place.ofPath? (splitTarget r.target).1 = some place)
    {i : Intake} (hroute : intake? r.method place = some (.ok i)) :
    (respond catalog now r).run db =
      match i.read r with
      | .error reply => (reply, db)
      | .ok a => ((Call.api (i.operation a)).perform catalog now).run db := by
  have hcall : r.call r.method = (i.read r).map fun a => .api (i.operation a) :=
    Request.call_eq hplace hroute
  rw [respond_eq_answer catalog now hroute, answer, hcall]
  cases i.read r with
  | error reply => rfl
  | ok a => rfl

end

/-! ## No body is passed over -/

/-- The request has the effect and the answer of an operation. -/
def Request.Performs (r : Request) (catalog : Catalog) (now : Timestamp) (db : Database Float)
    (op : Operation Float) : Prop :=
  (respond catalog now r).run db = ((Call.api op).perform catalog now).run db

/-- The request is answered with that status, and the database stays as it is. -/
def Request.TurnedDown (r : Request) (catalog : Catalog) (now : Timestamp) (db : Database Float)
    (status : Nat) : Prop :=
  ((respond catalog now r).run db).1.status = status ∧ ((respond catalog now r).run db).2 = db

/-- The numbers in the body. -/
def Request.numerals (r : Request) : List Numeral :=
  (readDocument r.body).1.numerals

/-- What becomes of the body of a request, if the identifiers in its path can be read: the operation
is performed with just what the body says, or nothing is done.  But a number may be read as another
double than the one nearest to it, a spool is registered without the names that are not known, and a
plate is ended without any notes if the body is not said to be JSON. -/
inductive Request.Treated (r : Request) (catalog : Catalog) (now : Timestamp)
    (db : Database Float) (i : Intake) : Place → Prop
  | performed {place : Place} (a : i.Payload) (hjson : r.isJson = true)
    (hsaid : r.Says false (i.parts a)) (hnumbers : ∀ n ∈ r.numerals, n.real = n.literal.value)
    (hdone : r.Performs catalog now db (i.operation a)) :
    r.Treated catalog now db i place
  | rounded {place : Place} (a : i.Payload) (hjson : r.isJson = true)
    (hsaid : r.Says false (i.parts a)) {n : Numeral} (hn : n ∈ r.numerals)
    (hother : n.real ≠ n.literal.value) (hdone : r.Performs catalog now db (i.operation a)) :
    r.Treated catalog now db i place
  | turnedDown {place : Place} (hturned : r.TurnedDown catalog now db 422) :
    r.Treated catalog now db i place
  | registered (new : NewSpool Float) (hjson : r.isJson = true) (hsaid : r.Says true new.parts)
    (hothers : ¬r.Says false new.parts) (hdone : r.Performs catalog now db (.createSpool new)) :
    r.Treated catalog now db i .spools
  | failed {id bed : String} {run plate : Uuid} (hjson : r.isJson = false)
    (hrun : pathId id = .ok run) (hplate : pathId bed = .ok plate)
    (hdone : r.Performs catalog now db (.failPlate run plate none)) :
    r.Treated catalog now db i (.plateStep id bed .fail)
  | cancelled {id bed : String} {run plate : Uuid} (hjson : r.isJson = false)
    (hrun : pathId id = .ok run) (hplate : pathId bed = .ok plate)
    (hdone : r.Performs catalog now db (.cancelPlate run plate none)) :
    r.Treated catalog now db i (.plateStep id bed .cancel)

/-- A route that takes bodies heeds that of a request.  A whole number is read as what is written,
and a short number as the double nearest to it.  A body that is too long is not taken in.  A name
that the route does not declare is passed over only by the registration of a spool and, if the body
is not said to be JSON, by the end of a plate. -/
structure Request.Heeded (r : Request) (catalog : Catalog) (now : Timestamp) (db : Database Float)
    (place : Place) (i : Intake) : Prop where
  treated : r.Treated catalog now db i place
  whole (n : Numeral) (k : Int) : n ∈ r.numerals → n.whole? = some k →
    n.literal.exponent = 0 ∧ k = if n.negative then -(n.literal.digits : Int) else n.literal.digits
  short (n : Numeral) : n ∈ r.numerals → IsShort n.literal → n.real = n.literal.value
  large : r.isJson = true → r.fits = false → r.TurnedDown catalog now db 422
  undeclared (name : String) : name ∈ (readDocument r.body).1.names →
    (∀ a, ∀ p ∈ i.parts a, p.name ≠ name) → place ≠ .spools →
    (r.isJson = true ∨
      ∀ id bed, place ≠ .plateStep id bed .fail ∧ place ≠ .plateStep id bed .cancel) →
    r.TurnedDown catalog now db 422
  said (a : i.Payload) : r.isJson = true → r.Says i.others (i.parts a) →
    r.Performs catalog now db (i.operation a)
  unsaid (a : i.Payload) : r.isJson = false → i.otherwise = some a →
    r.Performs catalog now db (i.operation a)

/-- What is performed with just what the body says is treated in one of two ways. -/
theorem Request.Treated.of_performs {catalog : Catalog} {now : Timestamp} {db : Database Float}
    {r : Request} {place : Place} {i : Intake} {a : i.Payload} (hjson : r.isJson = true)
    (hsaid : r.Says false (i.parts a)) (hdone : r.Performs catalog now db (i.operation a)) :
    r.Treated catalog now db i place := by
  by_cases hnumbers : ∀ n ∈ r.numerals, n.real = n.literal.value
  · exact .performed a hjson hsaid hnumbers hdone
  · obtain ⟨n, hn⟩ := not_forall.mp hnumbers
    obtain ⟨hn, hother⟩ := Classical.not_imp.mp hn
    exact .rounded a hjson hsaid hn hother hdone

/-- What is taken of a body is taken in one of these ways. -/
theorem Taken.treated {catalog : Catalog} {now : Timestamp} {db : Database Float} {r : Request}
    {place : Place} {i : Intake} (h : Taken place (.ok i)) {a : i.Payload}
    (hread : i.read r = .ok a) (hdone : r.Performs catalog now db (i.operation a)) :
    r.Treated catalog now db i place := by
  obtain ⟨hjson, hsaid⟩ | ⟨hjson, ha⟩ := Intake.read_eq_ok.mp hread
  · cases h with
    | just hclosed _ => exact .of_performs hjson (hclosed ▸ hsaid) hdone
    | spool =>
      by_cases hclosed : r.Says false (NewSpool.parts a)
      · exact .of_performs hjson hclosed hdone
      · exact .registered a hjson hsaid hclosed hdone
    | failed _ _ => exact .of_performs hjson hsaid hdone
    | cancelled _ _ => exact .of_performs hjson hsaid hdone
  · cases h with
    | just _ honly => exact nomatch honly.symm.trans ha
    | spool => exact nomatch ha
    | failed hrun hplate =>
      cases ha
      exact .failed hjson hrun hplate hdone
    | cancelled hrun hplate =>
      cases ha
      exact .cancelled hjson hrun hplate hdone

/-- A route that takes a body heeds it, or cannot read an identifier in its path. -/
theorem bodies_heeded (catalog : Catalog) (now : Timestamp) (db : Database Float) (r : Request)
    {place : Place} (hplace : Place.ofPath? (splitTarget r.target).1 = some place)
    {route : Except Reply Intake} (hroute : intake? r.method place = some route) :
    (∀ reply, route = .error reply → r.TurnedDown catalog now db 400) ∧
      ∀ i, route = .ok i → r.Heeded catalog now db place i := by
  have htaken := taken_of_intake? hroute
  refine ⟨fun reply hreply => ?_, fun i hi => ?_⟩
  · subst hreply
    rw [Request.TurnedDown, respond_unread catalog now db hplace hroute]
    cases htaken with
    | unread hstatus => exact ⟨hstatus, rfl⟩
  subst hi
  have hrespond := respond_intake catalog now db hplace hroute
  have hperforms {a : i.Payload} (h : i.read r = .ok a) :
      r.Performs catalog now db (i.operation a) := by
    rw [Request.Performs, hrespond, h]
  have hturned {reply : Reply} (h : i.read r = .error reply) :
      r.TurnedDown catalog now db 422 := by
    rw [Request.TurnedDown, hrespond, h]
    exact ⟨Intake.status_read h, rfl⟩
  have hunread (h : ∀ a, i.read r ≠ .ok a) : r.TurnedDown catalog now db 422 := by
    cases hread : i.read r with
    | error reply => exact hturned hread
    | ok a => exact absurd hread (h a)
  constructor
  case whole => exact fun n k _ hwhole => Numeral.eq_of_whole?_eq_some hwhole
  case short => exact fun n _ hshort => Numeral.real_eq_value hshort
  case said =>
    exact fun a hjson hsaid => hperforms (Intake.read_eq_ok.mpr (Or.inl ⟨hjson, hsaid⟩))
  case unsaid =>
    exact fun a hjson ha => hperforms (Intake.read_eq_ok.mpr (Or.inr ⟨hjson, ha⟩))
  case treated =>
    cases hread : i.read r with
    | error reply => exact .turnedDown (hturned hread)
    | ok a => exact htaken.treated hread (hperforms hread)
  case large =>
    intro hjson hlarge
    refine hunread fun a hread => ?_
    obtain ⟨-, hfits, -⟩ | ⟨hnot, -⟩ := Intake.read_eq_ok.mp hread
    · exact nomatch hfits.symm.trans hlarge
    · exact nomatch hjson.symm.trans hnot
  case undeclared =>
    intro name hname hunknown hspools hends
    refine hunread fun a hread => ?_
    obtain ⟨-, -, document, hdocument, hsaid⟩ | ⟨hjson, ha⟩ := Intake.read_eq_ok.mp hread
    · rw [hdocument] at hname
      rw [htaken.others_eq hspools] at hsaid
      obtain ⟨p, hp, hpname⟩ := hsaid.declared hname
      exact absurd hpname (hunknown a p hp)
    · have honly := htaken.otherwise_eq (hends.resolve_left (by simp [hjson]))
      exact nomatch honly.symm.trans ha

/-- A run of one print, with a plate for it. -/
def plateSession : List (Event Float) :=
  let item : NewItem Float := ⟨.numbered 9 1, none, 1, none, none, none⟩
  let plate : NewPlate Float := ⟨.numbered 9 1, none, none, none, 1, none, none, none⟩
  [.createRun ⟨⟨none, 2.0, none, none, none, none, none⟩, [item], []⟩,
    .createPlate (.numbered 2 1) plate].map (Event.mk .builtin ⟨1767225600, 0⟩)

/-- The plate is to be failed with a note, but nothing says that the body is JSON. -/
def untypedNotes : Request where
  method := .post
  target := "/api/runs/20000000-0000-4000-8000-000000000001/plates/" ++
    "50000000-0000-4000-8000-000000000001/fail"
  contentType := none
  body := "\x7b\"notes\":\"jam\"\x7d"

/-- The plate fails without the note. -/
theorem untyped_notes_dropped :
    untypedNotes.Performs .builtin ⟨1767232800, 0⟩ ((Database.fresh {}).afterAll plateSession)
      (.failPlate (.numbered 2 1) (.numbered 5 1) none) := by
  have hplace : Place.ofPath? (splitTarget untypedNotes.target).1 =
      some (.plateStep "20000000-0000-4000-8000-000000000001"
        "50000000-0000-4000-8000-000000000001" .fail) := by decide +kernel
  have hid {part : String} {id : Uuid} (h : (percentDecoded? part).bind Uuid.ofText? = some id) :
      pathId part = .ok id := by
    rw [pathId, h]
  have hroute : intake? untypedNotes.method (.plateStep "20000000-0000-4000-8000-000000000001"
      "50000000-0000-4000-8000-000000000001" .fail) =
      some (.ok ⟨Api.reads_plateNotes, .failPlate (.numbered 2 1) (.numbered 5 1), some none⟩) := by
    show takenWithin _ _ _ = _
    rw [takenWithin, hid (by decide +kernel : _ = some (Uuid.numbered 2 1)),
      hid (by decide +kernel : _ = some (Uuid.numbered 5 1))]
    rfl
  obtain ⟨-, hheeded⟩ := bodies_heeded .builtin ⟨1767232800, 0⟩
    ((Database.fresh {}).afterAll plateSession) untypedNotes hplace hroute
  exact (hheeded _ rfl).unsaid none (by decide +kernel) rfl

/-- A spool is to be registered, with a weight and perhaps a further field. -/
def spoolRequest (weight further : String) : Request where
  method := .post
  target := "/api/spools"
  contentType := some "application/json"
  body := "\x7b\"label\":\"PLA\",\"material_type\":\"PLA\",\"current_weight_grams\":" ++ weight ++
    ",\"cost_per_gram\":0.02" ++ further ++ "\x7d"

/-- A spool is registered with a name that no part of it has, another one with the double next to
its weight, and a plate fails without the note that the body holds. -/
theorem bodies_passed_over :
    let spool := spoolRequest "1000.0" ",\"lot\":\"7\""
    let weighed := spoolRequest "449.49106478873813" ""
    let registered := (respond .builtin ⟨1767225600, 0⟩ spool).run (Database.fresh {})
    let stored := (respond .builtin ⟨1767225600, 0⟩ weighed).run (Database.fresh {})
    let failed := (respond .builtin ⟨1767232800, 0⟩ untypedNotes).run
      ((Database.fresh {}).afterAll plateSession)
    ("lot" ∈ (readDocument spool.body).1.names ∧
      (∀ new : NewSpool Float, ∀ p ∈ new.parts, p.name ≠ "lot") ∧
      registered.1.status = 201 ∧ registered.2.tables.spools.map Spool.label = ["PLA"]) ∧
    (stored.1.status = 201 ∧ stored.2.tables.spools.map Spool.weight = [449.4910647887382] ∧
      ∃ n ∈ weighed.numerals, n.real = 449.4910647887382 ∧ n.literal.value = 449.49106478873813 ∧
        n.real ≠ n.literal.value) ∧
    failed.1.status = 200 ∧
      failed.2.tables.plates.map (fun p => (p.status, p.notes)) = [(.failed, none)] := by
  intro spool weighed registered stored failed
  refine ⟨⟨by decide +kernel, fun new => ?_, by decide +kernel⟩, by decide +kernel,
    by decide +kernel⟩
  simp [NewSpool.parts, Part.required, Part.optional]

end Http

end PrintFarm
