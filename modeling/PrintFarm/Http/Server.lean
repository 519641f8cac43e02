import PrintFarm.Api.Refusals
import PrintFarm.Api.Requests
import PrintFarm.Http.ContentType
import PrintFarm.Http.Encoding
import PrintFarm.Http.Page
import PrintFarm.Http.Route
import PrintFarm.Operation

/-!
# Answering requests

A request is turned into a call of one operation, or answered at once: an unknown path, a method
that the place does not have, an identifier or query that cannot be read, and a body that is not
what is asked for, in this order. `respond` performs the call and answers with its result.
-/

namespace PrintFarm.Http

open Json (Value)

/-- A request: method, target, content type and body. -/
structure Request where
  method : Method
  target : String
  contentType : Option String
  body : String

/-- An answer: a status with JSON, with a page, or alone. -/
inductive Reply
  | json (status : Nat) (body : Value)
  | page (html : String)
  | bare (status : Nat)

def Reply.status : Reply → Nat
  | json status _ => status
  | page _ => 200
  | bare status => status

/-- An operation that is called over HTTP: one of those that answer with JSON, or the listing of
the runs in progress as a page. -/
inductive Call
  | api (operation : Operation Float)
  | index

/-- The operation of a call. -/
def Call.operation : Call → Operation Float
  | api operation => operation
  | index => .listRuns (some .inProgress)

/-- The status of an answer: one of its own if something was created. -/
def successStatus : Operation Float → Nat
  | .createSpool _ | .createRun _ | .addMaterial .. | .createPlate .. => 201
  | _ => 200

/-- The answer of a call as it is shown. -/
def Call.reply (c : Call) (answer : Answer Float) : Reply :=
  match c, answer with
  | .index, .runs rows => .page (indexPage rows)
  | _, .nothing => .bare 204
  | c, answer => .json (successStatus c.operation) (Api.answerValue answer)

/-- The answer to a body that cannot be read. -/
def unreadable (message : String) : Reply :=
  .json 422 (.record
    [("code", .text "VALIDATION_FAILED"), ("message", .text message), ("details", .null)])

/-- What is said of a fault in a body. -/
def faultText : Json.Fault → String
  | .mistyped => "Failed to deserialize the JSON body into the target type"
  | _ => "Failed to parse the request body as JSON"

/-- The most bytes that a body may have to be taken in. -/
def bodyLimit : Nat := 2097152

namespace Request

/-- Whether the content type says that the body is JSON. -/
def isJson (r : Request) : Bool :=
  r.contentType.any isJsonType

/-- Whether the body is short enough to be taken in. -/
def fits (r : Request) : Bool :=
  r.body.utf8ByteSize ≤ bodyLimit

/-- The body, whatever the content type says. -/
def decoded {β : Type} (r : Request) (decoder : Json.Decoder β) : Except Reply β :=
  if r.fits then
    (Json.decode decoder r.body).mapError fun fault => unreadable (faultText fault)
  else .error (unreadable "Failed to buffer the request body")

/-- The body, which has to be there as JSON. -/
def payload {β : Type} (r : Request) (decoder : Json.Decoder β) : Except Reply β :=
  if r.isJson then r.decoded decoder
  else .error (unreadable "Expected request with `Content-Type: application/json`")

/-- The notes in the body; there are none unless the content type says that it is JSON. -/
def notes (r : Request) : Except Reply (Option String) :=
  if r.isJson then r.decoded Api.plateNotes else .ok none

end Request

/-- The identifier that a part of a path stands for. -/
def pathId (part : String) : Except Reply Uuid :=
  match (percentDecoded? part).bind Uuid.ofText? with
  | some id => .ok id
  | none => .error (.bare 400)

/-- The status that a query asks for, if it asks for one. -/
def queryStatus (query : String) : Except Reply (Option RunStatus) :=
  match (queryPairs query).filter fun pair => pair.1 = some "status" with
  | [] => .ok none
  | [(_, value)] =>
    match value.bind RunStatus.ofWord? with
    | some status => .ok (some status)
    | none => .error (.bare 400)
  | _ => .error (.bare 400)

/-- The call that a request asks for at a place, or the answer if it asks for none. -/
def call (r : Request) (query : String) : Method → Place → Except Reply Call
  | .get, .index => .ok .index
  | .get, .runs => do
    let status ← queryStatus query
    return .api (.listRuns status)
  | .post, .runs => do
    let request ← r.payload Api.runRequest
    return .api (.createRun request)
  | .get, .run id => do
    let run ← pathId id
    return .api (.showRun run)
  | .patch, .run id => do
    let run ← pathId id
    let patch ← r.payload Api.runPatch
    return .api (.updateRun run patch)
  | .post, .completion id => do
    let run ← pathId id
    return .api (.completeRun run)
  | .post, .cancellation id => do
    let run ← pathId id
    let request ← r.payload Api.cancelRequest
    return .api (.cancelRun run request)
  | .post, .failure id => do
    let run ← pathId id
    let request ← r.payload Api.failRequest
    return .api (.failRun run request)
  | .post, .materials id => do
    let run ← pathId id
    let new ← r.payload Api.newMaterial
    return .api (.addMaterial run new)
  | .post, .materialsReset id => do
    let run ← pathId id
    return .api (.resetActuals run)
  | .patch, .material id line => do
    let run ← pathId id
    let material ← pathId line
    let request ← r.payload Api.measurement
    return .api (.recordActual run material request)
  | .delete, .material id line => do
    let run ← pathId id
    let material ← pathId line
    return .api (.removeMaterial run material)
  | .patch, .item id part => do
    let run ← pathId id
    let item ← pathId part
    let outcome ← r.payload Api.outcome
    return .api (.updateOutcome run item outcome)
  | .get, .plates id => do
    let run ← pathId id
    return .api (.listPlates run)
  | .post, .plates id => do
    let run ← pathId id
    let new ← r.payload Api.newPlate
    return .api (.createPlate run new)
  | .patch, .plate id bed => do
    let run ← pathId id
    let plate ← pathId bed
    let patch ← r.payload Api.platePatch
    return .api (.updatePlate run plate patch)
  | .delete, .plate id bed => do
    let run ← pathId id
    let plate ← pathId bed
    return .api (.deletePlate run plate)
  | .post, .plateStep id bed step => do
    let run ← pathId id
    let plate ← pathId bed
    match step with
    | .start => return .api (.startPlate run plate)
    | .complete => do
      let report ← r.payload Api.plateReport
      return .api (.completePlate run plate report)
    | .fail => do
      let notes ← r.notes
      return .api (.failPlate run plate notes)
    | .cancel => do
      let notes ← r.notes
      return .api (.cancelPlate run plate notes)
  | .get, .deductions id => do
    let run ← pathId id
    return .api (.listDeductions run)
  | .get, .failureReasons => .ok (.api .listReasons)
  | .get, .spools => .ok (.api .listSpools)
  | .post, .spools => do
    let new ← r.payload Api.newSpool
    return .api (.createSpool new)
  | _, _ => .error (.bare 405)

/-- The call that a request asks for, or the answer if it asks for none. -/
def Request.call (r : Request) (method : Method) : Except Reply Call :=
  let (path, query) := splitTarget r.target
  match Place.ofPath? path with
  | some place => Http.call r query method place
  | none => .error (.bare 404)

/-- Performs a call and shows its answer or its refusal. -/
def Call.perform (c : Call) (catalog : Catalog) (now : Timestamp) :
    StateM (Database Float) Reply := do
  match ← (c.operation.perform catalog now).run with
  | .ok answer => return c.reply answer
  | .error refusal => return .json refusal.status refusal.body

/-- The answer to a request that is made with `method`. -/
def answer (catalog : Catalog) (now : Timestamp) (r : Request) (method : Method) :
    StateM (Database Float) Reply :=
  match r.call method with
  | .ok call => call.perform catalog now
  | .error reply => return reply

/-- The answer to a request. Asking for the head of a place gives the status alone, and asking for
its options is always answered. -/
def respond (catalog : Catalog) (now : Timestamp) (r : Request) :
    StateM (Database Float) Reply := do
  match r.method with
  | .options => return .bare 200
  | .head => return .bare (← answer catalog now r .get).status
  | method => answer catalog now r method

end PrintFarm.Http
