import ConnectorHub.Api.Payload
import ConnectorHub.Api.Resource
import ConnectorHub.Hub.Administration
import ConnectorHub.Hub.Traversal
import ConnectorHub.Store.Runs

/-! The management interface: requests about connectors, and their answers. -/
namespace ConnectorHub.Api

open Store Time Act

structure Request where
  method : String
  target : Target
  body : Body

/-- What an answer carries. -/
inductive Content
  | nothing
  | value (v : Json)
  | faults (fs : List Fault)
  /-- The words with which the server says that something went wrong. -/
  | apology
  deriving Repr

structure Response where
  status : Nat
  content : Content
  deriving Repr

namespace Content

/-- The content as one JSON value. -/
def json : Content → Json
  | nothing => .null
  | value v => v
  | faults fs => .array ((Fault.sort fs).map Fault.json)
  | apology => .text "Internal Server Error"

end Content

namespace Response

def ok (v : Json) : Response := ⟨200, .value v⟩

def created (v : Json) : Response := ⟨201, .value v⟩

def done : Response := ⟨204, .nothing⟩

/-- An answer that tells what is wrong. -/
def detail (status : Nat) (v : Json) : Response := ⟨status, .value (.object [("detail", v)])⟩

def message (status : Nat) (s : String) : Response := detail status (.text s)

def failure : Response := ⟨500, .apology⟩

end Response

/-- The answer to a body that is not understood. It tells the faulty values too, which fails if one of
them cannot be written. -/
def BodyError.response : BodyError → Response
  | .faults fs => if fs.all (·.value.isFinite) then ⟨422, .faults fs⟩ else .failure
  | .unparsable => .message 400 "There was an error parsing the body"

/-- The answer to a failure that has one. -/
def response? (f : Failure) : Option Response :=
  if f.isA .connectorNotFound || f.isA .typeNotFound then some (.message 404 ("Not found: " ++ f.message))
  else if f.isA .connectorExists then some (.message 409 f.message)
  else if f.isA .value then some (.message 400 f.message)
  else if f.isA .instantiator || f.isA .persistentStore then some (.message 500 f.message)
  else none

/-- Performs an action; a failure that has an answer is answered. -/
def answering (respond : Failure → Option Response) (a : Act α) (next : α → Act Response) :
    Act Response := do
  match ← attempt a with
  | .ok x => next x
  | .error e =>
    match respond e with
    | some r => return r
    | none => throw e

/-- Performs an action whose value is answered. -/
def answeringWith (a : Act α) (present : α → Response) : Act Response :=
  answering response? a fun x => return present x

/-- Goes on with what a body describes. -/
def reading (b : Body) (f : Members → Checked α) (next : α → Act Response) : Act Response :=
  match b.read f with
  | .ok x => next x
  | .error e => return e.response

def configJson (c : Config) : Json := .object (c.entries.map fun (k, v) => (k, .text v))

def formJson (f : Form) : Json :=
  .object [("message", .ofText? f.message), ("form_snippet", .ofText? f.snippet),
    ("config_data", (f.config.map configJson).getD .null)]

def statusJson (s : Administration.Status) : Json :=
  .object [("name", .text s.name), ("type", .text s.typeName), ("status", .integer 0),
    ("schedule", .ofText? s.schedule)]

def namesJson (names : List String) : Json := .array (names.map .text)

/-- What is shown of a run's log: no trace. -/
def shownLog (s : String) : String :=
  String.ofList (Text.upTo Traversal.traceHeading.toList s.toList)

def runJson (r : Run) : Json :=
  .object [("id", .integer r.id), ("connector", .text r.connector),
    ("status", .text r.status.name), ("started_at", .text r.started.isoText),
    ("finished_at", .ofText? (r.finished.map (·.isoText))), ("item_count", .integer r.items),
    ("error_log", .ofText? (r.errorLog.map shownLog))]

def gateJson (g : FeederGate) : Json := .object [("host", g.host), ("port", .integer g.port)]

/-- Applies a configuration; the status of the connector is the answer. -/
def configure (name : String) (p : ConfigPayload) (update : Bool) (success : Json → Response) :
    Act Response :=
  answering response? (Administration.configure name p.typeName p.config p.language update) fun
    | some form => return .detail 400 (formJson form)
    | none => do return success (statusJson (← Administration.status name))

/-- The answer to a failure to tell the status of a connector. -/
def statusResponse? (f : Failure) : Option Response :=
  if f.isA .value then some (.message 404 "Connector not found") else none

/-- The answer to a failure to store the feeder gate. -/
def gateResponse? (f : Failure) : Option Response :=
  if f.isA .persistentStore then some (.message 500 f.message) else none

/-- The most runs that are listed. -/
def runLimit : Nat := 50

/-- Answers a request for a resource by a method that it answers. -/
def perform (r : Request) : Resource → Act Response
  | .health => do
    return .ok (.object [("status", .text "ok"), ("scheduled", namesJson (← node).trackedNames)])
  | .types => do return .ok (namesJson (← Administration.typeNames))
  | .typeForm typeName =>
    answeringWith (Administration.form typeName (r.target.parameter? "language")) fun f =>
      .ok (formJson f)
  | .connectors =>
    if r.method = "POST" then
      reading r.body (·.connectorPayload) fun p => configure p.name p.settings false .created
    else do return .ok (.array ((← Administration.statuses).map statusJson))
  | .connector name =>
    if r.method = "PUT" then reading r.body (·.configPayload) fun p => configure name p true .ok
    else if r.method = "DELETE" then answeringWith (Administration.remove name) fun _ => .done
    else answering statusResponse? (Administration.status name) fun s => return .ok (statusJson s)
  | .config name => answeringWith (Administration.config name) fun c => .ok (configJson c)
  | .form name =>
    answeringWith (Administration.filledForm name (r.target.parameter? "language")) fun f =>
      .ok (formJson f)
  | .schedule name =>
    reading r.body (·.schedulePayload) fun p =>
      answeringWith (Administration.setSchedule name p.load p.retryDelay p.intervals) fun s =>
        .ok (.object [("schedule", .text s)])
  | .restart name => answeringWith (Administration.restart name) fun _ => .done
  | .authenticate name =>
    reading r.body (·.identity) fun i => do
      return .ok (.object [("valid", .bool (← Administration.authenticate name i))])
  | .authorize name =>
    reading r.body (·.authorizePayload) fun p => do
      return .ok (.object [("authorized", namesJson (← Administration.authorize name p.docids p.username))])
  | .gate =>
    reading r.body (·.gatePayload) fun p =>
      answering gateResponse? (Administration.setGate p.host p.port) fun g => return .ok (gateJson g)
  | .runs => do
    let runs ← transact .database (Runs.recent (r.target.parameter? "connector") runLimit)
    return .ok (.array (runs.map runJson))
  | .documentation => return ⟨200, .nothing⟩

/-- Answers a request by its path and its method. -/
def route (r : Request) : Act Response :=
  match Resource.ofPath? r.target.path with
  | some resource =>
    if resource.methods.contains r.method then perform r resource
    else return .message 405 "Method Not Allowed"
  | none =>
    if Resource.isElsewhere r.target.path then return ⟨307, .nothing⟩
    else return .message 404 "Not Found"

/-- Answers a request, whatever goes wrong. The answer to a request by the method `HEAD` carries
nothing. -/
def answer (r : Request) : Act Response := do
  let response ← tryCatch (route r) fun _ => return .failure
  return if r.method = "HEAD" then { response with content := .nothing } else response

end ConnectorHub.Api
