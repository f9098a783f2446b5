import ConnectorHub.Api.Service
import ConnectorHub.Scenario.Role

/-! What operations do, and their answers as JSON values. -/
namespace ConnectorHub.Scenario

open Store Time Act

namespace Operation

def noAnswer (a : Act Unit) : Act Json := do
  a
  return .null

def flag (a : Act Bool) : Act Json := do return .bool (← a)

def text? (a : Act (Option String)) : Act Json := do return .ofText? (← a)

def list (a : Act (List String)) : Act Json := do return Api.namesJson (← a)

def dateJson (t : Option DateTime) : Json := .ofText? (t.map (·.isoText))

def scheduleJson (name : String) (r : ScheduleRow) : Json :=
  .array [.text name, .text r.text, dateJson r.lastRun, dateJson r.nextDue]

/-- Which capabilities a connector has. -/
def capabilitiesJson (c : Connector) : Json :=
  .object [("authn", .bool c.authenticate?.isSome), ("authz", .bool c.authorize?.isSome),
    ("traverser", .bool c.traverses)]

/-- The statuses of all connectors, where some are removed after the names were listed. -/
def statusesWithout (vanishing : List String) : Act (List Administration.Status) := do
  let names ← Instances.names
  vanishing.forM Instances.remove
  Administration.statusesOf names

/-- Performs an action on a manager without a file for the feeder gate. -/
def withoutGate (a : Act α) : Act α := do
  let f := (← site).gateFile
  changeSite fun s => { s with gateFile := none }
  let answer ← attempt a
  changeSite fun s => { s with gateFile := f }
  give answer

/-- What a request brings along. A null is no body. -/
def body (value : Option Json) (text : Option String) : Api.Body :=
  match text, value with
  | some s, _ => .text s
  | none, none | none, some .null => .absent
  | none, some v => .value v

def responseJson (r : Api.Response) : Json :=
  .object [("status", .integer r.status), ("body", r.content.json)]

/-- Puts on the queue what is due at the start of the management interface. A failure is only
logged. -/
def startInterface : Act Unit := do
  match ← attempt (Scheduler.enqueueDue none) with
  | .ok _ => return ()
  | .error _ => changeSite (·.logs ⟨.error, "Failed to enqueue due traversals on startup"⟩)

/-- Performs an operation. -/
def perform : Operation → Act Json
  | .authenticate name identity => flag (Administration.authenticate name identity)
  | .authorize name docids username => list (Administration.authorize name docids username)
  | .form typeName language => do return Api.formJson (← Administration.form typeName language)
  | .connectorForm name language => do return Api.formJson (← Administration.filledForm name language)
  | .status name => do return Api.statusJson (← Administration.status name)
  | .statuses vanishing => do return .array ((← statusesWithout vanishing).map Api.statusJson)
  | .typeNames => list Administration.typeNames
  | .type typeName => do return .text (← Instances.type typeName).name
  | .configure name typeName settings language update => do
    return ((← Administration.configure name typeName settings language update).map Api.formJson).getD .null
  | .setGate host port hasFile => do
    let set := Administration.setGate host port
    return Api.gateJson (← if hasFile then set else withoutGate set)
  | .setSchedule name load retryDelay intervals => do
    return .text (← Administration.setSchedule name load retryDelay intervals)
  | .remove name => noAnswer (Administration.remove name)
  | .restart name => noAnswer (Administration.restart name)
  | .config name => do return Api.configJson (← Administration.config name)
  | .has name => flag (Instances.has name)
  | .names => list Instances.names
  | .registered => list Instances.typeNames
  | .capabilities name => do return capabilitiesJson (← Instances.find name).connector
  | .typeForm name typeName language => do
    return Api.formJson (← Instances.filledForm name typeName (.ofTag? language))
  | .getSchedule name => text? (Instances.schedule? name)
  | .setScheduleText name text => noAnswer (Instances.setSchedule name text)
  | .checkpoint name => text? (Instances.checkpoint name)
  | .setCheckpoint name mark => noAnswer (Instances.setCheckpoint name mark)
  | .snapshot name => do
    let s ← Instances.snapshot name
    return .object [("checkpoint", .ofText? s.checkpoint), ("generation", .integer s.generation)]
  | .advance name mark generation => flag (Instances.advance name mark generation)
  | .removeInstance name => noAnswer (Instances.remove name)
  | .restartInstance name => noAnswer (Instances.restart name)
  | .storedConnector name => do
    match ← store ("read connector " ++ name) (Connectors.find? name) with
    | none => return .null
    | some r => return .array [.text name, .text r.typeName, Api.configJson r.config]
  | .storeConnector name row => noAnswer (store ("store connector " ++ name) (Connectors.put name row))
  | .eraseConnector name => noAnswer (store ("remove connector " ++ name) (Connectors.remove name))
  | .resetState name => noAnswer (store ("reset traversal state for " ++ name) (States.reset name))
  | .storeSchedule name text =>
    noAnswer (store ("store schedule for " ++ name) (Schedules.put name text))
  | .storedSchedule name => do
    let r ← store ("read schedule for " ++ name) (Schedules.find? name)
    return (r.map (scheduleJson name)).getD .null
  | .storedSchedules => do
    let rs ← store "list schedules" Schedules.all
    return .array (rs.map fun (name, r) => scheduleJson name r)
  | .markRun name lastRun nextDue =>
    noAnswer (store ("update run times for " ++ name) (Schedules.markRun name lastRun nextDue))
  | .sync => noAnswer Scheduler.sync
  | .tracked => do return Api.namesJson (← node).trackedNames
  | .untrack name => noAnswer (Scheduler.untrack name)
  | .enqueue now => list (Scheduler.enqueueDue now)
  | .startup => noAnswer startInterface
  | .request method target value text => do
    return responseJson (← Api.answer ⟨Text.upper method, .ofText target, body value text⟩)

end Operation

end ConnectorHub.Scenario
