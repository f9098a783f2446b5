import ConnectorHub.Hub.Desk
import ConnectorHub.Store.Connectors
import ConnectorHub.Store.Schedules
import ConnectorHub.Store.States

/-! The connectors of a node. Each is made from its stored configuration when it is first needed and
kept from then on; what is stored about it is told without making it. -/
namespace ConnectorHub.Instances

open Store Act

/-- The name of every connector in ascending order. -/
def names : Act (List String) := store "list connectors" Connectors.names

/-- What is stored about a connector. -/
def readRow (name : String) : Act (Option ConnectorRow) :=
  replacing .persistentStore (.notRead name) (store ("read connector " ++ name) (Connectors.find? name))

/-- What is known about a connector: from the instance at hand, else from the store. -/
def row? (name : String) : Act (Option ConnectorRow) := do
  match (← node).live.get? name with
  | some i => return some i.row
  | none => readRow name

/-- As `row?`, for a connector that has to exist. -/
def row (name : String) : Act ConnectorRow := do
  match ← row? name with
  | some r => return r
  | none => throw (.connectorNotFound name)

/-- There is a connector of this name. -/
def has (name : String) : Act Bool := do return (← row? name).isSome

/-- The type of a name. -/
def type (typeName : String) : Act ConnectorType := do
  match ← findType? typeName with
  | some t => return t
  | none => throw (.typeNotFound typeName)

/-- The names of all types in the order of their registration. -/
def typeNames : Act (List String) := do
  let d ← get
  return (d.site.catalog d.node.catalog).names

/-- Makes a connector. Whatever goes wrong in its type, it is not built. -/
def build (name : String) (t : ConnectorType) (config : Config) : Act Instance := do
  match t.make config with
  | .error _ => throw (.notBuilt name)
  | .ok connector =>
    changeSite (·.record (.made t.serial))
    return ⟨t.name, config, connector⟩

/-- Keeps an instance at hand. -/
def keep (name : String) (i : Instance) : Act Unit :=
  changeNode fun n => { n with live := n.live.insert name i }

/-- The instance of a connector, made if it is not at hand. -/
def find (name : String) : Act Instance := do
  match (← node).live.get? name with
  | some i => return i
  | none =>
    match ← readRow name with
    | none => throw (.connectorNotFound name)
    | some r =>
      match ← findType? r.typeName with
      | none => throw (.typeOfConnectorUnknown name r.typeName)
      | some t =>
        let i ← build name t r.config
        keep name i
        return i

/-- The text of a connector's schedule, none if it has no schedule. -/
def schedule? (name : String) : Act (Option String) := do
  let _ ← row name
  let r ← store ("read schedule for " ++ name) (Schedules.find? name)
  return r.map (·.text)

def setSchedule (name text : String) : Act Unit := do
  let _ ← row name
  store ("store schedule for " ++ name) (Schedules.put name text)

/-- Where the traversal of a connector goes on. -/
def checkpoint (name : String) : Act (Option String) :=
  store ("read traversal state for " ++ name) (States.checkpoint name)

def setCheckpoint (name : String) (checkpoint : Option String) : Act Unit :=
  store ("store traversal state for " ++ name) (States.put name checkpoint)

def snapshot (name : String) : Act Snapshot :=
  store ("read traversal state for " ++ name) (States.snapshot name)

/-- Stores the checkpoint of a traversal that began in the generation, unless the traversal was
started over since. -/
def advance (name : String) (checkpoint : Option String) (generation : Int) : Act Bool :=
  store ("store traversal state for " ++ name) (States.putIfCurrent name checkpoint generation)

/-- The form of a type, filled with the configuration of a connector. -/
def filledForm (name typeName : String) (locale : Locale) : Act Form := do
  let r ← row name
  match ← findType? typeName with
  | none => throw (.typeOfConnectorUnknown name typeName)
  | some t => give (t.filledForm r.config locale)

/-- Refuses to configure a connector that has to exist and does not, that must not exist and does,
or that has another type. -/
def checkConfigurable (name typeName : String) (known : Option ConnectorRow) (update : Bool) :
    Except Failure Unit :=
  match known with
  | none => if update then .error (.connectorNotFound name) else .ok ()
  | some r =>
    if !update then .error (.connectorExists name)
    else if r.typeName ≠ typeName then .error (.otherType name r.typeName typeName)
    else .ok ()

/-- Makes, stores and keeps a connector. -/
def install (name : String) (t : ConnectorType) (typeName : String) (config : Config) :
    Act Unit := do
  let i ← build name t config
  store ("store connector " ++ name) (Connectors.put name ⟨typeName, i.config⟩)
  keep name i

/-- Configures a new connector, or an existing one anew. The answer is the form with which the type
refuses the configuration, none if it is applied. -/
def configure (name typeName : String) (config : Config) (locale : Locale) (update : Bool) :
    Act (Option Form) := do
  give (checkConfigurable name typeName (← row? name) update)
  match ← findType? typeName with
  | none => throw (.typeUnknown typeName)
  | some t =>
    match ← give (t.check config locale) with
    | some form =>
      if form.isRefusal then return some form
      else
        install name t typeName config
        return none
    | none =>
      install name t typeName config
      return none

/-- Removes a connector and all that is stored about it, whether it exists or not. -/
def remove (name : String) : Act Unit := do
  changeNode fun n => { n with live := n.live.erase name }
  replacing .persistentStore (.notRemoved name)
    (store ("remove connector " ++ name) (Connectors.remove name))

/-- Starts the traversal of a connector over: its checkpoint and its times are forgotten. -/
def restart (name : String) : Act Unit := do
  let _ ← row name
  replacing .persistentStore (.notReset name) do
    store ("reset traversal state for " ++ name) (States.reset name)
    store ("update run times for " ++ name) (Schedules.markRun name none none)

end ConnectorHub.Instances
