import ConnectorHub.Hub.Instances
import ConnectorHub.Hub.Scheduler

/-! What can be asked of a node about its connectors, and how they are administered. -/
namespace ConnectorHub.Administration

open Store Act

/-- What is logged about a failure that means no, if it is one. -/
def refusal? (name : String) (f : Failure) : Option String :=
  if f.isA .connectorNotFound then some ("Connector " ++ name ++ " not found")
  else if f.isA .instantiator then some ("Instantiator failure for connector " ++ name)
  else if f.isA .repository then some ("Repository failure for connector " ++ name)
  else none

/-- As `refusal?`, for a connector that was asked to authenticate somebody. -/
def loginRefusal? (name : String) (f : Failure) : Option String :=
  if f.isA .repositoryLogin then some ("Login failure for connector " ++ name) else refusal? name f

/-- Performs an action; a failure that means no is logged and gives the answer `no`. -/
def orRefuse (describe : Failure → Option String) (no : α) (a : Act α) : Act α :=
  tryCatch a fun e =>
    match describe e with
    | some message => do
      warn message
      return no
    | none => throw e

/-- The connector accepts the identity. -/
def authenticate (name : String) (identity : Identity) : Act Bool :=
  orRefuse (loginRefusal? name) false do
    let i ← Instances.find name
    match i.connector.authenticate? with
    | none => return false
    | some ask =>
      changeSite (·.record (.asked i.connector.serial identity))
      give (ask identity)

/-- The names among those requested that an answer allows, in ascending order. -/
def granted (requested : List String) (answers : List (String × Bool)) : List String :=
  let allowed := (answers.filter fun a => a.2 && requested.contains a.1).map (·.1)
  (allowed.mergeSort fun a b => decide (a ≤ b)).eraseDups

/-- The documents among those requested that the connector lets the user see. -/
def authorize (name : String) (docids : List String) (username : String) : Act (List String) :=
  orRefuse (refusal? name) [] do
    let i ← Instances.find name
    match i.connector.authorize? with
    | none =>
      warn ("Connector " ++ name ++ " does not support authorization")
      return []
    | some ask =>
      changeSite (·.record (.asked i.connector.serial ⟨username, none, none⟩))
      return granted docids (← give (ask docids ⟨username, none, none⟩))

/-- The empty form of a type. -/
def form (typeName : String) (language : Option String) : Act Form := do
  let t ← Instances.type typeName
  give (t.form (.ofTag? language))

/-- The form of a connector with its configuration. -/
def filledForm (name : String) (language : Option String) : Act Form := do
  let r ← Instances.row name
  Instances.filledForm name r.typeName (.ofTag? language)

structure Status where
  name : String
  typeName : String
  schedule : Option String
  deriving DecidableEq, Repr

/-- The status of a connector. One that does not exist has none, which is logged. -/
def status? (name : String) : Act (Option Status) :=
  tryCatch
    (do
      let r ← Instances.row name
      let schedule ← Instances.schedule? name
      return some ⟨name, r.typeName, schedule⟩)
    fun e =>
      if e.isA .connectorNotFound then do
        warn ("Connector " ++ name ++ " not found")
        return none
      else throw e

def status (name : String) : Act Status := do
  match ← status? name with
  | some s => return s
  | none => throw (.unknownConnector name)

/-- The statuses of those connectors that still exist. -/
def statusesOf (names : List String) : Act (List Status) := do
  return (← names.mapM status?).reduceOption

def statuses : Act (List Status) := do statusesOf (← Instances.names)

/-- The names of all types in ascending order. -/
def typeNames : Act (List String) := do
  return ((← Instances.typeNames).mergeSort fun a b => decide (a ≤ b)).eraseDups

def configure (name typeName : String) (config : Config) (language : Option String)
    (update : Bool) : Act (Option Form) :=
  Instances.configure name typeName config (.ofTag? language) update

/-- Stores the feeder gate. -/
def setGate (host : String) (port : Int) : Act FeederGate := do
  let s ← site
  match s.gateFile with
  | none => throw .noGateFile
  | some f =>
    let (answer, files) := f.store host port s.files
    changeSite fun s => { s with files }
    give (answer.mapError .gate)

/-- Gives a connector a schedule, and tells its text. -/
def setSchedule (name : String) (load retryDelay : Int) (intervals : String) : Act String := do
  let s ← give ((Schedule.make name load retryDelay intervals).mapError .schedule)
  let text ← give (s.format.mapError .schedule)
  Instances.setSchedule name text
  return text

/-- Removes a connector, and then stops watching it. -/
def remove (name : String) : Act Unit := do
  Instances.remove name
  Scheduler.untrack name

/-- Stops watching a connector, and then starts its traversal over. -/
def restart (name : String) : Act Unit := do
  Scheduler.untrack name
  Instances.restart name

def config (name : String) : Act Config := do return (← Instances.row name).config

end ConnectorHub.Administration
