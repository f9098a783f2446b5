import ConnectorHub.Connector.Form
import ConnectorHub.Store.Runs

/-! The steps of a scenario: what is asked of a node, and what else can happen at a site. Types of
connectors are named by their numbers in the cast. -/
namespace ConnectorHub.Scenario

open Store Time

/-- What can be asked of a node. -/
inductive Operation
  | authenticate (name : String) (identity : Identity)
  | authorize (name : String) (docids : List String) (username : String)
  | form (typeName : String) (language : Option String)
  | connectorForm (name : String) (language : Option String)
  | status (name : String)
  /-- The statuses of all connectors, where some are removed after the names were listed. -/
  | statuses (vanishing : List String)
  | typeNames
  | type (typeName : String)
  | configure (name typeName : String) (config : Config) (language : Option String) (update : Bool)
  /-- Stores the feeder gate, on a manager with or without a file for it. -/
  | setGate (host : String) (port : Int) (hasFile : Bool)
  | setSchedule (name : String) (load retryDelay : Int) (intervals : String)
  | remove (name : String)
  | restart (name : String)
  | config (name : String)
  | has (name : String)
  | names
  | registered
  | capabilities (name : String)
  | typeForm (name typeName : String) (language : Option String)
  | getSchedule (name : String)
  | setScheduleText (name text : String)
  | checkpoint (name : String)
  | setCheckpoint (name : String) (checkpoint : Option String)
  | snapshot (name : String)
  | advance (name : String) (checkpoint : Option String) (generation : Int)
  | removeInstance (name : String)
  | restartInstance (name : String)
  | storedConnector (name : String)
  | storeConnector (name : String) (row : ConnectorRow)
  | eraseConnector (name : String)
  | resetState (name : String)
  | storeSchedule (name text : String)
  | storedSchedule (name : String)
  | storedSchedules
  | markRun (name : String) (lastRun nextDue : Option DateTime)
  | sync
  | tracked
  | untrack (name : String)
  | enqueue (now : Option DateTime)
  /-- The start of the management interface, at which all that is due is put on the queue. -/
  | startup
  | request (method target : String) (body : Option Json) (text : Option String)

/-- What can happen at a site. -/
inductive Deed
  | ask (op : Operation)
  | traverse (name : String)
  /-- Takes the oldest job off the queue and performs it. -/
  | work
  | setClock (now : Option DateTime) (tick : Option Int)
  | register (serial : Nat)
  /-- The node is made anew, perhaps with a new catalog for it and all later ones. -/
  | reopen (types : Option (List Nat))
  | fail (statements : List Statement)
  | lock (key value : String)
  | dropJobs
  /-- Puts a file where the directory of the feeder gate's file should be. -/
  | blockGate
  | addRuns (runs : List Runs.Draft)

/-- What happens, and at which node. -/
structure Step where
  node : Nat := 0
  deed : Deed

end ConnectorHub.Scenario
