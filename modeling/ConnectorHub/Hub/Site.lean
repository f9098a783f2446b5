import ConnectorHub.Connector.Type
import ConnectorHub.Settings
import ConnectorHub.Time.DateTime

/-! What the nodes of a hub share: the database, the locks and the queue of traversals, the types of
connectors, the clock, the files, and a record of what connectors were asked and what was logged. -/
namespace ConnectorHub

open Store Time

/-- The key of the lock that a connector's traversal holds. -/
def lockKey (connector : String) : String := "connector:" ++ connector ++ ":lock"

/-- The name of a connector's job. -/
def jobId (connector : String) : String := "traversal:" ++ connector

/-- The name of the queue of traversals. -/
def queueName : String := "traversals"

/-- What a worker is to perform. -/
def traversalTask : String := "workers.tasks.run_traversal"

/-- How long a job may take. -/
def jobTimeout : String := "30m"

/-- A lock tells when it was taken, and after how many seconds it may be dropped. -/
structure Lock where
  taken : String
  ttl : Option Int
  deriving DecidableEq, Repr

/-- A job of the queue: the traversal of one connector. -/
structure Job where
  connector : String
  deriving DecidableEq, Repr

def Job.id (j : Job) : String := jobId j.connector

/-- A clock that moves on by `tick` microseconds whenever it is read. -/
structure Clock where
  now : DateTime
  tick : Int := 0
  deriving DecidableEq, Repr

namespace Clock

/-- The clock after a reading. It stops at the end of the calendar. -/
def advance (c : Clock) : Clock := { c with now := (c.now.add? c.tick).getD c.now }

/-- The start of 2024, at noon in UTC. -/
def standard : Clock := ⟨⟨(⟨2024, 1, 1⟩ : Date).dayNumber * microsPerDay + 12 * microsPerHour, some 0⟩, 0⟩

end Clock

/-- What a type of connectors, given by its serial number, or one of its connectors was asked. -/
inductive Call
  | made (serial : Nat)
  | asked (serial : Nat) (identity : Identity)
  | resumed (serial : Nat) (checkpoint : Option String) (hint : Nat)
  deriving DecidableEq, Repr

inductive LogLevel
  | warning
  | error
  deriving DecidableEq, Repr

structure LogEntry where
  level : LogLevel
  message : String
  deriving DecidableEq, Repr

structure Site where
  settings : Settings := {}
  /-- The file of the feeder gate, if the hub keeps one. -/
  gateFile : Option GateFile := none
  database : Database := {}
  locks : Table Lock := .empty
  /-- The oldest job first. -/
  queue : List Job := []
  /-- The jobs that the queue does not take. -/
  refuses : Job → Bool := fun _ => false
  /-- The names of all jobs that were ever to be dropped from the queue. -/
  dropped : List String := []
  /-- Catalogs in the order in which they came into use. -/
  catalogs : List Catalog := [[]]
  clock : Clock := .standard
  files : Files.Tree := {}
  calls : List Call := []
  log : List LogEntry := []

namespace Site

/-- Takes a lock unless it is taken. -/
def lock? (s : Site) (key : String) (lock : Lock) : Option Site :=
  if s.locks.contains key then none else some { s with locks := s.locks.insert key lock }

/-- Frees a lock. -/
def unlock (s : Site) (key : String) : Site := { s with locks := s.locks.erase key }

/-- Drops the jobs of a name from the queue. -/
def dropJobs (s : Site) (id : String) : Site :=
  { s with queue := s.queue.filter (·.id ≠ id), dropped := s.dropped ++ [id] }

/-- A job of this name waits. -/
def isQueued (s : Site) (id : String) : Bool := s.queue.any (·.id = id)

/-- Puts a job at the end of the queue. -/
def enqueue (s : Site) (j : Job) : Site := { s with queue := s.queue ++ [j] }

/-- The catalog with a number. -/
def catalog (s : Site) (n : Nat) : Catalog := (s.catalogs[n]?).getD []

/-- The number of the catalog in use. -/
def latest (s : Site) : Nat := s.catalogs.length - 1

/-- Registers a type in the catalog in use. -/
def register (s : Site) (t : ConnectorType) : Site :=
  { s with catalogs := s.catalogs.modify s.latest (Catalog.register t) }

/-- Puts a new catalog in use. -/
def useCatalog (s : Site) (c : Catalog) : Site := { s with catalogs := s.catalogs ++ [c] }

def record (s : Site) (c : Call) : Site := { s with calls := s.calls ++ [c] }

def logs (s : Site) (e : LogEntry) : Site := { s with log := s.log ++ [e] }

end Site

end ConnectorHub
