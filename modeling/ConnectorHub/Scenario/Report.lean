import ConnectorHub.Scenario.World

/-! Playing a scenario: what came of each step, and the state of the world whenever it is another one
than before. -/
namespace ConnectorHub

open Store Time Text

/-- A scenario: the cast, how many of it are registered from the start, the settings of the site, the
time at which it begins, and the steps. -/
structure Scenario where
  cast : List Scenario.Role
  registered : List Nat
  settings : Settings
  gateFile : GateFile
  start : Option DateTime
  steps : List Scenario.Step

namespace Scenario

/-- What can be seen of a world. Types are named, and only what was done with the latest of a name is
seen. -/
structure State where
  connectors : List (String × ConnectorRow)
  schedules : List (String × ScheduleRow)
  traversal : List (String × StateRow)
  runs : List Run
  /-- What the nodes in use watch. -/
  tracked : List (Nat × List String)
  locks : List (String × Lock)
  jobs : List Job
  droppedJobs : List String
  made : List (String × Nat)
  identities : List (String × List Identity)
  resumed : List (String × List (Option String × Nat))
  during : List (String × List Outcome)
  gateText : Option String
  deriving BEq

namespace World

/-- What the nodes in use watch. -/
def trackedNames (w : World) : List (Nat × List String) :=
  w.seats.map fun (number, place) => (number, (((w.nodes[place]?).getD {}).trackedNames))

/-- Something about each type that is seen. -/
def ofTypes (w : World) (f : Nat → α) : List (String × α) :=
  w.current.entries.map fun (name, serial) => (name, f serial)

/-- How many connectors of a type were made. -/
def madeCount (w : World) (serial : Nat) : Nat :=
  w.site.calls.countP fun
    | .made s => s = serial
    | _ => false

/-- The identities that connectors of a type were asked about. -/
def identities (w : World) (serial : Nat) : List Identity :=
  w.site.calls.filterMap fun
    | .asked s i => if s = serial then some i else none
    | _ => none

/-- The checkpoints and hints with which connectors of a type were to go on. -/
def resumed (w : World) (serial : Nat) : List (Option String × Nat) :=
  w.site.calls.filterMap fun
    | .resumed s c hint => if s = serial then some (c, hint) else none
    | _ => none

/-- What came of the steps during traversals of a type. -/
def outcomes (w : World) (serial : Nat) : List Outcome :=
  (w.during.filter (·.1 = serial)).map (·.2)

/-- The text of the feeder gate's file. -/
def gateText (w : World) : Option String := do
  let f ← w.site.gateFile
  match w.site.files.at? f.path with
  | some (.file bytes) => some (Utf8.decodeLossy bytes)
  | _ => none

def state (w : World) : State :=
  let rows := w.site.database.rows
  { connectors := rows.connectors.entries
    schedules := rows.schedules.entries
    traversal := rows.states.entries
    runs := rows.runs
    tracked := (w.trackedNames.filter (!·.2.isEmpty)).mergeSort fun a b => a.1 ≤ b.1
    locks := w.site.locks.entries
    jobs := w.site.queue
    droppedJobs := w.site.dropped
    made := (w.ofTypes w.madeCount).filter (·.2 ≠ 0)
    identities := (w.ofTypes w.identities).filter (!·.2.isEmpty)
    resumed := (w.ofTypes w.resumed).filter (!·.2.isEmpty)
    during := (w.ofTypes w.outcomes).filter (!·.2.isEmpty)
    gateText := w.gateText }

end World

/-- What is told about a step. -/
structure Report where
  outcome : Outcome
  state : Option State

/-- Performs steps one after the other, where `seen` is the state that was told last. -/
def play (resume : Resumption) : List Step → Option State → World → List Report
  | [], _, _ => []
  | s :: rest, seen, w =>
    let (outcome, w) := s.perform resume w
    let state := w.state
    if seen == some state then ⟨outcome, none⟩ :: play resume rest seen w
    else ⟨outcome, some state⟩ :: play resume rest (some state) w

/-- The world at the beginning. -/
def world (s : Scenario) : World :=
  let site : Site := {
    settings := s.settings
    gateFile := some s.gateFile
    clock := { Clock.standard with now := s.start.getD Clock.standard.now } }
  s.registered.foldl World.register { cast := s.cast, site }

/-- The number of all scripted batches, more than which there cannot be traversals inside of
traversals, as each takes one. -/
def batchCount (s : Scenario) : Nat := s.cast.foldl (fun n r => n + (r.batches.getD []).length) 0

/-- Plays a scenario. -/
def reports (s : Scenario) : List Report := play (resume (s.batchCount + 1)) s.steps none s.world

end Scenario

end ConnectorHub
