import ConnectorHub.Hub.Desk
import ConnectorHub.Number.Shortest
import ConnectorHub.Store.Schedules

/-! The scheduler of a node. It watches the stored schedules and puts the traversals that are due on
the queue, each under a lock, so that no connector is traversed twice at a time. -/
namespace ConnectorHub.Scheduler

open Store Time Act Text

/-- Stops watching a connector that is watched. Its job is dropped if it still waits, and the lock
with it; a traversal that runs keeps its lock. -/
def untrack (name : String) : Act Unit := do
  let n ← node
  if n.tracked.any (·.1 = name) then
    changeNode fun n => { n with tracked := n.tracked.filter (·.1 ≠ name) }
    let s ← site
    changeSite (·.dropJobs (jobId name))
    if s.isQueued (jobId name) then changeSite (·.unlock (lockKey name))

/-- What is watched after the stored schedules were read: those watched before first. -/
def refresh (tracked : List (String × ScheduleRow)) (stored : List (String × ScheduleRow)) :
    List (String × ScheduleRow) :=
  tracked.filterMap (fun t => stored.find? (·.1 = t.1)) ++
    stored.filter fun s => tracked.all (·.1 ≠ s.1)

/-- Watches exactly the connectors with a stored schedule. -/
def sync : Act Unit := do
  let stored ← store "list schedules" Schedules.all
  changeNode fun n => { n with tracked := refresh n.tracked stored }

/-- The connector is due. A malformed schedule is passed over. -/
def isDue (now : DateTime) (name : String) (row : ScheduleRow) : Act Bool := do
  match Schedule.parse row.text with
  | .ok s => return s.isDue row.nextDue now
  | .error _ =>
    warn ("Ignoring malformed schedule " ++ quoted row.text ++ " for " ++ name)
    return false

/-- The lock that is taken at a time. -/
def lockAt (now : DateTime) (ttl : Int) : Lock := ⟨now.timestamp.text, some ttl⟩

/-- Puts a job on the queue, if the queue takes it. -/
def queueUp (j : Job) : Act Unit := do
  if (← site).refuses j then throw (.notQueued j.connector)
  changeSite (·.enqueue j)

/-- Takes the lock of a connector and puts its traversal on the queue, unless the lock is taken. -/
def enqueue (now : DateTime) (name : String) : Act Bool := do
  let s ← site
  match s.lock? (lockKey name) (lockAt now s.settings.lockTtl) with
  | none => return false
  | some s =>
    changeSite fun _ => s
    queueUp ⟨name⟩
    return true

/-- The connectors among those that are watched which are due. -/
def dueAmong (now : DateTime) (tracked : List (String × ScheduleRow)) : Act (List String) := do
  let due ← tracked.filterM fun t => isDue now t.1 t.2
  return due.map (·.1)

/-- Reads the schedules anew and puts all traversals that are due on the queue. -/
def enqueueDue (now : Option DateTime) : Act (List String) := do
  let now ← match now with
    | some t => pure t
    | none => readClock
  let now := now.inUtc
  sync
  let due ← dueAmong now (← node).tracked
  due.filterM (enqueue now)

end ConnectorHub.Scheduler
