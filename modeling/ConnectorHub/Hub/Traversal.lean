import ConnectorHub.Hub.Instances
import ConnectorHub.Hub.Scheduler
import ConnectorHub.Store.Runs

/-! One batch of a connector's traversal. It begins by logging a run and handing over to the
connector, and finishes when the connector hands back a batch or fails; in between anything may
happen to the connector. A traversal frees its lock in the end, however it ends. -/
namespace ConnectorHub.Traversal

open Store Time Act

/-- A traversal whose run is logged. -/
structure Opened where
  connector : String
  schedule : Schedule
  run : Int

/-- A traversal that was handed over to its connector. -/
structure Running extends Opened where
  serial : Nat
  snapshot : Snapshot

/-- A traversal after its beginning: it may be over at once. -/
inductive Begun
  | over (items : Nat)
  | running (t : Running)

/-- How a traversal went. One that was overtaken leaves the times of its connector alone. -/
structure Result extends Runs.Outcome where
  overtaken : Bool

/-- What a run's log holds after the message of a failure. -/
def traceHeading : String := "\nTraceback (most recent call last):"

/-- The result of a traversal that failed when so many documents were addressed. -/
def failed (items : Nat) (f : Failure) : Result :=
  { status := .error, items, errorLog := some (f.message ++ traceHeading), overtaken := false }

/-- Logs the run of a connector that has a schedule and exists. -/
def open? (name : String) : Act (Option Opened) := do
  let gone : Act (Option Opened) := do
    warn ("Connector " ++ name ++ " is no longer scheduled")
    return none
  match ← store ("read schedule for " ++ name) (Schedules.find? name) with
  | none => gone
  | some row =>
    if ← Instances.has name then
      let schedule ← give ((Schedule.parse row.text).mapError .schedule)
      let started ← readClock
      let run ← transact .database (Runs.start name started)
      return some ⟨name, schedule, run⟩
    else gone

/-- Hands over to the connector. -/
def handOver (t : Opened) : Act Running := do
  let i ← Instances.find t.connector
  if !i.connector.traverses then throw (.noTraversal t.connector)
  let snapshot ← Instances.snapshot t.connector
  changeSite (·.record (.resumed i.connector.serial snapshot.checkpoint t.schedule.load))
  return { t with serial := i.connector.serial, snapshot }

/-- Logs how the run went. Unless it was overtaken, the connector gets the time at which it is due
next. -/
def close (t : Opened) (r : Result) : Act Nat := do
  if r.status = .error then
    changeSite (·.logs ⟨.error, "Traversal for connector " ++ t.connector ++ " failed"⟩)
  let finished ← readClock
  transact .database (Runs.finish t.run r.toOutcome finished)
  if !r.overtaken then
    let items := if r.status = .success then r.items else 0
    let due ← give ((t.schedule.nextDue items finished).mapError .calendar)
    store ("update run times for " ++ t.connector)
      (Schedules.markRun t.connector (some finished) due)
  return r.items

/-- Frees the lock of a connector. -/
def release (name : String) : Act Unit := changeSite (·.unlock (lockKey name))

/-- Performs an action, and in any case frees the lock of a connector. -/
def releasing (name : String) (a : Act α) : Act α := do
  let answer ← attempt a
  release name
  give answer

theorem perform_releasing (name : String) (a : Act α) (d : Desk) :
    (releasing name a).perform d =
      ((a.perform d).1, { (a.perform d).2 with site := (a.perform d).2.site.unlock (lockKey name) }) := by
  simp [releasing, Act.perform_bind, release]

/-- Logs the run and hands over. If that fails, the run is over at once. -/
def start (name : String) : Act Begun := do
  match ← open? name with
  | none => return .over 0
  | some t =>
    match ← attempt (handOver t) with
    | .error e => return .over (← close t (failed 0 e))
    | .ok t => return .running t

/-- Begins the traversal of a connector. If it is over at once, its lock is freed. -/
def begin (name : String) : Act Begun := do
  match ← attempt (start name) with
  | .ok (.running t) => return .running t
  | answer =>
    release name
    give answer

/-- Addresses the documents of a batch one after the other. A document that is unusable is passed
over; `rest` is what hinders all further ones. -/
structure Addressed where
  addresses : List (String × Option String) := []
  refusals : List AddressError := []
  rest : Option AddressError := none
  deriving DecidableEq, Repr

def addressAll (a : Addressing) : List Document → Addressed
  | [] => {}
  | d :: r =>
    match a.address d with
    | .ok address =>
      let others := addressAll a r
      { others with addresses := address :: others.addresses }
    | .error e =>
      if e.isOfDocument then
        let others := addressAll a r
        { others with refusals := e :: others.refusals }
      else { rest := some e }

/-- Stores the checkpoint of a batch, unless the connector was removed or started over since the
traversal began. -/
def storeCheckpoint (t : Running) (checkpoint : Option String) : Act Bool := do
  if ← Instances.has t.connector then
    Instances.advance t.connector checkpoint t.snapshot.generation
  else return false

/-- Addresses the documents of a batch and stores its checkpoint. -/
def settle (t : Running) (b : Batch) : Act Result := do
  let addressing := (← site).settings.addressing t.connector
  let addressed := addressAll addressing b.documents
  for e in addressed.refusals do
    warn ("Skipping document from " ++ addressing.dataSource ++ ": " ++ e.message)
  match addressed.rest with
  | some e => return failed 0 (.address e)
  | none =>
    let items := addressed.addresses.length
    match ← attempt (storeCheckpoint t b.checkpoint) with
    | .error e => return failed items e
    | .ok stored =>
      let messages := addressed.refusals.map (·.message)
      return {
        status := .success, items
        errorLog := if messages.isEmpty then none else some (Text.join "\n" messages)
        overtaken := !stored }

/-- Finishes a traversal with what its connector hands back. -/
def finish (t : Running) (answer : Except Failure Batch) : Act Nat :=
  releasing t.connector do
    let r ← match answer with
      | .error e => pure (failed 0 e)
      | .ok b => settle t b
    close t.toOpened r

/-- A whole traversal, where `resume` is what happens until the connector hands back. -/
def run (resume : Running → Act Batch) (name : String) : Act Nat := do
  match ← begin name with
  | .over items => return items
  | .running t => finish t (← attempt (resume t))

end ConnectorHub.Traversal
