import ConnectorHub.Store.Database

/-! The log of runs. -/
namespace ConnectorHub.Store.Runs

open Transaction Time

/-- The number of the next run: one more than the greatest. -/
def nextId (runs : List Run) : Int := ((runs.map (·.id)).max?.getD 0) + 1

/-- Puts a run behind those with smaller numbers. -/
def place (run : Run) : List Run → List Run
  | [] => [run]
  | r :: rs => if run.id < r.id then run :: r :: rs else r :: place run rs

/-- Puts a run among the others. -/
def add (run : Run) : Transaction Unit :=
  change fun rows => { rows with runs := place run rows.runs }

/-- Logs that a run has started, and gives its number. -/
def start (connector : String) (started : DateTime) : Transaction Int := do
  issue .insert .runs
  let id := nextId (← rows).runs
  add { id, connector, status := .running, started := started.withoutOffset }
  return id

/-- How a run ended. -/
structure Outcome where
  status : RunStatus
  items : Nat
  errorLog : Option String
  deriving DecidableEq, Repr

/-- Logs how a run has ended. -/
def finish (id : Int) (outcome : Outcome) (finished : DateTime) : Transaction Unit := do
  let _ ← read .runs
  write .update .runs fun rows => { rows with runs := rows.runs.map fun r =>
    if r.id = id then { r with
      status := outcome.status
      items := outcome.items
      errorLog := outcome.errorLog
      finished := some finished.withoutOffset }
    else r }

/-- A run to be logged as a whole. What is missing of number and items gets the next number and 0. -/
structure Draft where
  id : Option Int
  connector : Option String
  status : Option String
  started : Option DateTime
  finished : Option DateTime
  items : Option Int
  errorLog : Option String
  deriving DecidableEq, Repr

/-- Logs a run that keeps the rules: connector, status and start are given, the status is known, and
its number is new. -/
def addDraft (d : Draft) : Transaction Unit := do
  issue .insert .runs
  let runs := (← rows).runs
  let id := d.id.getD (nextId runs)
  checkInteger id
  checkInteger (d.items.getD 0)
  match d.connector, d.status.bind RunStatus.ofName?, d.started with
  | some connector, some status, some started =>
    if runs.any (·.id = id) then throw .integrity
    else
      add {
        id, connector, status
        started := started.withoutOffset
        finished := d.finished.map (·.withoutOffset)
        items := d.items.getD 0
        errorLog := d.errorLog }
  | _, _, _ => throw .integrity

/-- The latest runs, at most `limit`: of one connector, or of all if none is named. -/
def recent (connector : Option String) (limit : Nat) : Transaction (List Run) := do
  let runs := (← read .runs).runs
  let wanted := match connector with
    | none | some "" => runs
    | some c => runs.filter (·.connector = c)
  return (wanted.mergeSort fun a b => b.started.micros ≤ a.started.micros).take limit

end ConnectorHub.Store.Runs
