import ConnectorHub.Store.Database

/-! The stored schedules of connectors. A time is stored without its offset. -/
namespace ConnectorHub.Store.Schedules

open Transaction Time

/-- The schedule of a connector. -/
def find? (name : String) : Transaction (Option ScheduleRow) := do
  return (← read .schedules).schedules.get? name

/-- All schedules in ascending order of their connectors. -/
def all : Transaction (List (String × ScheduleRow)) := do
  return (← read .schedules).schedules.entries

def write (kind : StatementKind) (name : String) (row : ScheduleRow) : Transaction Unit :=
  Transaction.write kind .schedules fun rows =>
    { rows with schedules := rows.schedules.insert name row }

/-- Stores the text of a schedule; its times stay as they are. -/
def put (name text : String) : Transaction Unit := do
  match ← find? name with
  | none => write .insert name { text }
  | some old => if old.text = text then return () else write .update name { old with text }

/-- Stores when a connector was traversed and when it is next due, if it has a schedule. Times that
are stored already are not written again; a time with an offset never is. -/
def markRun (name : String) (lastRun nextDue : Option DateTime) : Transaction Unit := do
  match ← find? name with
  | none => return ()
  | some old =>
    if old.lastRun = lastRun ∧ old.nextDue = nextDue then return ()
    else
      write .update name { old with
        lastRun := lastRun.map (·.withoutOffset)
        nextDue := nextDue.map (·.withoutOffset) }

end ConnectorHub.Store.Schedules
