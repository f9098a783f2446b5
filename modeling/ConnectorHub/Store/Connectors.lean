import ConnectorHub.Store.Database

/-! The stored configurations of connectors. -/
namespace ConnectorHub.Store.Connectors

open Transaction

/-- What is stored about a connector. -/
def find? (name : String) : Transaction (Option ConnectorRow) := do
  return (← read .connectors).connectors.get? name

/-- The names of all connectors in ascending order. -/
def names : Transaction (List String) := do return (← read .connectors).connectors.names

/-- Stores a connector's type and configuration as a whole. What is stored already is not written
again. -/
def put (name : String) (row : ConnectorRow) : Transaction Unit := do
  let write (kind : StatementKind) : Transaction Unit :=
    write kind .connectors fun rows => { rows with connectors := rows.connectors.insert name row }
  match ← find? name with
  | none => write .insert
  | some old => if old = row then return () else write .update

/-- Takes a connector out, with its schedule and its traversal state. -/
def remove (name : String) : Transaction Unit := do
  write .delete .schedules fun rows => { rows with schedules := rows.schedules.erase name }
  write .delete .states fun rows => { rows with states := rows.states.erase name }
  write .delete .connectors fun rows => { rows with connectors := rows.connectors.erase name }

end ConnectorHub.Store.Connectors
