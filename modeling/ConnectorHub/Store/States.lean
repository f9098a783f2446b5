import ConnectorHub.Store.Database

/-! How far the traversals of connectors have come. Starting over begins a new generation, and a
checkpoint is only taken from a traversal that began in the present one. -/
namespace ConnectorHub.Store

/-- What a traversal knows when it begins. -/
structure Snapshot where
  checkpoint : Option String := none
  generation : Nat := 0
  deriving DecidableEq, Repr

namespace States

open Transaction

/-- The state of a connector. -/
def find? (name : String) : Transaction (Option StateRow) := do
  return (← read .states).states.get? name

def write (kind : StatementKind) (name : String) (row : StateRow) : Transaction Unit :=
  Transaction.write kind .states fun rows => { rows with states := rows.states.insert name row }

/-- The snapshot that a row gives. A connector without row is at the start of generation 0. -/
def snapshotOf : Option StateRow → Snapshot
  | none => {}
  | some row => ⟨row.checkpoint, row.generation⟩

def checkpoint (name : String) : Transaction (Option String) := do
  return (← find? name).bind (·.checkpoint)

def snapshot (name : String) : Transaction Snapshot := do return snapshotOf (← find? name)

/-- Stores a checkpoint in the present generation, whatever it is. -/
def put (name : String) (checkpoint : Option String) : Transaction Unit := do
  match ← find? name with
  | none => write .insert name { checkpoint }
  | some old =>
    if old.checkpoint = checkpoint then return () else write .update name { old with checkpoint }

/-- The row with a new checkpoint, if it is of the generation. -/
def advanced? (row : Option StateRow) (checkpoint : Option String) (generation : Int) :
    Option StateRow :=
  match row with
  | none => none
  | some old => if (old.generation : Int) = generation then some { old with checkpoint } else none

/-- Stores a checkpoint if the generation is still the present one, and tells whether it did. -/
def putIfCurrent (name : String) (checkpoint : Option String) (generation : Int) :
    Transaction Bool := do
  issue .update .states
  checkInteger generation
  match advanced? ((← rows).states.get? name) checkpoint generation with
  | some row =>
    change fun rows => { rows with states := rows.states.insert name row }
    return true
  | none =>
    if generation = 0 then
      match ← find? name with
      | none =>
        write .insert name { checkpoint }
        return true
      | some _ => return false
    else return false

/-- Clears the checkpoint and begins a new generation. -/
def reset (name : String) : Transaction Unit := do
  match ← find? name with
  | none => write .insert name { generation := 1 }
  | some old =>
    issue .update .states
    checkInteger (old.generation + 1 : Nat)
    change fun rows =>
      { rows with states := rows.states.insert name { generation := old.generation + 1 } }

end States

end ConnectorHub.Store
