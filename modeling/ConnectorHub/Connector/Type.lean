import ConnectorHub.Connector.Form
import ConnectorHub.Failure.Basic
import ConnectorHub.Locale

/-! Types of connectors: the forms in which their connectors are configured, the check of a
configuration, and the connector that a configuration makes. -/
namespace ConnectorHub

open Store

/-- A connector that was made from a configuration. What it does not support is missing; whether it
supports traversal is all that is known of its traversals in advance. `serial` is that of its
type. -/
structure Connector where
  serial : Nat
  authenticate? : Option (Identity → Except Failure Bool) := none
  /-- Answers which documents a user may see; the answers may be about any documents. -/
  authorize? : Option (List String → Identity → Except Failure (List (String × Bool))) := none
  traverses : Bool := false

/-- `serial` tells apart types that were registered under one name. -/
structure ConnectorType where
  serial : Nat
  name : String
  form : Locale → Except Failure Form
  filledForm : Config → Locale → Except Failure Form
  /-- Checks a configuration: no answer, or one without message, accepts it. -/
  check : Config → Locale → Except Failure (Option Form)
  make : Config → Except Failure Connector

/-- Registered types, each name once, in the order in which the names were registered first. -/
abbrev Catalog := List ConnectorType

namespace Catalog

/-- Registers a type, in place of the one of its name if there is one. -/
def register (t : ConnectorType) : Catalog → Catalog
  | [] => [t]
  | u :: r => if u.name = t.name then t :: r else u :: register t r

def find? (name : String) (c : Catalog) : Option ConnectorType := List.find? (·.name = name) c

def names (c : Catalog) : List String := c.map (·.name)

theorem find?_register_self (t : ConnectorType) (c : Catalog) :
    find? t.name (register t c) = some t := by
  induction c with
  | nil => simp [register, find?]
  | cons u r ih =>
    by_cases h : u.name = t.name
    · simp [register, find?, h]
    · simpa [register, find?, h, List.find?_cons] using ih

end Catalog

end ConnectorHub
