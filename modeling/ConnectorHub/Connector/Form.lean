import ConnectorHub.Store.Row

/-! What passes between a hub and its connectors: forms, identities and batches of documents. -/
namespace ConnectorHub

open Store

/-- A form in which a connector is configured, or the answer to a filled one. A message that is not
empty says why a configuration is refused. -/
structure Form where
  message : Option String := none
  snippet : Option String := none
  config : Option Config := none
  deriving DecidableEq, Repr

/-- The form refuses a configuration. -/
def Form.isRefusal (f : Form) : Bool := f.message.any (· ≠ "")

/-- Who somebody says to be. -/
structure Identity where
  username : String
  password : Option String := none
  domain : Option String := none
  deriving DecidableEq, Repr

/-- Documents in the order of a traversal, and where the traversal goes on after them. -/
structure Batch where
  documents : List Document
  checkpoint : Option String
  deriving Repr

end ConnectorHub
