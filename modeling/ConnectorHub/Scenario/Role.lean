import ConnectorHub.Connector.Type
import ConnectorHub.Scenario.Step

/-! Scripted types of connectors. A scenario has a cast of them; the number of a type in the cast is
also its serial number. -/
namespace ConnectorHub.Scenario

open Store

/-- Accepts users by their names, unless it fails. -/
structure LoginScript where
  users : List String
  failure : Option Failure := none

/-- Allows documents, and answers that it does for some that nobody asked for, unless it
fails. -/
structure GrantScript where
  allowed : List String
  extra : List String := []
  failure : Option Failure := none

/-- What a scripted connector hands back, and what happens before it does. -/
structure BatchScript where
  batch : Batch
  during : List Step := []
  failure : Option Failure := none

/-- A scripted type. -/
structure Role where
  name : String
  /-- The settings that must not be empty. -/
  required : List String := []
  /-- The answer to every check, if it is always the same. -/
  verdict : Option Form := none
  checkFailure : Option Failure := none
  formFailure : Option Failure := none
  makeFailure : Option Failure := none
  login : Option LoginScript := none
  grant : Option GrantScript := none
  /-- The batches that connectors of this type hand back one after the other, if they are
  traversed. -/
  batches : Option (List BatchScript) := none

namespace Role

/-- Fails if there is a failure. -/
def failingWith (failure : Option Failure) (a : α) : Except Failure α :=
  match failure with
  | some f => .error f
  | none => .ok a

def emptyForm (locale : Locale) : Form :=
  { snippet := some ("<form lang='" ++ locale.text ++ "'></form>") }

/-- The required settings that a configuration lacks. -/
def lacking (r : Role) (config : Config) : List String :=
  r.required.filter fun name => (config.get? name).getD "" = ""

/-- The answer to the check of a configuration. -/
def check (r : Role) (config : Config) (locale : Locale) : Option Form :=
  match r.verdict with
  | some form => some form
  | none =>
    match r.lacking config with
    | [] => none
    | names => some { emptyForm locale with message := some ("Missing " ++ Text.join ", " names) }

/-- The connectors of the type. -/
def connector (r : Role) (serial : Nat) : Connector where
  serial := serial
  authenticate? := r.login.map fun l i => failingWith l.failure (l.users.contains i.username)
  authorize? := r.grant.map fun g docids _ =>
    failingWith g.failure (docids.map (fun d => (d, g.allowed.contains d)) ++ g.extra.map (·, true))
  traverses := r.batches.isSome

/-- The type with a serial number. -/
def type (r : Role) (serial : Nat) : ConnectorType where
  serial := serial
  name := r.name
  form := fun locale => .ok (emptyForm locale)
  filledForm := fun config locale =>
    failingWith r.formFailure { emptyForm locale with config := some config }
  check := fun config locale => failingWith r.checkFailure (r.check config locale)
  make := fun _ => failingWith r.makeFailure (r.connector serial)

end Role

end ConnectorHub.Scenario
