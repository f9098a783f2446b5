import ConnectorHub.Document.Addressing
import ConnectorHub.Failure.Kind
import ConnectorHub.FeederGate
import ConnectorHub.Schedule.Opening
import ConnectorHub.Store.Database

/-! Failures of a hub: their causes, the kind of each, and what messages say. -/
namespace ConnectorHub

open Text Store

inductive Failure
  /-- There is no connector of this name. -/
  | connectorNotFound (name : String)
  /-- As `connectorNotFound`, where a name was asked for that should be known. -/
  | unknownConnector (name : String)
  | typeNotFound (typeName : String)
  | connectorExists (name : String)
  /-- The connector has another type than the one it is configured as. -/
  | otherType (name stored requested : String)
  /-- A connector was to be configured with a type that does not exist. -/
  | typeUnknown (typeName : String)
  /-- A connector has a type that does not exist. -/
  | typeOfConnectorUnknown (name typeName : String)
  | notBuilt (name : String)
  | notRead (name : String)
  | notRemoved (name : String)
  | notReset (name : String)
  | noTraversal (name : String)
  /-- The queue did not take the job of a connector. -/
  | notQueued (name : String)
  /-- A store failed while it was to do something. -/
  | store (action : String)
  | noGateFile
  | gate (cause : GateError)
  | schedule (cause : ScheduleError)
  | address (cause : AddressError)
  | calendar (cause : CalendarError)
  | database (cause : DatabaseError)
  /-- Raised by a connector or its type. -/
  | raised (kind : FailureKind) (message : String)
  deriving DecidableEq, Repr

namespace Failure

def kindOfGate : GateError → FailureKind
  | .unreadable _ | .unwritable _ => .persistentStore
  | .wrongShape => .wrongType
  | .portTooLarge => .overflow
  | .portUnprintable | .nullInPath => .value

def kindOfAddress : AddressError → FailureKind
  | .malformed .. => .malformedUrl
  | .missing => .missingAddress
  | .unknownFeedType _ => .unknownFeedType
  | .noContentPrefix => .runtime
  | .number _ => .value

def kindOfCalendar : CalendarError → FailureKind
  | .outOfRange => .overflow
  | .yearTooLarge => .value

def kindOfDatabase : DatabaseError → FailureKind
  | .operational => .database
  | .integrity => .integrity
  | .integerTooLarge => .overflow

def kind : Failure → FailureKind
  | connectorNotFound _ => .connectorNotFound
  | unknownConnector _ => .value
  | typeNotFound _ => .typeNotFound
  | connectorExists _ => .connectorExists
  | otherType .. | typeUnknown _ | typeOfConnectorUnknown .. => .instantiator
  | notBuilt _ | notRead _ | notRemoved _ | notReset _ => .instantiator
  | noTraversal _ => .runtime
  | notQueued _ => .queue
  | store _ | noGateFile => .persistentStore
  | gate cause => kindOfGate cause
  | schedule _ => .value
  | address cause => kindOfAddress cause
  | calendar cause => kindOfCalendar cause
  | database cause => kindOfDatabase cause
  | raised kind _ => kind

/-- The failure belongs to a family. -/
def isA (f : Failure) (family : FailureKind) : Bool := f.kind.isA family

def message : Failure → String
  | connectorNotFound name => name
  | unknownConnector name => "Unknown connector " ++ quoted name
  | typeNotFound typeName => typeName
  | connectorExists name => "Connector " ++ name ++ " already exists"
  | otherType name stored requested =>
    "Connector " ++ name ++ " is of type " ++ stored ++ ", not " ++ requested
  | typeUnknown typeName => "Unknown connector type " ++ typeName
  | typeOfConnectorUnknown name typeName =>
    "Connector " ++ name ++ " has unknown type " ++ typeName
  | notBuilt name => "Unable to instantiate connector " ++ name
  | notRead name => "Unable to read connector " ++ name
  | notRemoved name => "Failed to remove connector " ++ name
  | notReset name => "Failed to reset traversal for " ++ name
  | noTraversal name => "Connector " ++ name ++ " does not support traversal"
  | notQueued name => "The queue does not take the traversal of connector " ++ name
  | store action => "Failed to " ++ action
  | noGateFile => "No manager configuration store is configured"
  | gate cause => cause.message
  | schedule cause => cause.message
  | address cause => cause.message
  | calendar cause => cause.message
  | database _ => ""
  | raised .key message => quoted message
  | raised _ message => message

end Failure

end ConnectorHub
