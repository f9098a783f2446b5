import ConnectorHub.Api.Reading
import ConnectorHub.Connector.Form
import ConnectorHub.Json.Reader

/-! The bodies of requests, and what they describe. -/
namespace ConnectorHub.Api

open Store

/-- The members of a body. -/
abbrev Members := List (String × Json)

namespace Members

/-- Reads a member that has to be there. -/
def required (ms : Members) (name : String) (read : Reading α) : Checked α :=
  match Json.member? name ms with
  | none => .error [⟨[.member name], .missing, .object ms⟩]
  | some v => read [.member name] v

/-- Reads a member that may be missing. -/
def withDefault (ms : Members) (name : String) (default : α) (read : Reading α) : Checked α :=
  match Json.member? name ms with
  | none => .ok default
  | some v => read [.member name] v

end Members

/-- What a request brings along: nothing, a text that should be JSON, or a value. -/
inductive Body
  | absent
  | text (s : String)
  | value (v : Json)
  deriving Repr

/-- Why a body is not understood at all. -/
inductive BodyError
  | faults (fs : List Fault)
  | unparsable
  deriving Repr

namespace Body

/-- The members of a value, if it is an object. -/
def membersOf : Json → Except BodyError Members
  | .object ms => .ok ms
  | v => .error (.faults [⟨[], .notObject, v⟩])

/-- A text without the byte order mark in front. -/
def withoutMark (s : String) : String :=
  match s.toList with
  | '\ufeff' :: r => String.ofList r
  | _ => s

/-- The members of a body. An empty text is no body. -/
def members : Body → Except BodyError Members
  | .absent => .error (.faults [⟨[], .missing, .null⟩])
  | .value v => membersOf v
  | .text s =>
    if s = "" then .error (.faults [⟨[], .missing, .null⟩])
    else match Json.read (withoutMark s) with
      | .ok v => membersOf v
      | .error (.malformed position) => .error (.faults [⟨[.item position], .notJson, .object []⟩])
      | .error .integerTooLong => .error .unparsable

/-- What the members of a body describe. -/
def read (b : Body) (f : Members → Checked α) : Except BodyError α :=
  b.members.bind fun ms => (f ms).mapError .faults

end Body

/-- A configuration to be applied. -/
structure ConfigPayload where
  typeName : String
  config : Config
  language : Option String
  deriving DecidableEq, Repr

/-- A connector to be made. -/
structure ConnectorPayload where
  name : String
  settings : ConfigPayload
  deriving DecidableEq, Repr

structure SchedulePayload where
  load : Int
  retryDelay : Int
  intervals : String
  deriving DecidableEq, Repr

structure AuthorizePayload where
  username : String
  docids : List String
  deriving DecidableEq, Repr

structure GatePayload where
  host : String
  port : Int
  deriving DecidableEq, Repr

namespace Members

open Checked Reading

def configPayload (ms : Members) : Checked ConfigPayload :=
  both (fun f l => f l)
    (both ConfigPayload.mk (ms.required "type" text) (ms.withDefault "config" .empty (dictionary text)))
    (ms.withDefault "language" none (optional text))

def connectorPayload (ms : Members) : Checked ConnectorPayload :=
  both ConnectorPayload.mk (ms.required "name" text) ms.configPayload

def schedulePayload (ms : Members) : Checked SchedulePayload :=
  both (fun f i => f i)
    (both SchedulePayload.mk (ms.required "load" integer) (ms.required "retry_delay_millis" integer))
    (ms.required "time_intervals" text)

def identity (ms : Members) : Checked Identity :=
  both (fun f d => f d)
    (both Identity.mk (ms.required "username" text) (ms.withDefault "password" none (optional text)))
    (ms.withDefault "domain" none (optional text))

def authorizePayload (ms : Members) : Checked AuthorizePayload :=
  both AuthorizePayload.mk (ms.required "username" text) (ms.required "docids" (list text))

def gatePayload (ms : Members) : Checked GatePayload :=
  both GatePayload.mk (ms.required "host" text) (ms.required "port" (integerWithin 1 65535))

end Members

end ConnectorHub.Api
