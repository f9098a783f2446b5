import ConnectorHub.Document.Property
import ConnectorHub.Store.Table
import ConnectorHub.Text.LetterCase
import ConnectorHub.Time.DateTime

/-! What is stored about connectors: their configuration, their schedule, how far their traversal
has come, and the runs that there have been. -/
namespace ConnectorHub.Store

open Time

/-- A connector's settings by name. -/
abbrev Config := Table String

structure ConnectorRow where
  typeName : String
  config : Config
  deriving DecidableEq, Repr

/-- The text of a schedule, and when its connector was last traversed and is next due. -/
structure ScheduleRow where
  text : String
  lastRun : Option DateTime := none
  nextDue : Option DateTime := none
  deriving DecidableEq, Repr

/-- Where a traversal goes on. The generation counts how often it was started over. -/
structure StateRow where
  checkpoint : Option String := none
  generation : Nat := 0
  deriving DecidableEq, Repr

inductive RunStatus
  | queued
  | running
  | success
  | error
  deriving DecidableEq, Repr

namespace RunStatus

def name : RunStatus → String
  | queued => "queued"
  | running => "running"
  | success => "success"
  | error => "error"

def ofName? (s : String) : Option RunStatus := [queued, running, success, error].find? (·.name = s)

end RunStatus

structure Run where
  id : Int
  connector : String
  status : RunStatus
  started : DateTime
  finished : Option DateTime := none
  items : Int := 0
  errorLog : Option String := none
  deriving DecidableEq, Repr

/-- All rows. The runs are in ascending order of their numbers. -/
structure Rows where
  connectors : Table ConnectorRow := .empty
  schedules : Table ScheduleRow := .empty
  states : Table StateRow := .empty
  runs : List Run := []
  deriving DecidableEq, Repr

instance : Inhabited Rows := ⟨{}⟩

/-- The four tables by name. -/
inductive TableName
  | connectors
  | schedules
  | states
  | runs
  deriving DecidableEq, Repr

/-- The name that a table gets from the name of the things in it: lower case, with an underscore in
front of every capital letter but the first character. -/
def tableNameOf (name : String) : String :=
  match name.toList with
  | [] => ""
  | c :: r =>
    Text.lower (String.ofList (c :: r.flatMap fun d => if 'A' ≤ d && d ≤ 'Z' then ['_', d] else [d]))

namespace TableName

/-- What the rows of a table are called. -/
def rowName : TableName → String
  | connectors => "ConnectorInstance"
  | schedules => "Schedule"
  | states => "TraversalState"
  | runs => "Run"

/-- The column that tells rows apart. -/
def keyColumn : TableName → String
  | connectors => "name"
  | schedules | states => "connector"
  | runs => "id"

/-- The name under which the database has the table. Two tables have names of their own. -/
def text : TableName → String
  | schedules => "schedules"
  | runs => "runs"
  | t => tableNameOf t.rowName

def all : List TableName := [connectors, schedules, states, runs]

/-- A row as messages show it, by its key. -/
def label (t : TableName) (key : Json) : Except Number.IntegerError String :=
  (Document.innerText key).map fun shown =>
    "<" ++ t.rowName ++ " " ++ t.keyColumn ++ "=" ++ String.ofList shown ++ ">"

end TableName

end ConnectorHub.Store
