import ConnectorHub.Schedule.Window

/-! Traversal schedules and the text `name:load:delay:intervals` in which they are kept. -/
namespace ConnectorHub

open Text

/-- A connector's schedule: how many documents a batch should have, how long to wait after an empty
or failed batch in milliseconds, and the windows, kept as they were written. -/
structure Schedule where
  connector : String
  load : Nat
  retryDelay : Nat
  intervals : String
  windows : List Window
  connector_ne : connector ≠ ""
  colon_notin : ':' ∉ connector.toList
  load_pos : 0 < load
  windows_eq : Window.readIntervals intervals = .ok windows
  deriving DecidableEq

namespace Schedule

/-- The schedule with these values, if they are valid: the name first, then the numbers, then the
intervals. -/
def make (connector : String) (load retryDelay : Int) (intervals : String) :
    Except ScheduleError Schedule :=
  if hn : connector = "" ∨ ':' ∈ connector.toList then .error (.badConnectorName connector)
  else if hl : load ≤ 0 then .error .loadNotPositive
  else if retryDelay < 0 then .error .delayNegative
  else
    match hw : Window.readIntervals intervals with
    | .error e => .error e
    | .ok windows =>
      .ok {
        connector, intervals, windows
        load := load.toNat
        retryDelay := retryDelay.toNat
        connector_ne := fun h => hn (.inl h)
        colon_notin := fun h => hn (.inr h)
        load_pos := by omega
        windows_eq := hw }

/-- The text of a schedule, if its numbers are not too long to be written. -/
def format (s : Schedule) : Except ScheduleError String :=
  match Number.writeInteger s.load, Number.writeInteger s.retryDelay with
  | .error e, _ => .error (.number e)
  | _, .error e => .error (.number e)
  | .ok load, .ok delay =>
    .ok (s.connector ++ ":" ++ load ++ ":" ++ delay ++ ":" ++ s.intervals)

/-- Reads a number of a schedule. -/
def readNumber (cs : List Char) : Except ScheduleError Int :=
  (Number.readInteger (String.ofList cs)).mapError .number

/-- The schedule that the four parts of a text write. -/
def ofParts (name load delay intervals : List Char) : Except ScheduleError Schedule := do
  let load ← readNumber load
  let delay ← readNumber delay
  make (String.ofList name) load delay (String.ofList intervals)

/-- Reads the text of a schedule: four parts, the last of which may hold further colons. -/
def parse (text : String) : Except ScheduleError Schedule :=
  match splitAtMost (· == ':') 3 text.toList with
  | [name, load, delay, intervals] => (ofParts name load delay intervals).mapError (.malformed text)
  | _ => .error (.tooFewParts text)

/-- No window is ever open. -/
def isDisabled (s : Schedule) : Bool := s.windows.all (·.isEmpty)

end Schedule

end ConnectorHub
