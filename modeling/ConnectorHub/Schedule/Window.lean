import ConnectorHub.Number.Integer
import ConnectorHub.Text.Blank
import ConnectorHub.Text.Quoted
import ConnectorHub.Text.Split

/-! Windows of the day in which a connector may be traversed, and the interval texts that list them. -/
namespace ConnectorHub

open Text

/-- From the start of the hour `opens` to the start of the hour `closes`, over midnight if it closes
at an earlier hour. A window that closes when it opens is never open. -/
structure Window where
  opens : Nat
  closes : Nat
  opens_le : opens ≤ 23
  closes_le : closes ≤ 24
  deriving DecidableEq, Repr

namespace Window

/-- The window with these hours, if a day has them. -/
def ofHours? (opens closes : Nat) : Option Window :=
  if h : opens ≤ 23 ∧ closes ≤ 24 then some ⟨opens, closes, h.1, h.2⟩ else none

/-- The window is never open. -/
def isEmpty (w : Window) : Bool := w.opens = w.closes

/-- The window is open during the hour `h`. -/
def covers (w : Window) (h : Nat) : Bool :=
  if w.opens < w.closes then w.opens ≤ h && h < w.closes
  else if w.closes < w.opens then w.opens ≤ h || h < w.closes
  else false

end Window

/-- Why a schedule is refused. -/
inductive ScheduleError
  | badInterval (chunk : String)
  | intervalOutOfRange (chunk : String)
  | badConnectorName (name : String)
  | loadNotPositive
  | delayNegative
  | number (cause : Number.IntegerError)
  | tooFewParts (text : String)
  | malformed (text : String) (cause : ScheduleError)
  deriving DecidableEq, Repr

def ScheduleError.message : ScheduleError → String
  | badInterval chunk => "Invalid time interval " ++ quoted chunk
  | intervalOutOfRange chunk => "Time interval " ++ quoted chunk ++ " is out of range"
  | badConnectorName name => "Invalid connector name " ++ quoted name
  | loadNotPositive => "load must be a positive integer"
  | delayNegative => "retry_delay_millis must not be negative"
  | number cause => cause.message
  | tooFewParts text => "Malformed schedule " ++ quoted text
  | malformed text cause => "Malformed schedule " ++ quoted text ++ ": " ++ cause.message

namespace Window

/-- One or two digits of any script. -/
def isHourText (cs : List Char) : Bool := (cs.length = 1 || cs.length = 2) && cs.all isDigit

/-- Reads `start-end` with white space around it. -/
def readChunk (chunk : List Char) : Except ScheduleError Window :=
  match cut '-' (trim isBlank chunk) with
  | (a, some b) =>
    if isHourText a && isHourText b then
      match ofHours? (digitsValue a) (digitsValue b) with
      | some w => .ok w
      | none => .error (.intervalOutOfRange (String.ofList chunk))
    else .error (.badInterval (String.ofList chunk))
  | (_, none) => .error (.badInterval (String.ofList chunk))

/-- The windows that an interval text lists between colons. The empty text lists none. -/
def readIntervals (intervals : String) : Except ScheduleError (List Window) :=
  if intervals = "" then .ok []
  else (splitOn (· == ':') intervals.toList).mapM readChunk

end Window

end ConnectorHub
