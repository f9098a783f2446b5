import ConnectorHub.Schedule.Basic
import ConnectorHub.Time.DateTime

/-! When a schedule is open, and when it opens next. A point in time is judged by the hour that its
own clock shows; a clock without offset is taken to show UTC. -/
namespace ConnectorHub

open Time

/-- Why a time is not found: it has no place in the calendar, or the search for it would begin in a
year of five digits. -/
inductive CalendarError
  | outOfRange
  | yearTooLarge
  deriving DecidableEq, Repr

def CalendarError.message : CalendarError → String
  | outOfRange => "date value out of range"
  | yearTooLarge => "year 10000 is out of range"

/-- The first time after `t` at which the window opens, in microseconds of the same clock. -/
def Window.nextOpening (w : Window) (t : DateTime) : Nat :=
  let today := t.dayStart + w.opens * microsPerHour
  if t.micros < today then today else today + microsPerDay

namespace Schedule

/-- Some window is open at the time. -/
def isOpen (s : Schedule) (t : DateTime) : Bool := s.windows.any (·.covers t.hour)

/-- The search for an opening begins in the minute after a time, which has to be in the calendar, in
UTC as well as on the clock itself. -/
def checkSearch (t : DateTime) : Except CalendarError Unit :=
  if !t.isInCalendar then .error .outOfRange
  else if endOfTime ≤ t.instant + microsPerMinute then .error .yearTooLarge
  else if !{ t with micros := t.micros + microsPerMinute }.isInCalendar then .error .outOfRange
  else .ok ()

/-- The times after `t` at which the windows open, as long as all of them are in the calendar. -/
def openings (s : Schedule) (t : DateTime) : Except CalendarError (List DateTime) :=
  match s.windows.filter (!·.isEmpty) with
  | [] => .ok []
  | ws =>
    let times := ws.map fun w => { t with micros := w.nextOpening t }
    (checkSearch t).bind fun _ =>
      if times.all (·.isInCalendar) then .ok times else .error .outOfRange

/-- The earliest of some times. -/
def earliest? (times : List DateTime) : Option Nat := (times.map (·.micros)).min?

/-- The time itself if the schedule is open then, else the next time at which it opens, if ever. -/
def nextOpen (s : Schedule) (t : DateTime) : Except CalendarError (Option DateTime) :=
  let t := t.inUtc
  if s.isOpen t then .ok (some t)
  else (s.openings t).map fun times => (earliest? times).map fun m => { t with micros := m }

/-- When a connector is due after a traversal that ended at `finished`: at once if it brought
documents, else after the delay, and in either case not before the schedule is open. -/
def nextDue (s : Schedule) (items : Int) (finished : DateTime) :
    Except CalendarError (Option DateTime) :=
  if items ≤ 0 then
    match finished.inUtc.add? (s.retryDelay * 1000) with
    | none => .error .outOfRange
    | some t => s.nextOpen t
  else s.nextOpen finished

/-- The schedule is open at `now`, and the time at which the connector is due has come. -/
def isDue (s : Schedule) (due : Option DateTime) (now : DateTime) : Bool :=
  !s.isDisabled && s.isOpen now && due.all fun d => d.instant ≤ now.instant

end Schedule

end ConnectorHub
