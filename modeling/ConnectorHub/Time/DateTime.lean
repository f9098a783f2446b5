import ConnectorHub.Number.Binary64
import ConnectorHub.Text.Digit
import ConnectorHub.Text.Padded
import ConnectorHub.Text.Split
import ConnectorHub.Time.Calendar

/-! Points in time as a clock shows them: the microseconds that the clock has counted since the
start of year 1, and how far it runs ahead of UTC, if that is known. -/
namespace ConnectorHub.Time

open ConnectorHub.Text

def microsPerMinute : Nat := 60000000

def microsPerHour : Nat := 60 * microsPerMinute

def microsPerDay : Nat := 24 * microsPerHour

/-- The whole number of microseconds nearest to so many seconds. -/
def microsOfSeconds : Number.Binary64 → Int
  | .finite negative m e =>
    let n : Nat :=
      if 0 ≤ e then m * Number.twoTo e.toNat * 1000000
      else Number.Binary64.nearest (m * 1000000) (Number.twoTo (-e).toNat)
    if negative then -(n : Int) else n
  | _ => 0

/-- The first microsecond that needs a year of five digits. -/
def endOfTime : Nat := 3652059 * microsPerDay

/-- `offset` is in minutes. -/
structure DateTime where
  micros : Nat
  offset : Option Int
  deriving DecidableEq, Repr

namespace DateTime

/-- The hour on the clock. -/
def hour (t : DateTime) : Nat := t.micros / microsPerHour % 24

/-- The start of the day on the same clock. -/
def dayStart (t : DateTime) : Nat := t.micros / microsPerDay * microsPerDay

/-- The microseconds since the start of year 1 in UTC; a clock without offset shows UTC. -/
def instant (t : DateTime) : Int := t.micros - t.offset.getD 0 * microsPerMinute

/-- The years on the clock and in UTC have at most four digits. -/
def isInCalendar (t : DateTime) : Bool :=
  t.micros < endOfTime && 0 ≤ t.instant && t.instant < endOfTime

/-- A clock without offset is taken to show UTC. -/
def inUtc (t : DateTime) : DateTime := { t with offset := some (t.offset.getD 0) }

/-- What the clock shows, without its offset. -/
def withoutOffset (t : DateTime) : DateTime := { t with offset := none }

/-- The time `d` microseconds later on the same clock, if it still has a year of four digits. -/
def add? (t : DateTime) (d : Int) : Option DateTime :=
  let m := t.micros + d
  if 0 ≤ m ∧ m < endOfTime then some { t with micros := m.toNat } else none

/-- The seconds since the start of 1970. -/
def timestamp (t : DateTime) : Number.Binary64 :=
  let d := t.instant - 719162 * microsPerDay
  .ofFraction (decide (d < 0)) d.natAbs 1000000

def dateText (t : DateTime) : List Char :=
  let d := Date.ofDayNumber (t.micros / microsPerDay)
  padded 4 d.year ++ '-' :: padded 2 d.month ++ '-' :: padded 2 d.day

def clockText (t : DateTime) : List Char :=
  padded 2 t.hour ++ ':' :: padded 2 (t.micros / microsPerMinute % 60) ++
    ':' :: padded 2 (t.micros / 1000000 % 60)

def fractionText (t : DateTime) : List Char := '.' :: padded 6 (t.micros % 1000000)

def offsetText : Option Int → List Char
  | none => []
  | some m =>
    (if m < 0 then '-' else '+') :: padded 2 (m.natAbs / 60) ++ ':' :: padded 2 (m.natAbs % 60)

/-- The date and the time with a `T` between them; a fraction only if it is not zero, an offset only
if there is one. -/
def isoText (t : DateTime) : String :=
  String.ofList (t.dateText ++ 'T' :: t.clockText ++
    (if t.micros % 1000000 = 0 then [] else t.fractionText) ++ offsetText t.offset)

/-- The form in a table: always with a fraction, never with an offset. -/
def tableText (t : DateTime) : String :=
  String.ofList (t.dateText ++ ' ' :: t.clockText ++ t.fractionText)

/-- The number that exactly `n` digits in front write, and the rest. -/
def readDigits (n : Nat) (cs : List Char) : Option (Nat × List Char) :=
  let digits := cs.take n
  if digits.length = n ∧ digits.all isAsciiDigit then some (digitsValue digits, cs.drop n) else none

/-- As `readDigits`, after the character `c`. -/
def readAfter (c : Char) (n : Nat) : List Char → Option (Nat × List Char)
  | [] => none
  | d :: r => if d = c then readDigits n r else none

/-- The microseconds of a fraction of a second, and the rest. -/
def readFraction : List Char → Nat × List Char
  | '.' :: r =>
    let digits := r.takeWhile isAsciiDigit
    (digitsValue ((digits ++ List.replicate 6 '0').take 6), r.drop digits.length)
  | r => (0, r)

def readOffset : List Char → Option (Option Int)
  | [] => some none
  | sign :: r => do
    guard (sign = '+' ∨ sign = '-')
    let (h, r) ← readDigits 2 r
    let (m, r) ← readAfter ':' 2 r
    guard (r = [])
    let minutes : Int := (h * 60 + m : Nat)
    some (some (if sign = '-' then -minutes else minutes))

/-- Reads the form that `isoText` writes. -/
def read? (s : String) : Option DateTime := do
  let (year, r) ← readDigits 4 s.toList
  let (month, r) ← readAfter '-' 2 r
  let (day, r) ← readAfter '-' 2 r
  let (hour, r) ← readAfter 'T' 2 r
  let (minute, r) ← readAfter ':' 2 r
  let (second, r) ← readAfter ':' 2 r
  let (fraction, r) := readFraction r
  let offset ← readOffset r
  let date : Date := ⟨year, month, day⟩
  guard (date.isValid ∧ hour < 24 ∧ minute < 60 ∧ second < 60)
  some ⟨date.dayNumber * microsPerDay + hour * microsPerHour + minute * microsPerMinute
    + second * 1000000 + fraction, offset⟩

example : (read? "2024-02-29T23:59:59.5+05:30").map isoText =
    some "2024-02-29T23:59:59.500000+05:30" := by decide +kernel

end DateTime

end ConnectorHub.Time
