/-! The calendar: days counted from the first of January of year 1, and their dates. Leap years go
by the rule of 4, 100 and 400 years throughout. -/
namespace ConnectorHub.Time

def isLeap (year : Nat) : Bool := year % 4 = 0 && (year % 100 ≠ 0 || year % 400 = 0)

def daysInMonth (year month : Nat) : Nat :=
  if month = 2 then (if isLeap year then 29 else 28)
  else if month = 4 ∨ month = 6 ∨ month = 9 ∨ month = 11 then 30
  else 31

/-- The days of all years before this one. -/
def daysBeforeYear (year : Nat) : Nat :=
  let y := year - 1
  y * 365 + y / 4 - y / 100 + y / 400

/-- The days of the first `months` months of a year. -/
def daysOfMonths (year : Nat) : Nat → Nat
  | 0 => 0
  | m + 1 => daysOfMonths year m + daysInMonth year (m + 1)

structure Date where
  year : Nat
  month : Nat
  day : Nat
  deriving DecidableEq, Repr

/-- The number of days before a date. -/
def Date.dayNumber (d : Date) : Nat :=
  daysBeforeYear d.year + daysOfMonths d.year (d.month - 1) + (d.day - 1)

/-- The date exists, in years of at most four digits. -/
def Date.isValid (d : Date) : Bool :=
  1 ≤ d.year && d.year ≤ 9999 && 1 ≤ d.month && d.month ≤ 12 && 1 ≤ d.day
    && d.day ≤ daysInMonth d.year d.month

/-- The year of a day: a guess that is at most one too small. -/
def yearOf (n : Nat) : Nat :=
  let y := (400 * n) / 146097 + 1
  if daysBeforeYear (y + 1) ≤ n then y + 1 else if n < daysBeforeYear y then y - 1 else y

/-- The month and day that begin `n` days into months from `m` on. -/
def monthOf (year : Nat) : Nat → Nat → Nat → Nat × Nat
  | 0, m, n => (m, n + 1)
  | fuel + 1, m, n =>
    let k := daysInMonth year m
    if n < k then (m, n + 1) else monthOf year fuel (m + 1) (n - k)

/-- The date with `n` days before it. -/
def Date.ofDayNumber (n : Nat) : Date :=
  let y := yearOf n
  let (m, d) := monthOf y 11 1 (n - daysBeforeYear y)
  ⟨y, m, d⟩

example : Date.ofDayNumber 0 = ⟨1, 1, 1⟩ ∧ Date.ofDayNumber 3652058 = ⟨9999, 12, 31⟩ := by decide
example : Date.ofDayNumber (Date.dayNumber ⟨2024, 2, 29⟩) = ⟨2024, 2, 29⟩ := by decide

end ConnectorHub.Time
