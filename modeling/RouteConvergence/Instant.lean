/-
RouteConvergence.Instant — moments in universal time.

A moment is a calendar date, a second of its day and a fraction in
nanoseconds. Moments compare field by field from the left, which is the
order of time. A fraction of a whole second or more stands for a leap
second, which therefore sorts after the last ordinary second of its
minute.
-/

namespace RouteConvergence

/-- A day of the proleptic Gregorian calendar. -/
structure Date where
  year : Int
  month : Nat
  day : Nat
deriving DecidableEq, Inhabited, Repr

namespace Date

/-- Every fourth year is a leap year, except hundreds that are no
four-hundreds. -/
def isLeapYear (year : Int) : Bool :=
  year % 4 == 0 && (year % 100 != 0 || year % 400 == 0)

/-- The number of days of a month; a month that does not exist has none. -/
def daysInMonth (year : Int) : Nat → Nat
  | 1 | 3 | 5 | 7 | 8 | 10 | 12 => 31
  | 4 | 6 | 9 | 11 => 30
  | 2 => if isLeapYear year then 29 else 28
  | _ => 0

/-- The years a date may lie in. -/
def yearInRange (year : Int) : Bool := -262143 ≤ year && year ≤ 262142

/-- Whether the calendar has such a day. -/
def isValid (d : Date) : Bool :=
  yearInRange d.year && 1 ≤ d.month && d.month ≤ 12 && 1 ≤ d.day &&
    d.day ≤ daysInMonth d.year d.month

def next (d : Date) : Date :=
  if d.day < daysInMonth d.year d.month then { d with day := d.day + 1 }
  else if d.month < 12 then ⟨d.year, d.month + 1, 1⟩
  else ⟨d.year + 1, 1, 1⟩

def previous (d : Date) : Date :=
  if 1 < d.day then { d with day := d.day - 1 }
  else if 1 < d.month then ⟨d.year, d.month - 1, daysInMonth d.year (d.month - 1)⟩
  else ⟨d.year - 1, 12, 31⟩

/-- The day so many days after a day. -/
def after (d : Date) (days : Nat) : Date := Nat.repeat next days d

end Date

/-- A moment in universal time. -/
structure Instant where
  date : Date
  /-- Second of the day, below 86400. -/
  second : Nat
  /-- Nanoseconds, below two thousand million. -/
  nano : Nat
deriving DecidableEq, Inhabited, Repr

namespace Instant

/-- The day from which clocks count seconds. -/
def epoch : Date := ⟨1970, 1, 1⟩

def secondsPerDay : Nat := 86400

/-- The moment so many seconds and nanoseconds after the epoch. -/
def ofEpoch (seconds nano : Nat) : Instant :=
  ⟨epoch.after (seconds / secondsPerDay), seconds % secondsPerDay, nano⟩

/-- Whether a moment lies strictly before another. -/
def isBefore (s t : Instant) : Bool :=
  let key (i : Instant) : List Int := [i.date.year, i.date.month, i.date.day, i.second, i.nano]
  decide (key s < key t)

end Instant

end RouteConvergence
