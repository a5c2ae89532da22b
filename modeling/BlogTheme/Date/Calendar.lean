/-!
# The calendar

Days of the proleptic Gregorian calendar, counted from 1 January 1970.
`Day.number` gives a day its place in that count; `Day.next` and `Day.previous`
step from one day to the next without it.
-/

namespace BlogTheme.Date

/-- Whether a year has a 29 February. -/
def isLeap (year : Int) : Bool :=
  year % 4 == 0 && (year % 100 != 0 || year % 400 == 0)

/-- The number of days of a month, 0 for a month that does not exist. -/
def monthLength (year : Int) (month : Nat) : Nat :=
  match month with
  | 1 => 31
  | 2 => if isLeap year then 29 else 28
  | 3 => 31
  | 4 => 30
  | 5 => 31
  | 6 => 30
  | 7 => 31
  | 8 => 31
  | 9 => 30
  | 10 => 31
  | 11 => 30
  | 12 => 31
  | _ => 0

/-- The number of days of a year before one of its months. -/
def daysBefore (year : Int) : (month : Nat) → Nat
  | 0 => 0
  | 1 => 0
  | month + 1 => daysBefore year month + monthLength year month

/-- A day of the calendar. -/
structure Day where
  year : Int
  month : Nat
  day : Nat
  deriving DecidableEq, Repr, Inhabited

namespace Day

/-- The first year that dates may have. -/
def minYear : Int := -262143

/-- The last year that dates may have. -/
def maxYear : Int := 262142

/-- Whether the month has such a day. -/
def Exists (d : Day) : Prop :=
  1 ≤ d.day ∧ d.day ≤ monthLength d.year d.month

instance (d : Day) : Decidable d.Exists :=
  inferInstanceAs (Decidable (_ ∧ _))

/-- Days from 1 January 1970 to 1 January of a year. -/
def yearStart (year : Int) : Int :=
  let before := year - 1
  365 * (year - 1970) + (before / 4 - 492) - (before / 100 - 19) + (before / 400 - 4)

/-- Days since 1 January 1970. -/
def number (d : Day) : Int :=
  yearStart d.year + daysBefore d.year d.month + d.day - 1

/-- The day after. -/
def next (d : Day) : Day :=
  if d.day < monthLength d.year d.month then { d with day := d.day + 1 }
  else if d.month < 12 then { d with month := d.month + 1, day := 1 }
  else { year := d.year + 1, month := 1, day := 1 }

/-- The day before. -/
def previous (d : Day) : Day :=
  if 1 < d.day then { d with day := d.day - 1 }
  else if 1 < d.month then
    { d with month := d.month - 1, day := monthLength d.year (d.month - 1) }
  else { year := d.year - 1, month := 12, day := 31 }

/-- The day `n` days after. -/
def later : Nat → Day → Day
  | 0, d => d
  | n + 1, d => later n d.next

/-- The day `n` days before. -/
def earlier : Nat → Day → Day
  | 0, d => d
  | n + 1, d => earlier n d.previous

/-- The day of the week, Sunday being 0. -/
def weekday (d : Day) : Nat :=
  ((d.number + 4) % 7).toNat

end Day

/-- A moment in time in the calendar of Greenwich. A leap second is the last
second before it with a fraction of a second or more. -/
structure Moment where
  day : Day
  /-- Seconds since midnight. -/
  second : Nat
  /-- Nanoseconds since then. -/
  nano : Nat
  deriving DecidableEq, Repr, Inhabited

namespace Moment

/-- The hour of the day, 0 to 23. -/
def hour (m : Moment) : Nat := m.second / 3600

/-- The minute of the hour. -/
def minute (m : Moment) : Nat := m.second / 60 % 60

/-- The second of the minute, 59 in a leap second. -/
def secondOfMinute (m : Moment) : Nat := m.second % 60

/-- Nanoseconds in a second. -/
def billion : Nat := 1000000000

/-- Whether the moment lies in a leap second. -/
def isLeapSecond (m : Moment) : Bool := billion ≤ m.nano

/-- The moment so many seconds after the midnight with which a day begins, or
before it when the number is negative. -/
def ofOffset (day : Day) (second : Int) (nano : Nat) : Moment :=
  let days := second / 86400
  { day := if 0 ≤ days then day.later days.toNat else day.earlier (-days).toNat
    second := (second % 86400).toNat
    nano }

/-- Whether the year is one that dates may have. -/
def InRange (m : Moment) : Prop :=
  Day.minYear ≤ m.day.year ∧ m.day.year ≤ Day.maxYear

instance (m : Moment) : Decidable m.InRange :=
  inferInstanceAs (Decidable (_ ∧ _))

/-- Whole seconds from `m` to `n`, toward zero, negative when `n` comes first.
A leap second that lies between the two counts. -/
def secondsUntil (m n : Moment) : Int :=
  let passed : Int :=
    if m.second < n.second then if m.isLeapSecond then 1 else 0
    else if n.second < m.second then if n.isLeapSecond then -1 else 0
    else 0
  let seconds := (n.day.number - m.day.number) * 86400 + (n.second - m.second : Int) + passed
  (seconds * billion + (n.nano - m.nano : Int)).tdiv billion

end Moment

end BlogTheme.Date
