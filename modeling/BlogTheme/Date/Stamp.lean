import BlogTheme.Date.Calendar
import BlogTheme.Text.Decimal

/-!
# Date stamps

A moment as a text that reads back: `2024-03-02T15:04:05.250Z`. Years from 0 to
9999 have four digits, others a sign and at least four. A fraction has three,
six or nine digits, the fewest that are exact, and is left out when it is zero.
A leap second is written as second 60.
-/

namespace BlogTheme.Date

open BlogTheme.Text

/-- A year as it stands in a stamp. -/
def stampYear (year : Int) : List Char :=
  if 0 ≤ year ∧ year ≤ 9999 then padded 4 year.toNat
  else if year < 0 then '-' :: padded 4 year.natAbs
  else '+' :: padded 4 year.natAbs

/-- The fraction of a second of a stamp. -/
def stampFraction (nano : Nat) : List Char :=
  if nano = 0 then []
  else if nano % 1000000 = 0 then '.' :: padded 3 (nano / 1000000)
  else if nano % 1000 = 0 then '.' :: padded 6 (nano / 1000)
  else '.' :: padded 9 nano

/-- A moment as a stamp, followed by `zone`. -/
def Moment.stampChars (m : Moment) (zone : List Char) : List Char :=
  let leap := if m.isLeapSecond then 1 else 0
  stampYear m.day.year ++ '-' :: padded 2 m.day.month ++ '-' :: padded 2 m.day.day ++
    'T' :: padded 2 m.hour ++ ':' :: padded 2 m.minute ++
    ':' :: padded 2 (m.secondOfMinute + leap) ++
    stampFraction (m.nano - leap * billion) ++ zone

/-- A moment as data holds it, with `Z` for the zone. -/
def Moment.stamp (m : Moment) : String :=
  String.ofList (m.stampChars ['Z'])

/-- A moment as a page shows it when no format is given, with `+00:00` for the
zone. -/
def Moment.text (m : Moment) : String :=
  String.ofList (m.stampChars "+00:00".toList)

end BlogTheme.Date
