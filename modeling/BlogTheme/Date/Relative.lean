import BlogTheme.Date.Calendar
import BlogTheme.Text.Decimal

/-!
# Relative dates

How long ago something happened, or how soon it will, in words: `3 days ago`,
`in an hour`. The number of whole seconds decides the phrase; a number of
minutes, hours and so on is rounded to the nearest, halves up.
-/

namespace BlogTheme.Date

/-- A length of time in words. -/
inductive Phrase where
  | fewSeconds
  | oneMinute
  | minutes (n : Nat)
  | oneHour
  | hours (n : Nat)
  | oneDay
  | days (n : Nat)
  | oneMonth
  | months (n : Nat)
  | oneYear
  | years (n : Nat)
  deriving DecidableEq, Repr

/-- `n / unit` rounded to the nearest whole number, halves up. -/
def roundedQuotient (n unit : Nat) : Nat :=
  (2 * n + unit) / (2 * unit)

namespace Phrase

/-- The phrase for a number of seconds. -/
def ofSeconds (s : Nat) : Phrase :=
  let days := roundedQuotient s 86400
  if s < 45 then fewSeconds
  else if s < 90 then oneMinute
  else if s < 45 * 60 then minutes (roundedQuotient s 60)
  else if s < 90 * 60 then oneHour
  else if s < 22 * 3600 then hours (roundedQuotient s 3600)
  else if s < 36 * 3600 then oneDay
  else if days < 26 then .days days
  else if days < 45 then oneMonth
  else if days < 320 then months (roundedQuotient days 30)
  else if days < 548 then oneYear
  else years (roundedQuotient days 365)

/-- A phrase as it is written. -/
def text : Phrase → String
  | fewSeconds => "a few seconds"
  | oneMinute => "a minute"
  | minutes n => Text.showInt n ++ " minutes"
  | oneHour => "an hour"
  | hours n => Text.showInt n ++ " hours"
  | oneDay => "a day"
  | .days n => Text.showInt n ++ " days"
  | oneMonth => "a month"
  | months n => Text.showInt n ++ " months"
  | oneYear => "a year"
  | years n => Text.showInt n ++ " years"

end Phrase

/-- When `m` was or will be, seen from `now`. -/
def Moment.relativeTo (m now : Moment) : String :=
  let seconds := m.secondsUntil now
  let phrase := (Phrase.ofSeconds seconds.natAbs).text
  if seconds < 0 then "in " ++ phrase else phrase ++ " ago"

end BlogTheme.Date
