import BlogTheme.Date.Calendar
import BlogTheme.Text.Decimal

/-!
# Date formats

A format is a text in which certain runs of letters, the tokens, stand for parts of
a date. Where several tokens fit, the longest is meant. Text between brackets
stands for itself, as does everything that is no token, a bracket that never closes
included.
-/

namespace BlogTheme.Date

open BlogTheme.Text

/-- The parts of a date that a format can name. -/
inductive Token where
  | year
  | shortYear
  | monthName
  | shortMonthName
  | paddedMonth
  | month
  | paddedDay
  | day
  | ordinalDay
  | weekdayName
  | shortWeekdayName
  | paddedHour
  | hour
  | paddedHour12
  | hour12
  | minute
  | second
  | upperMeridiem
  | lowerMeridiem
  deriving DecidableEq, Repr

namespace Token

/-- How a token is written in a format. -/
def name : Token → String
  | year => "YYYY"
  | shortYear => "YY"
  | monthName => "MMMM"
  | shortMonthName => "MMM"
  | paddedMonth => "MM"
  | month => "M"
  | paddedDay => "DD"
  | day => "D"
  | ordinalDay => "Do"
  | weekdayName => "dddd"
  | shortWeekdayName => "ddd"
  | paddedHour => "HH"
  | hour => "H"
  | paddedHour12 => "hh"
  | hour12 => "h"
  | minute => "mm"
  | second => "ss"
  | upperMeridiem => "A"
  | lowerMeridiem => "a"

/-- All tokens, a longer one before every shorter one that it starts with. -/
def all : List Token :=
  [year, monthName, weekdayName, shortMonthName, shortWeekdayName, shortYear, paddedMonth,
   paddedDay, ordinalDay, paddedHour, paddedHour12, minute, second, month, day, hour, hour12,
   upperMeridiem, lowerMeridiem]

end Token

/-- The months by name. -/
def monthNames : List String :=
  ["January", "February", "March", "April", "May", "June", "July", "August", "September",
   "October", "November", "December"]

/-- The days of the week by name, Sunday first. -/
def weekdayNames : List String :=
  ["Sunday", "Monday", "Tuesday", "Wednesday", "Thursday", "Friday", "Saturday"]

/-- The ending of an ordinal number. -/
def ordinalEnding (n : Nat) : String :=
  if 11 ≤ n % 100 ∧ n % 100 ≤ 13 then "th"
  else match n % 10 with
    | 1 => "st"
    | 2 => "nd"
    | 3 => "rd"
    | _ => "th"

/-- The hour on a clock of twelve. -/
def clockHour (hour : Nat) : Nat :=
  if hour % 12 = 0 then 12 else hour % 12

/-- The last two digits of a year, with its sign. -/
def shortYearDigits (year : Int) : List Char :=
  if year.tmod 100 < 0 then '-' :: padded 1 (year.tmod 100).natAbs
  else padded 2 (year.tmod 100).natAbs

/-- What a token stands for in a date. -/
def Token.write (m : Moment) : Token → List Char
  | .year => intDigits m.day.year
  | .shortYear => shortYearDigits m.day.year
  | .monthName => (monthNames.getD (m.day.month - 1) "").toList
  | .shortMonthName => (monthNames.getD (m.day.month - 1) "").toList.take 3
  | .paddedMonth => padded 2 m.day.month
  | .month => digits m.day.month
  | .paddedDay => padded 2 m.day.day
  | .day => digits m.day.day
  | .ordinalDay => digits m.day.day ++ (ordinalEnding m.day.day).toList
  | .weekdayName => (weekdayNames.getD m.day.weekday "").toList
  | .shortWeekdayName => (weekdayNames.getD m.day.weekday "").toList.take 3
  | .paddedHour => padded 2 m.hour
  | .hour => digits m.hour
  | .paddedHour12 => padded 2 (clockHour m.hour)
  | .hour12 => digits (clockHour m.hour)
  | .minute => padded 2 m.minute
  | .second => padded 2 m.secondOfMinute
  | .upperMeridiem => if 12 ≤ m.hour then ['P', 'M'] else ['A', 'M']
  | .lowerMeridiem => if 12 ≤ m.hour then ['p', 'm'] else ['a', 'm']

/-- The longest token that a text starts with. -/
def Token.longest? (cs : List Char) : Option Token :=
  Token.all.find? fun token => token.name.toList.isPrefixOf cs

/-- A date in a given format, character by character. -/
def Moment.formatChars (m : Moment) : (format : List Char) → List Char
  | [] => []
  | c :: cs =>
    if c = '[' ∧ ']' ∈ cs then
      cs.takeWhile (· != ']') ++ m.formatChars ((cs.dropWhile (· != ']')).drop 1)
    else match Token.longest? (c :: cs) with
      | some token => token.write m ++ m.formatChars (cs.drop (token.name.length - 1))
      | none => c :: m.formatChars cs
termination_by format => format.length
decreasing_by
  · have := (List.dropWhile_sublist (p := (· != ']')) (l := cs)).length_le
    simp only [List.length_drop, List.length_cons]
    omega
  · simp only [List.length_drop, List.length_cons]
    omega
  · simp

/-- A date in a given format. -/
def Moment.format (m : Moment) (format : String) : String :=
  String.ofList (m.formatChars format.toList)

/-- The format of dates when a template gives none. -/
def defaultFormat : String := "MMM DD, YYYY"

end BlogTheme.Date
