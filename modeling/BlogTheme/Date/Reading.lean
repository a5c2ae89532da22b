import BlogTheme.Date.Calendar
import BlogTheme.Text.Blank
import BlogTheme.Text.Decimal

/-!
# Reading dates

Two grammars for the same kind of text, a date, a time and an offset from
Greenwich.

* `Moment.readStrict` takes the fixed form `2024-03-02T15:04:05Z`, says what is
  wrong with any other text, and is used for dates written in templates.
* `Moment.read?` also takes blanks before numbers and separators, one-digit
  fields, signed years, and looser offsets; it is used for dates of requests.

In both, second 60 is a leap second, and a fraction has nine digits at most
that count.
-/

namespace BlogTheme.Date

open BlogTheme.Text

/-- What is wrong with a date text. -/
inductive DateFault where
  | tooShort
  | invalid
  | outOfRange
  | tooLong
  deriving DecidableEq, Repr

/-- The fault in words. -/
def DateFault.message : DateFault → String
  | .tooShort => "premature end of input"
  | .invalid => "input contains invalid characters"
  | .outOfRange => "input is out of range"
  | .tooLong => "trailing input"

/-- The moment with these fields, if they make one. -/
def Moment.ofFields? (day : Day) (hour minute second nano : Nat) (offset : Int) : Option Moment :=
  let leap := if second = 60 then (59, nano + billion) else (second, nano)
  if day.Exists ∧ hour < 24 ∧ minute < 60 ∧ second ≤ 60 ∧ -86400 < offset ∧ offset < 86400 then
    let moment := ofOffset day (hour * 3600 + minute * 60 + leap.1 - offset) leap.2
    if Day.minYear ≤ day.year ∧ day.year ≤ Day.maxYear ∧ moment.InRange then some moment else none
  else none

/-- The nanoseconds that the digits of a fraction of a second write; digits
after the ninth do not count. -/
def nanoseconds (ds : List Char) : Nat :=
  let ds := ds.take 9
  digitsValue ds * Nat.pow 10 (9 - ds.length)

/-! ## The fixed form -/

namespace Strict

/-- Reads one digit. -/
def digit : List Char → Except DateFault (Nat × List Char)
  | [] => .error .tooShort
  | c :: cs => if isDigit c then .ok (digitValue c, cs) else .error .invalid

/-- Reads `n` digits. -/
def number : Nat → List Char → Except DateFault (Nat × List Char)
  | 0, cs => .ok (0, cs)
  | n + 1, cs => do
    let (d, cs) ← digit cs
    let (rest, cs) ← number n cs
    return (d * Nat.pow 10 n + rest, cs)

/-- Reads one of the characters `allowed`. -/
def separator (allowed : List Char) : List Char → Except DateFault (List Char)
  | [] => .error .tooShort
  | c :: cs => if allowed.contains c then .ok cs else .error .invalid

/-- Reads two digits of an offset, of which at least the first two bytes must
be there. -/
def pair : List Char → Except DateFault (Nat × List Char)
  | [] => .error .tooShort
  | [c] => if c.toNat < 128 then .error .tooShort else .error .invalid
  | a :: b :: cs =>
    if isDigit a && isDigit b then .ok (digitValue a * 10 + digitValue b, cs)
    else .error .invalid

/-- Reads the offset from Greenwich, in seconds. West of it the sign is a hyphen
or a minus sign (U+2212). -/
def offset : List Char → Except DateFault (Int × List Char)
  | [] => .error .tooShort
  | sign :: cs =>
    if sign = 'Z' ∨ sign = 'z' then .ok (0, cs)
    else if sign = '+' ∨ sign = '-' ∨ sign = '\u2212' then do
      let (hours, cs) ← pair cs
      let cs ← separator [':'] cs
      let (minutes, cs) ← pair cs
      if 59 < minutes then .error .outOfRange
      else
        let seconds : Int := hours * 3600 + minutes * 60
        return (if sign = '+' then seconds else -seconds, cs)
    else .error .invalid

/-- Reads the fraction of a second, in nanoseconds, if there is one. -/
def fraction : List Char → Except DateFault (Nat × List Char)
  | '.' :: cs =>
    let ds := cs.takeWhile isDigit
    match ds, cs with
    | [], [] => .error .tooShort
    | [], _ => .error .invalid
    | _, _ => .ok (nanoseconds ds, cs.dropWhile isDigit)
  | cs => .ok (0, cs)

end Strict

open Strict in
/-- Reads a date in the fixed form. -/
def Moment.readStrict (text : String) : Except DateFault Moment := do
  if text.utf8ByteSize < 19 then throw .tooShort
  let (year, cs) ← number 4 text.toList
  let cs ← separator ['-'] cs
  let (month, cs) ← number 2 cs
  let cs ← separator ['-'] cs
  let (day, cs) ← number 2 cs
  let day : Day := { year, month, day }
  if ¬ day.Exists then throw .outOfRange
  let cs ← separator ['T', 't', ' '] cs
  let (hour, cs) ← number 2 cs
  let cs ← separator [':'] cs
  let (minute, cs) ← number 2 cs
  let cs ← separator [':'] cs
  let (second, cs) ← number 2 cs
  let (nano, cs) ← fraction cs
  if 23 < hour ∨ 59 < minute ∨ 60 < second then throw .outOfRange
  let (offset, cs) ← offset cs
  if cs ≠ [] then throw .tooLong
  match Moment.ofFields? day hour minute second nano offset with
  | some moment => return moment
  | none => throw .outOfRange

/-! ## The loose form -/

namespace Loose

/-- Reads between one and `width` digits after any blanks. -/
def number? (width : Nat) (cs : List Char) : Option (Nat × List Char) :=
  let cs := trimStart cs
  let ds := (cs.takeWhile isDigit).take width
  if ds.isEmpty then none else some (digitsValue ds, cs.drop ds.length)

/-- Reads a year: four digits at most, or a sign and any number of them. -/
def year? (cs : List Char) : Option (Int × List Char) :=
  match trimStart cs with
  | '-' :: cs => (signed? cs).map fun (n, cs) => (-(n : Int), cs)
  | '+' :: cs => (signed? cs).map fun (n, cs) => ((n : Int), cs)
  | cs => (number? 4 cs).map fun (n, cs) => ((n : Int), cs)
where
  signed? (cs : List Char) : Option (Nat × List Char) :=
    let ds := cs.takeWhile isDigit
    if ds.isEmpty then none else some (digitsValue ds, cs.drop ds.length)

/-- Reads the separator `c` after any blanks. -/
def separator? (c : Char) (cs : List Char) : Option (List Char) :=
  match trimStart cs with
  | d :: cs => if d = c then some cs else none
  | [] => none

/-- Reads the fraction of a second, in nanoseconds, if there is one. -/
def fraction? : List Char → Option (Nat × List Char)
  | '.' :: cs =>
    let ds := cs.takeWhile isDigit
    if ds.isEmpty then none else some (nanoseconds ds, cs.dropWhile isDigit)
  | cs => some (0, cs)

/-- Reads the minutes of an offset. -/
def offsetMinutes? : List Char → Option (Nat × List Char)
  | a :: b :: cs =>
    if '0' ≤ a ∧ a ≤ '5' ∧ isDigit b then some (digitValue a * 10 + digitValue b, cs) else none
  | _ => none

/-- Reads the offset from Greenwich, in seconds: `Z`, `UTC`, or a sign, two
digits of hours and two of minutes, with colons or blanks between them. West of
it the sign is a hyphen or a minus sign (U+2212). -/
def offset? (cs : List Char) : Option (Int × List Char) :=
  match trimStart cs with
  | u :: t :: c :: rest =>
    if [u.toLower, t.toLower, c.toLower] = ['u', 't', 'c'] then some (0, rest)
    else shifted? (u :: t :: c :: rest)
  | cs => shifted? cs
where
  shifted? : List Char → Option (Int × List Char)
    | [] => none
    | sign :: cs =>
      if sign = 'Z' ∨ sign = 'z' then some (0, cs)
      else if sign = '+' ∨ sign = '-' ∨ sign = '\u2212' then do
        match cs with
        | a :: b :: cs =>
          if isDigit a && isDigit b then
            let hours := digitValue a * 10 + digitValue b
            let (minutes, cs) ← offsetMinutes? (cs.dropWhile fun c => c == ':' || isBlank c)
            let seconds : Int := hours * 3600 + minutes * 60
            return (if sign = '+' then seconds else -seconds, cs)
          else none
        | _ => none
      else none

end Loose

open Loose in
/-- Reads a date in the loose form. -/
def Moment.read? (text : String) : Option Moment := do
  let (year, cs) ← year? text.toList
  let cs ← separator? '-' cs
  let (month, cs) ← number? 2 cs
  let cs ← separator? '-' cs
  let (day, cs) ← number? 2 cs
  let cs ← match cs with
    | c :: cs => if c = 'T' ∨ c = 't' ∨ c = ' ' then some cs else none
    | [] => none
  let (hour, cs) ← number? 2 cs
  let cs ← separator? ':' cs
  let (minute, cs) ← number? 2 cs
  let cs ← separator? ':' cs
  let (second, cs) ← number? 2 cs
  let (nano, cs) ← fraction? cs
  let (offset, cs) ← offset? cs
  if trimStart cs ≠ [] then none
  else Moment.ofFields? { year, month, day } hour minute second nano offset

end BlogTheme.Date
