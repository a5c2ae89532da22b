import BlogTheme.Date.Calendar
import BlogTheme.Text.Binary64
import BlogTheme.Toml.Basic
import BlogTheme.Toml.Text

/-!
# Numbers, dates and times in TOML

Single underscores may stand between the digits of a number. An integer must fit
into 64 bits with a sign, a date must be one of the calendar.
-/

namespace BlogTheme.Toml

open BlogTheme.Text

/-- Whether each underscore of a text stands between two other characters. -/
def separated : List Char → Bool
  | [] => true
  | ['_'] => false
  | '_' :: _ => false
  | [_] => true
  | _ :: '_' :: '_' :: _ => false
  | _ :: '_' :: cs => !cs.isEmpty && separated cs
  | _ :: cs => separated cs

/-- Reads digits and the underscores between them, which are left out. -/
def digitsOf? (isDigit : Char → Bool) (cs : List Char) : Option (List Char × List Char) :=
  let run := cs.takeWhile fun c => isDigit c || c == '_'
  if run.isEmpty || !separated run then none
  else some (run.filter (· != '_'), cs.dropWhile fun c => isDigit c || c == '_')

/-- Reads a sign, if there is one: whether it is a minus. -/
def sign : List Char → Bool × List Char
  | '+' :: cs => (false, cs)
  | '-' :: cs => (true, cs)
  | cs => (false, cs)

/-- Reads the digits of a decimal integer, which start with a zero only if it is all
there is. -/
def wholeDigits? (cs : List Char) : Option (List Char × List Char) := do
  let (ds, cs) ← digitsOf? isDigit cs
  if ds.head? = some '0' ∧ ds.length ≠ 1 then none else some (ds, cs)

/-- An integer, if it fits into 64 bits. -/
def fitting? (n : Int) : Option Value :=
  if minInt64 ≤ n ∧ n ≤ maxInt64 then some (.integer n) else none

/-- Reads an integer of a base after the letter of the base. -/
def based? (base : Nat) (cs : List Char) : Option (Value × List Char) := do
  let (ds, cs) ← digitsOf? (fun c => (digitIn? base c).isSome) cs
  let n ← readIn? base ds
  return (← fitting? n, cs)

/-- Reads an exponent, after its letter. -/
def exponent? (cs : List Char) : Option (Int × List Char) := do
  let (negative, cs) := sign cs
  let (ds, cs) ← digitsOf? isDigit cs
  return (if negative then -(digitsValue ds : Int) else digitsValue ds, cs)

/-- Reads the exponent of a number, if it has one. -/
def scale? (cs : List Char) : Option (Int × List Char) :=
  match cs with
  | 'e' :: cs => exponent? cs
  | 'E' :: cs => exponent? cs
  | cs => some (0, cs)

/-- Reads a number in decimal. One with point or exponent may not be too large for
floating point. -/
def decimal? (cs : List Char) : Option (Value × List Char) := do
  let (negative, cs) := sign cs
  let (whole, cs) ← wholeDigits? cs
  let real (places : List Char) (scale : Int) : Option Value :=
    let digits := digitsValue (whole ++ places)
    if !negative && Binary64.exceeds digits (scale - places.length) then none else some .float
  match cs with
  | '.' :: cs =>
    let (places, cs) ← digitsOf? isDigit cs
    let (scale, cs) ← scale? cs
    return (← real places scale, cs)
  | cs =>
    if cs.head? = some 'e' ∨ cs.head? = some 'E' then
      let (scale, cs) ← scale? cs
      return (← real [] scale, cs)
    else
      let n : Int := digitsValue whole
      return (← fitting? (if negative then -n else n), cs)

/-- Reads so many digits, whose value must lie between two bounds. -/
def field? (count low high : Nat) (cs : List Char) : Option (Nat × List Char) := do
  let n ← readDigits? (cs.take count)
  if (cs.take count).length = count ∧ low ≤ n ∧ n ≤ high then some (n, cs.drop count) else none

/-- Reads a date. -/
def day? (cs : List Char) : Option (List Char) := do
  let (year, cs) ← field? 4 0 9999 cs
  let (month, cs) ← field? 2 1 12 (← dropAffix? ['-'] cs)
  let (_, cs) ← field? 2 1 (Date.monthLength year month) (← dropAffix? ['-'] cs)
  return cs

/-- Reads a time of day. -/
def time? (cs : List Char) : Option (List Char) := do
  let (_, cs) ← field? 2 0 23 cs
  let (_, cs) ← field? 2 0 59 (← dropAffix? [':'] cs)
  let (_, cs) ← field? 2 0 60 (← dropAffix? [':'] cs)
  match cs with
  | '.' :: d :: rest => if isDigit d then return rest.dropWhile isDigit else return cs
  | cs => return cs

/-- Reads the offset of a time from Greenwich, if it has one. -/
def offset? (cs : List Char) : Option (List Char) :=
  match cs with
  | 'Z' :: cs => some cs
  | 'z' :: cs => some cs
  | c :: rest =>
    if c = '+' ∨ c = '-' then do
      let (_, rest) ← field? 2 0 23 rest
      let (_, rest) ← field? 2 0 59 (← dropAffix? [':'] rest)
      return rest
    else some cs
  | [] => some []

/-- Reads a date, a time, or both. -/
def moment? (cs : List Char) : Option (List Char) :=
  match day? cs with
  | none => time? cs
  | some cs =>
    match cs with
    | c :: rest =>
      if c = 'T' ∨ c = 't' ∨ c = ' ' then
        match time? rest with
        | some rest => offset? rest
        | none => some cs
      else some cs
    | [] => some []

/-- Reads a number, a date or a time. -/
def number? (cs : List Char) : Option (Value × List Char) :=
  match moment? cs with
  | some cs => some (.moment, cs)
  | none =>
    match cs with
    | '0' :: 'x' :: cs => based? 16 cs
    | '0' :: 'o' :: cs => based? 8 cs
    | '0' :: 'b' :: cs => based? 2 cs
    | cs =>
      match (sign cs).2 with
      | 'i' :: 'n' :: 'f' :: cs => some (.float, cs)
      | 'n' :: 'a' :: 'n' :: cs => some (.float, cs)
      | _ => decimal? cs

end BlogTheme.Toml
