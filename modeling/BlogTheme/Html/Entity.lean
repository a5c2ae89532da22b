import BlogTheme.Html.EntityTable
import BlogTheme.Text.Decimal
import BlogTheme.Text.Radix

/-!
# Decoding character references

A reference is an ampersand, a name or a number, and a semicolon. A name must
be one of the table, letter for letter, and stands for one character. A number
is `#` and decimal digits, or `#x` and hexadecimal digits, and must name a
character that a page may hold: a Unicode scalar value, and no control below the
space other than tab, line feed, form feed and carriage return.

Decoding is one pass from left to right. What looks like a reference and is
none stays as it is, and a second ampersand starts a new candidate.
-/

namespace BlogTheme.Html

open BlogTheme.Text

/-- The character that a numeric reference to `n` stands for. -/
def referenced? (n : Nat) : Option Char :=
  if n < 0x20 && !(n == 9 || n == 10 || n == 12 || n == 13) then none
  else if n < 0xD800 || (0xE000 ≤ n && n < 0x110000) then some (Char.ofNat n)
  else none

/-- The character of a named reference. -/
def named? (name : List Char) : Option Char :=
  let code := match EntityTable.markup.lookup (String.ofList name), name with
    | some found, _ => some found
    | none, c :: _ => (EntityTable.startingWith c).lookup (String.ofList name)
    | none, [] => none
  code.map Char.ofNat

/-- What stands between the ampersand and the semicolon, decoded. -/
def reference? : List Char → Option Char
  | '#' :: 'x' :: ds => (readIn? 16 ds).bind referenced?
  | '#' :: 'X' :: ds => (readIn? 16 ds).bind referenced?
  | '#' :: ds => (readDigits? ds).bind referenced?
  | name => named? name

/-- A text with its references decoded. `pending` holds what was read since the
last ampersand, latest first, while that may still become a reference. -/
def decodeFrom : (pending : Option (List Char)) → List Char → List Char
  | none, [] => []
  | none, c :: cs => if c = '&' then decodeFrom (some []) cs else c :: decodeFrom none cs
  | some seen, [] => '&' :: seen.reverse
  | some seen, c :: cs =>
    if c = ';' then
      match reference? seen.reverse with
      | some r => r :: decodeFrom none cs
      | none => '&' :: seen.reverse ++ [';'] ++ decodeFrom none cs
    else if c = '&' then '&' :: seen.reverse ++ decodeFrom (some []) cs
    else decodeFrom (some (c :: seen)) cs

/-- A text with its references decoded. -/
def decode (cs : List Char) : List Char :=
  decodeFrom none cs

end BlogTheme.Html
