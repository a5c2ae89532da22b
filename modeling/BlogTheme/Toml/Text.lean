import BlogTheme.Text.Blank
import BlogTheme.Text.Radix

/-!
# Strings in TOML

Strings stand between double quotes, where a backslash starts an escape, or
between single quotes, where it does not. Three quotes on each side let a string
go over several lines.
-/

namespace BlogTheme.Toml

open BlogTheme.Text

/-- The blanks of a line. -/
def isSpace (c : Char) : Bool :=
  c == ' ' || c == '\t'

/-- A text without the blanks of its line that it starts with. -/
def skipSpaces (cs : List Char) : List Char :=
  cs.dropWhile isSpace

/-- The text after the end of a line that it starts with. -/
def newline? : List Char → Option (List Char)
  | '\n' :: cs => some cs
  | '\r' :: '\n' :: cs => some cs
  | _ => none

/-- The characters that may stand in a line as they are: all but the controls, of
which only the tab may. -/
def isPlain (c : Char) : Bool :=
  c == '\t' || (c.toNat ≥ 0x20 && c.toNat != 0x7F)

/-- The character of an escape of so many hexadecimal digits. -/
def numbered? (count : Nat) (cs : List Char) : Option (Char × List Char) := do
  let ds := cs.take count
  if ds.length < count then none
  let n ← readIn? 16 ds
  if n < 0xD800 ∨ (0xE000 ≤ n ∧ n < 0x110000) then some (Char.ofNat n, cs.drop count) else none

/-- The character of an escape, after its backslash. -/
def escape? : List Char → Option (Char × List Char)
  | 'b' :: cs => some ('\x08', cs)
  | 't' :: cs => some ('\t', cs)
  | 'n' :: cs => some ('\n', cs)
  | 'f' :: cs => some ('\x0c', cs)
  | 'r' :: cs => some ('\r', cs)
  | '"' :: cs => some ('"', cs)
  | '\\' :: cs => some ('\\', cs)
  | 'u' :: cs => numbered? 4 cs
  | 'U' :: cs => numbered? 8 cs
  | _ => none

/-- Reads a string between double quotes after the first of them; `seen` holds
its characters so far, latest first. -/
def basicFrom (fuel : Nat) (seen : List Char) (cs : List Char) : Option (String × List Char) :=
  match fuel, cs with
  | _ + 1, '"' :: cs => some (String.ofList seen.reverse, cs)
  | fuel + 1, '\\' :: cs => do
    let (c, cs) ← escape? cs
    basicFrom fuel (c :: seen) cs
  | fuel + 1, c :: cs => if isPlain c then basicFrom fuel (c :: seen) cs else none
  | _, _ => none

/-- Reads a string between single quotes after the first of them. -/
def literalFrom (cs : List Char) : Option (String × List Char) :=
  let inner := cs.takeWhile fun c => isPlain c && c != '\''
  match cs.dropWhile fun c => isPlain c && c != '\'' with
  | '\'' :: cs => some (String.ofList inner, cs)
  | _ => none

/-- The quotes at the start of a text, up to five: so many may stand at the end
of a string over several lines, the last three of them outside it. -/
def quotes (quote : Char) (cs : List Char) : Nat :=
  min 5 (cs.takeWhile (· == quote)).length

/-- The text after a backslash at the end of a line: blanks and ends of lines are
passed over up to the next other character. -/
def continued? (cs : List Char) : Option (List Char) := do
  let cs ← newline? (skipSpaces cs)
  skipLines cs.length cs
where
  /-- Passes over blanks and ends of lines. -/
  skipLines : (fuel : Nat) → List Char → Option (List Char)
    | 0, cs => some cs
    | fuel + 1, cs =>
      match newline? (skipSpaces cs) with
      | some cs => skipLines fuel cs
      | none => some (skipSpaces cs)

/-- Reads a string between three quotes after the first three and the end of line that
may follow them; `escapes` says whether a backslash starts an escape. -/
def linesFrom (quote : Char) (escapes : Bool) (fuel : Nat) (seen : List Char) (cs : List Char) :
    Option (String × List Char) :=
  match fuel, cs with
  | 0, _ => none
  | _, [] => none
  | fuel + 1, c :: rest =>
    if c = quote then
      let n := quotes quote cs
      if n < 3 then linesFrom quote escapes fuel (c :: seen) rest
      else some (String.ofList (List.replicate (n - 3) quote ++ seen).reverse, cs.drop n)
    else if escapes && c = '\\' then
      match continued? rest with
      | some rest => linesFrom quote escapes fuel seen rest
      | none => do
        let (c, rest) ← escape? rest
        linesFrom quote escapes fuel (c :: seen) rest
    else match newline? cs with
      | some rest => linesFrom quote escapes fuel ('\n' :: seen) rest
      | none => if isPlain c then linesFrom quote escapes fuel (c :: seen) rest else none

/-- Reads a string on one line. -/
def lineString? : List Char → Option (String × List Char)
  | '"' :: cs => basicFrom (cs.length + 1) [] cs
  | '\'' :: cs => literalFrom cs
  | _ => none

/-- Reads a string. -/
def string? (cs : List Char) : Option (String × List Char) :=
  match cs with
  | '"' :: '"' :: '"' :: rest =>
    linesFrom '"' true (rest.length + 1) [] ((newline? rest).getD rest)
  | '\'' :: '\'' :: '\'' :: rest =>
    linesFrom '\'' false (rest.length + 1) [] ((newline? rest).getD rest)
  | cs => lineString? cs

end BlogTheme.Toml
