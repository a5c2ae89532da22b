import BlogTheme.Toml.Number

/-!
# Reading TOML documents

A document is a sequence of lines: headers, keys with values, comments and blank
lines. `Toml.read` gives the table that it writes, or nothing if the text is no
document or names something twice.
-/

namespace BlogTheme.Toml

open BlogTheme.Text

/-- The characters of keys that need no quotes. -/
def isKeyChar (c : Char) : Bool :=
  isDigit c || ('a' ≤ c && c ≤ 'z') || ('A' ≤ c && c ≤ 'Z') || c == '-' || c == '_'

/-- How many parts a key may have, and how deep values may nest. -/
def nestingLimit : Nat := 79

/-- Reads one part of a key. -/
def keyPart? (cs : List Char) : Option (String × List Char) :=
  match lineString? cs with
  | some read => some read
  | none =>
    let name := cs.takeWhile isKeyChar
    if name.isEmpty then none else some (String.ofList name, cs.dropWhile isKeyChar)

/-- Reads at most so many parts of a key, with points between them, and the blanks
around each. -/
def keyParts? : (most : Nat) → List Char → Option (List String × List Char)
  | 0, _ => none
  | most + 1, cs => do
    let (part, cs) ← keyPart? (skipSpaces cs)
    match skipSpaces cs with
    | '.' :: cs =>
      let (parts, cs) ← keyParts? most cs
      return (part :: parts, cs)
    | cs => return ([part], cs)

/-- Reads a key. -/
def key? (cs : List Char) : Option (List String × List Char) :=
  keyParts? nestingLimit cs

/-- A text without the comment that it starts with. -/
def skipComment : List Char → List Char
  | '#' :: cs => cs.dropWhile isPlain
  | cs => cs

/-- The text of the next line, after blanks and a comment. -/
def lineEnd? (cs : List Char) : Option (List Char) :=
  match skipComment (skipSpaces cs) with
  | [] => some []
  | cs => newline? cs

/-- A text without the blanks, comments and ends of lines that it starts with. -/
def skipLines (cs : List Char) : List Char :=
  go cs.length cs
where
  /-- Passes over up to so many lines. -/
  go : (fuel : Nat) → List Char → List Char
    | 0, cs => cs
    | fuel + 1, cs =>
      let cs := skipComment (skipSpaces cs)
      match newline? cs with
      | some cs => go fuel cs
      | none => cs

/-- A reader of values. -/
abbrev ValueReader := List Char → Option (Value × List Char)

/-- Reads the items of an array up to its closing bracket. -/
def items? (value? : ValueReader) : (fuel : Nat) → List Char → Option (List Value × List Char)
  | 0, _ => none
  | fuel + 1, cs =>
    match skipLines cs with
    | ']' :: cs => some ([], cs)
    | cs => do
      let (item, cs) ← value? cs
      match skipLines cs with
      | ',' :: cs =>
        let (items, cs) ← items? value? fuel cs
        return (item :: items, cs)
      | ']' :: cs => return ([item], cs)
      | _ => none

/-- Reads a key, an equals sign and a value. -/
def pair? (value? : ValueReader) (cs : List Char) : Option ((List String × Value) × List Char) := do
  let (path, cs) ← key? cs
  let (value, cs) ← value? (skipSpaces (← dropAffix? ['='] cs))
  return ((path, value), cs)

/-- Reads the keys and values between braces, up to the closing one, and adds them
to `entries`. -/
def pairs? (value? : ValueReader) : (fuel : Nat) → (entries : Entries) → List Char →
    Option (Entries × List Char)
  | 0, _, _ => none
  | fuel + 1, entries, cs => do
    let ((path, value), cs) ← pair? value? cs
    let entries ← entries.assign path value
    match skipSpaces cs with
    | ',' :: cs => pairs? value? fuel entries cs
    | '\x7d' :: cs => return (entries, cs)
    | _ => none

/-- Reads the rest of a table in braces. -/
def braces? (value? : ValueReader) (cs : List Char) : Option (Entries × List Char) :=
  match skipSpaces cs with
  | '\x7d' :: cs => some ([], cs)
  | cs => pairs? value? (cs.length + 1) [] cs

/-- Reads a value in which values may nest so deep. -/
def valueAt? : (depth : Nat) → ValueReader
  | _, [] => none
  | depth, c :: cs =>
    if c = '"' ∨ c = '\'' then (string? (c :: cs)).map fun (s, cs) => (.string s, cs)
    else if c = 't' then (dropAffix? ['r', 'u', 'e'] cs).map (.boolean true, ·)
    else if c = 'f' then (dropAffix? ['a', 'l', 's', 'e'] cs).map (.boolean false, ·)
    else if c = '[' then
      match depth with
      | 0 => none
      | depth + 1 => (items? (valueAt? depth) (cs.length + 1) cs).map fun (l, cs) => (.array l, cs)
    else if c = '\x7b' then
      match depth with
      | 0 => none
      | depth + 1 => (braces? (valueAt? depth) cs).map fun (t, cs) => (.table .braces t, cs)
    else number? (c :: cs)

/-- Reads a value. -/
def value? : ValueReader :=
  valueAt? nestingLimit

/-- A document as far as it is read: its entries, and the path of the table that the
last header opened. -/
structure Draft where
  entries : Entries := []
  path : List String := []

/-- Adds what a header says. `change` opens a table of a key in a table. -/
def Draft.header (d : Draft) (path : List String)
    (change : Entries → String → Option Entries) : Option Draft := do
  let key ← path.getLast?
  let entries ← d.entries.within path.dropLast (change · key)
  return { entries, path }

/-- Adds a key with a value to the table of the last header. -/
def Draft.pair (d : Draft) (path : List String) (value : Value) : Option Draft := do
  let entries ← d.entries.within d.path (·.assign path value)
  return { d with entries }

/-- Reads a line and adds it to the document. -/
def line? (d : Draft) (cs : List Char) : Option (Draft × List Char) :=
  match skipSpaces cs with
  | '[' :: '[' :: cs => do
    let (path, cs) ← key? cs
    let d ← d.header path Entries.openNext
    return (d, ← lineEnd? (← dropAffix? [']', ']'] cs))
  | '[' :: cs => do
    let (path, cs) ← key? cs
    let d ← d.header path Entries.openTable
    return (d, ← lineEnd? (← dropAffix? [']'] cs))
  | cs =>
    match lineEnd? cs with
    | some cs => some (d, cs)
    | none => do
      let ((path, value), cs) ← pair? value? cs
      return (← d.pair path value, ← lineEnd? cs)

/-- Reads all lines and adds them to the document. -/
def lines? : (fuel : Nat) → Draft → List Char → Option Entries
  | _, d, [] => some d.entries
  | 0, _, _ => none
  | fuel + 1, d, cs => do
    let (d, cs) ← line? d cs
    lines? fuel d cs

/-- Reads a document from a text, which may start with a mark of its byte order. -/
def read (text : String) : Option Entries :=
  match text.toList with
  | '\uFEFF' :: cs => lines? cs.length {} cs
  | cs => lines? cs.length {} cs

end BlogTheme.Toml
