import BlogTheme.Json.Basic
import BlogTheme.Text.Decimal

/-!
# Writing JSON documents

`Json.write` gives the text of a document on one line, without blanks. What a
broken document lacks is written as `null`.
-/

namespace BlogTheme.Json

open BlogTheme.Text

/-- A character as it stands in a string. -/
def writeChar (c : Char) : List Char :=
  if c = '"' then ['\\', '"']
  else if c = '\\' then ['\\', '\\']
  else if c = '\n' then ['\\', 'n']
  else if c.toNat < 0x20 then
    let ds := Nat.toDigits 16 c.toNat
    ['\\', 'u'] ++ List.replicate (4 - ds.length) '0' ++ ds
  else [c]

/-- A string with its quotes. -/
def writeString (s : String) : String :=
  String.ofList ('"' :: s.toList.flatMap writeChar ++ ['"'])

mutual

/-- The text of a document. -/
def write : Json → String
  | .null => "null"
  | .bool b => if b then "true" else "false"
  | .number (.integer n) => showInt n
  | .number (.real m e) => showInt m ++ "e" ++ showInt e
  | .string (some s) => writeString s
  | .string none => "null"
  | .array items _ => "[" ++ ",".intercalate (writeItems items) ++ "]"
  | .object members _ => "\x7b" ++ ",".intercalate (writeMembers members) ++ "\x7d"
  | .broken _ => "null"

@[inherit_doc write]
def writeItems : List Json → List String
  | [] => []
  | item :: items => write item :: writeItems items

@[inherit_doc write]
def writeMembers : List (Option String × Json) → List String
  | [] => []
  | (key, value) :: members =>
    (writeString (key.getD "") ++ ":" ++ write value) :: writeMembers members

end

end BlogTheme.Json
