import BlogTheme.Text.Unprintable

/-!
# Quoted names

Messages that name a template put the name between double quotes, with a
backslash before a quote or a backslash, the short forms `\t`, `\r`, `\n` and
`\0`, and the hexadecimal form `\u` with the number in braces for every other
character that has no picture of its own.
-/

namespace BlogTheme.Text

/-- Whether `c` stands for itself in a quoted name. -/
def isPrintable (c : Char) : Bool :=
  !(Unprintable.around c.toNat).any fun (first, last) => first ≤ c.toNat && c.toNat ≤ last

/-- A character as it is written between quotes. -/
def quotedChar (c : Char) : List Char :=
  if c = '"' then ['\\', '"']
  else if c = '\\' then ['\\', '\\']
  else if c = '\t' then ['\\', 't']
  else if c = '\r' then ['\\', 'r']
  else if c = '\n' then ['\\', 'n']
  else if c.toNat = 0 then ['\\', '0']
  else if isPrintable c then [c]
  else ['\\', 'u', '\x7b'] ++ Nat.toDigits 16 c.toNat ++ ['\x7d']

/-- A name between double quotes. -/
def quoted (s : String) : String :=
  String.ofList ('"' :: s.toList.flatMap quotedChar ++ ['"'])

end BlogTheme.Text
