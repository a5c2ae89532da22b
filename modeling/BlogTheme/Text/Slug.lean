import BlogTheme.Text.Transliteration

/-!
# Slugs

The slug of a text has the letters and digits of its transliteration, in lower
case, for which that of ASCII is enough, since a transliteration has no other
characters. What stands between them is written as a hyphen, unless nothing is written
yet or a hyphen was written last, and hyphens at the end are taken away.
-/

namespace BlogTheme.Text

/-- Writes a character of a text behind what is written of its slug, of which the
latest character comes first. -/
def slugStep (written : List Char) (c : Char) : List Char :=
  if c.isAlphanum then c :: written
  else if !written.isEmpty && written.head? != some '-' then '-' :: written
  else written

/-- What is written of a slug, without the hyphens at its end. -/
def slugEnd (written : List Char) : List Char :=
  (written.dropWhile (· == '-')).reverse

/-- The slug of a text that is ASCII. -/
def slugOfAscii (cs : List Char) : List Char :=
  slugEnd ((cs.map Char.toLower).foldl slugStep [])

/-- The slug of a text, given how texts are transliterated. -/
def slugBy (t : Transliteration) (s : String) : String :=
  String.ofList (slugOfAscii (t.apply s).toList)

/-- The slug of a text that is transliterated by the tables. -/
def slugify : String → String :=
  slugBy .byTables

end BlogTheme.Text
