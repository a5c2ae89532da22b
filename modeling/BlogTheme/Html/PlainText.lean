import BlogTheme.Html.Entity
import BlogTheme.Text.Blank

/-!
# Plain text of HTML

`plainText` replaces each tag by a space, decodes character references, trims what is
left and writes one space for each run of blanks. `firstWords` and `firstChars` cut a
plain text short. A plain text must be escaped again before it is written into
a page.
-/

namespace BlogTheme.Html

open BlogTheme.Text

/-- A text with every tag replaced by a space: a tag runs from a `<` to the
next `>`. `opened` holds what was read since the `<` of a tag that is still
open, latest first; a tag that never closes is no tag. -/
def blankTagsFrom : (opened : Option (List Char)) → List Char → List Char
  | none, [] => []
  | none, c :: cs => if c = '<' then blankTagsFrom (some []) cs else c :: blankTagsFrom none cs
  | some seen, [] => '<' :: seen.reverse
  | some seen, c :: cs =>
    if c = '>' then ' ' :: blankTagsFrom none cs else blankTagsFrom (some (c :: seen)) cs

/-- A text with every tag replaced by a space. -/
def blankTags (cs : List Char) : List Char :=
  blankTagsFrom none cs

/-- The plain text of HTML, character by character. -/
def plainChars (cs : List Char) : List Char :=
  squeeze (trim (decode (blankTags cs)))

/-- The plain text of HTML: no tags, references decoded, words one space apart. -/
def plainText (html : String) : String :=
  String.ofList (plainChars html.toList)

/-- The first `n` words of a text, one space apart. -/
def firstWords (n : Nat) (s : String) : String :=
  String.ofList (unwords ((words s.toList).take n))

/-- The first `n` characters of a text. -/
def firstChars (n : Nat) (s : String) : String :=
  String.ofList (s.toList.take n)

end BlogTheme.Html
