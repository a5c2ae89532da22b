import BlogTheme.Text.Blank

/-!
# Blocks of readings

A table of readings is written as text: one word for each of a run of
characters, in their order. In a word `␣` is a space; the word `∅` is the empty
reading, and `□` says that the character has none.
-/

namespace BlogTheme.Text.Transliteration

/-- The reading that a word of a table writes. -/
def readingOfWord? (word : List Char) : Option String :=
  if word = ['□'] then none
  else if word = ['∅'] then some ""
  else some (String.ofList (word.map fun c => if c = '␣' then ' ' else c))

/-- The readings of consecutive characters. -/
structure Block where
  first : Nat
  readings : Array (Option String)

namespace Block

/-- The block that starts at `first` and has these words for its readings. -/
def ofText (first : Nat) (text : String) : Block :=
  { first, readings := ((words text.toList).map readingOfWord?).toArray }

/-- The reading of a code point, if it lies in the block and has one. -/
def reading? (b : Block) (n : Nat) : Option String :=
  if n < b.first then none else (b.readings[n - b.first]?).join

end Block

/-- The reading of a code point in the first block that has one. -/
def readingIn? (blocks : List Block) (n : Nat) : Option String :=
  blocks.findSome? (·.reading? n)

end BlogTheme.Text.Transliteration
