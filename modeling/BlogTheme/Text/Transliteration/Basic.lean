/-!
# Transliterations

A transliteration gives every text one in ASCII that reads like it.
-/

namespace BlogTheme.Text

/-- Whether a character is ASCII. -/
def isAscii (c : Char) : Bool :=
  c.toNat < 128

/-- A way to write texts in ASCII. -/
structure Transliteration where
  apply : String → String
  isAscii_of_mem_apply : ∀ s, ∀ c ∈ (apply s).toList, isAscii c

end BlogTheme.Text
