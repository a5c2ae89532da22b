import BlogTheme.Text.Transliteration.Block

/-!
# Korean syllables

A syllable is made of an initial consonant, a vowel and a final consonant; the
first and the last may be silent. The block of all syllables lists them in that
order, the final consonant changing fastest.
-/

namespace BlogTheme.Text.Transliteration.Hangul

/-- Initial consonants. -/
def initials : Block :=
  .ofText 0 "g gg n d dd r m b bb s ss ∅ j jj c k t p h"

/-- Vowels. -/
def vowels : Block :=
  .ofText 0 "a ae ya yae eo e yeo ye o wa wae oe yo u weo we wi yu eu yi i"

/-- Final consonants. -/
def finals : Block :=
  .ofText 0 "∅ g gg gs n nj nh d l lg lm lb ls lt lp lh m b bs s ss ng j c k t p h"

/-- The reading of a syllable. -/
def reading? (n : Nat) : Option String :=
  if n < 0xAC00 ∨ 0xD7A4 ≤ n then none
  else do
    let place := n - 0xAC00
    let initial ← initials.reading? (place / (21 * 28))
    let vowel ← vowels.reading? (place / 28 % 21)
    let final ← finals.reading? (place % 28)
    return initial ++ vowel ++ final

end BlogTheme.Text.Transliteration.Hangul
