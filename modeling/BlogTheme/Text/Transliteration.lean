import BlogTheme.Text.Transliteration.Abugidas
import BlogTheme.Text.Transliteration.Alphabets
import BlogTheme.Text.Transliteration.Basic
import BlogTheme.Text.Transliteration.Han
import BlogTheme.Text.Transliteration.Hangul
import BlogTheme.Text.Transliteration.Latin
import BlogTheme.Text.Transliteration.Pictographs
import BlogTheme.Text.Transliteration.Signs
import BlogTheme.Text.Transliteration.Syllabaries

/-!
# Transliteration by tables

Every character has a reading in ASCII: itself if it is ASCII, nothing if it is
silent, else the entry of one of the tables. A space ends the reading of an
ideograph and the name of a pictograph. A character that no table knows reads
as `[?]`.

The start of a text stays as it is, up to its first character that is the delete
control or outside ASCII. From there on, controls of ASCII are silent too.
-/

namespace BlogTheme.Text.Transliteration

/-- Ranges of characters that read as nothing: controls, marks that join the
character before them, selectors of a variant, and marks of direction. -/
def silentRanges : List (Nat × Nat) :=
  [(0x80, 0x9F), (0x2E5, 0x2EB), (0x300, 0x362), (0x591, 0x5AF), (0x610, 0x61A), (0x656, 0x65F),
   (0x6D6, 0x6DC), (0x6DF, 0x6E8), (0x1AB0, 0x1ACF), (0x1DC0, 0x1DD2), (0x1DE8, 0x1DFF),
   (0x2060, 0x206F), (0x20D0, 0x20F0), (0xFE00, 0xFE0F), (0xFE20, 0xFE2F), (0xFEFF, 0xFEFF),
   (0x1F3FB, 0x1F3FF), (0xE0100, 0xE01EF)]

/-- Whether a code point reads as nothing. -/
def isSilent (n : Nat) : Bool :=
  silentRanges.any fun (first, last) => first ≤ n && n ≤ last

/-- The tables of all scripts that are read letter by letter. -/
def blocks : List Block :=
  Latin.blocks ++ Alphabets.blocks ++ Signs.blocks ++ Syllabaries.blocks ++ Abugidas.blocks

/-- The reading of a character that is not ASCII, if there is one. -/
def reading? (c : Char) : Option String :=
  let n := c.toNat
  if isSilent n then some ""
  else if 0x4E00 ≤ n && n < 0xA000 then (Han.reading? c).map (· ++ " ")
  else ((readingIn? blocks n).or (Hangul.reading? n)).or ((Pictographs.name? n).map (· ++ " "))

/-- Whether a character is a control of ASCII. -/
def isControl (c : Char) : Bool :=
  c.toNat < 32 || c.toNat = 127

/-- A character in ASCII, where controls are silent. -/
def ofChar (c : Char) : List Char :=
  if isControl c then []
  else if isAscii c then [c]
  else ((reading? c).getD "[?]").toList.filter isAscii

/-- Whether a character at the start of a text leaves the start as it is. -/
def isPlain (c : Char) : Bool :=
  c.toNat < 127

/-- A text in ASCII. -/
def ofText (cs : List Char) : List Char :=
  cs.takeWhile isPlain ++ (cs.dropWhile isPlain).flatMap ofChar

theorem isAscii_of_isPlain {c : Char} (h : isPlain c) : isAscii c := by
  simp only [isPlain, isAscii, decide_eq_true_eq] at h ⊢
  omega

theorem isAscii_of_mem_ofChar {c d : Char} (h : d ∈ ofChar c) : isAscii d := by
  unfold ofChar at h
  split at h
  · cases h
  · split at h
    · rename_i hc
      rwa [List.mem_singleton.1 h]
    · exact (List.mem_filter.1 h).2

theorem isAscii_of_mem_ofText {cs : List Char} {d : Char} (h : d ∈ ofText cs) : isAscii d := by
  obtain h | h := List.mem_append.1 h
  · exact isAscii_of_isPlain (List.all_eq_true.1 List.all_takeWhile d h)
  · obtain ⟨c, -, hd⟩ := List.mem_flatMap.1 h
    exact isAscii_of_mem_ofChar hd

/-- The transliteration by the tables. -/
def byTables : Transliteration where
  apply s := String.ofList (ofText s.toList)
  isAscii_of_mem_apply _ _ hc := isAscii_of_mem_ofText (String.toList_ofList ▸ hc)

end BlogTheme.Text.Transliteration
