/-!
# Blank characters, trimming and words

`isBlank` is the Unicode property White_Space. Everything in this library that
trims text, splits it into words or squeezes runs of space uses this one set.

Texts are handled as lists of characters; `String` appears where a text enters
or leaves the library.
-/

namespace BlogTheme.Text

/-- The characters with the Unicode property White_Space. -/
def isBlank (c : Char) : Bool :=
  let n := c.toNat
  (9 ≤ n && n ≤ 13) || n == 0x20 || n == 0x85 || n == 0xA0 || n == 0x1680 ||
    (0x2000 ≤ n && n ≤ 0x200A) || n == 0x2028 || n == 0x2029 || n == 0x202F || n == 0x205F ||
    n == 0x3000

/-- The text without the blanks it starts with. -/
def trimStart (cs : List Char) : List Char :=
  cs.dropWhile isBlank

/-- The text without the blanks it ends with. -/
def trimEnd (cs : List Char) : List Char :=
  (cs.reverse.dropWhile isBlank).reverse

/-- The text without the blanks around it. -/
def trim (cs : List Char) : List Char :=
  trimEnd (trimStart cs)

/-- A text with one space for each run of blanks, for none at its start if that is
`afterBlank`. -/
def squeezeFrom : (afterBlank : Bool) → List Char → List Char
  | _, [] => []
  | afterBlank, c :: cs =>
    if isBlank c then
      if afterBlank then squeezeFrom true cs else ' ' :: squeezeFrom true cs
    else c :: squeezeFrom false cs

/-- A text with one space for each run of blanks. -/
def squeeze (cs : List Char) : List Char :=
  squeezeFrom false cs

/-- The stretches between blanks, empty ones included: one more than there are
blanks. -/
def stretches : List Char → List (List Char)
  | [] => [[]]
  | c :: cs =>
    if isBlank c then [] :: stretches cs
    else match stretches cs with
      | w :: ws => (c :: w) :: ws
      | [] => [[c]]

/-- The words of a text: its maximal runs of characters that are not blank. -/
def words (cs : List Char) : List (List Char) :=
  (stretches cs).filter (fun w => !w.isEmpty)

/-- Words joined by single spaces. -/
def unwords (ws : List (List Char)) : List Char :=
  [' '].intercalate ws

/-- `s` without the string `affix` it starts with, if it does. -/
def dropAffix? [BEq α] : (affix s : List α) → Option (List α)
  | [], s => some s
  | _ :: _, [] => none
  | a :: affix, c :: s => if a == c then dropAffix? affix s else none

end BlogTheme.Text
