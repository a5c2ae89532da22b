import BlogTheme.Template.Recogniser
import BlogTheme.Text.Decimal

/-!
# Segments of a source

A source is a sequence of segments: comments, tags, and the text between them.
`Segment.one` reads the next segment, `Segment.sequence` as many as there are.
Which blocks the tags open and close is not looked at here.
-/

namespace BlogTheme.Template

open BlogTheme.Text (isDigit)

/-- An argument value as it stands in a tag; a number with its place. -/
inductive Word where
  | string (value : String)
  | number (literal : String) (place : Position)
  | boolean (value : Bool)
  | path (path : String)
  deriving DecidableEq, Repr

/-- An argument of a tag, with its key if it has one. -/
structure Arg where
  key : Option String
  word : Word
  deriving DecidableEq, Repr

/-- A piece of a source. -/
inductive Segment where
  | comment
  | text (content : String)
  | expression (name : String) (args : List Arg) (escaped : Bool)
  | inclusion (name : Word) (args : List Arg)
  | layout (arg : Arg)
  | blockOpen (name : String) (args : List Arg)
  | inverse
  | blockClose (name : String)
  deriving DecidableEq, Repr

/-- A segment with the places where it begins and ends. -/
structure Placed where
  segment : Segment
  start : Position
  stop : Position
  deriving DecidableEq, Repr

/-! ## Words -/

/-- The letters and digits of ASCII. -/
def isAlphanumeric (c : Char) : Bool :=
  ('a' ≤ c && c ≤ 'z') || ('A' ≤ c && c ≤ 'Z') || ('0' ≤ c && c ≤ '9')

/-- The characters of names and paths. -/
def isPathChar (c : Char) : Bool :=
  isAlphanumeric c || c == '_' || c == '-' || c == '.' || c == '@' || c == '/' || c == '$'

/-- The characters of keys. -/
def isKeyChar (c : Char) : Bool :=
  isAlphanumeric c || c == '_' || c == '-'

/-- The blanks that may stand between the words of a tag. -/
def isTagBlank (c : Char) : Bool :=
  c == ' ' || c == '\t' || c == '\r' || c == '\n'

namespace Recogniser

/-- Any blanks. -/
def blanks : Recogniser (List Char) := run isTagBlank

/-- At least one blank. -/
def blanks1 : Recogniser (List Char) := run1 isTagBlank

/-- A path. -/
def path : Recogniser String :=
  named .path ((run1 isPathChar).map String.ofList)

/-- A string between double or single quotes, in which the quote cannot stand. -/
def string : Recogniser String :=
  let quotedBy (quote : String) (q : Char) : Recogniser String :=
    ((literal quote).after ((run (· != q)).before (literal quote))).map String.ofList
  named .string ((quotedBy "\"" '"').orElse (quotedBy "'" '\''))

/-- A number: digits, perhaps after a minus sign. -/
def number : Recogniser String :=
  let sign := (literal "-").map (fun _ => ['-']) |>.orElse ((run fun _ => false))
  named .number (((sign.both (run1 isDigit)).notBefore isPathChar).map
    fun (sign, ds) => String.ofList (sign ++ ds))

/-- `true` or `false`. -/
def boolean : Recogniser Bool :=
  named .boolean ((((literal "true").map fun _ => true).orElse
    ((literal "false").map fun _ => false)).notBefore isPathChar)

/-- A value: a string, a number, a truth value or a path, whichever fits first. -/
def word : Recogniser Word :=
  (string.map .string).orElse <|
  ((position.both number).map fun (place, literal) => .number literal place).orElse <|
  (boolean.map .boolean).orElse (path.map .path)

/-- A key with its value. -/
def keyed : Recogniser Arg :=
  let key := named .hashKey ((run1 isKeyChar).map String.ofList)
  named .hashPair ((key.both ((literal "=").after word)).map
    fun (key, word) => { key := some key, word })

/-- An argument. -/
def arg : Recogniser Arg :=
  keyed.orElse (word.map fun word => { key := none, word })

/-- Arguments, each after at least one blank. -/
def args : Recogniser (List Arg) :=
  many (blanks1.after arg)

/-- A name with its arguments. -/
def invocation : Recogniser (String × List Arg) :=
  named .invocation (path.both args)

/-- What stands between `opening` and `closing`, blanks around it apart. -/
def between (opening closing : String) (p : Recogniser α) : Recogniser α :=
  (((literal opening).after blanks).after (p.before blanks)).before (literal closing)

end Recogniser

/-! ## Segments -/

namespace Segment

open Recogniser

/-- The text up to and with the first occurrence of `mark`. -/
def upTo? (mark : List Char) : List Char → Option (List Char × List Char)
  | [] => none
  | c :: cs =>
    if mark.isPrefixOf (c :: cs) then some (mark, (c :: cs).drop mark.length)
    else (upTo? mark cs).map fun (front, rest) => (c :: front, rest)

/-- A comment from `opening` to the first `closing` after it. -/
def commentBetween (opening closing : String) : Recogniser Segment :=
  plain fun c => do
    let c ← c.literal? opening.toList
    let (front, rest) ← upTo? closing.toList c.rest
    return (.comment, c.advance front rest)

/-- The text in front of the next pair of braces, or of the end. -/
def textRun : List Char → List Char × List Char
  | [] => ([], [])
  | c :: cs =>
    if ['\x7b', '\x7b'].isPrefixOf (c :: cs) then ([], c :: cs)
    else
      let (front, rest) := textRun cs
      (c :: front, rest)

/-- A comment that may hold any tags. -/
def longComment : Recogniser Segment :=
  named .longComment (commentBetween "\x7b\x7b!--" "--\x7d\x7d")

/-- A comment without tags. -/
def shortComment : Recogniser Segment :=
  named .shortComment (commentBetween "\x7b\x7b!" "\x7d\x7d")

/-- A tag that names a layout. -/
def layoutTag : Recogniser Segment :=
  named .extendsTag ((between "\x7b\x7b!<" "\x7d\x7d" arg).map .layout)

/-- A tag whose value is written as it is. -/
def rawTag : Recogniser Segment :=
  named .rawTag ((between "\x7b\x7b\x7b" "\x7d\x7d\x7d" invocation).map
    fun (name, args) => .expression name args false)

/-- A tag that opens a block. -/
def openTag : Recogniser Segment :=
  named .blockOpen ((between "\x7b\x7b#" "\x7d\x7d" invocation).map
    fun (name, args) => .blockOpen name args)

/-- A tag that begins the inverse of a block. -/
def inverseTag : Recogniser Segment :=
  let mark := ((literal "else").notBefore isPathChar).orElse (literal "^")
  named .inverseTag ((between "\x7b\x7b" "\x7d\x7d" mark).map fun _ => .inverse)

/-- A tag that closes a block. -/
def closeTag : Recogniser Segment :=
  named .blockClose ((between "\x7b\x7b/" "\x7d\x7d" path).map .blockClose)

/-- A tag that includes a partial. -/
def includeTag : Recogniser Segment :=
  let name := named .partialName ((string.map .string).orElse (path.map .path))
  named .partialTag ((between "\x7b\x7b>" "\x7d\x7d" (name.both args)).map
    fun (name, args) => .inclusion name args)

/-- A tag whose value is written escaped. -/
def expressionTag : Recogniser Segment :=
  named .exprTag ((between "\x7b\x7b" "\x7d\x7d" invocation).map
    fun (name, args) => .expression name args true)

/-- Text without tags. -/
def plainText : Recogniser Segment :=
  named .text <| plain fun c =>
    let (front, rest) := textRun c.rest
    if front.isEmpty then none else some (.text (String.ofList front), c.advance front rest)

/-- The next segment: of the kinds that fit, the first in this order. -/
def one : Recogniser Segment :=
  longComment.orElse <| layoutTag.orElse <| shortComment.orElse <| rawTag.orElse <|
  openTag.orElse <| inverseTag.orElse <| closeTag.orElse <| includeTag.orElse <|
  expressionTag.orElse plainText

/-- The next segment with its places. -/
def placed : Recogniser Placed where
  read c := (one.read c).map fun (segment, c') =>
    ({ segment, start := c.position, stop := c'.position }, c')
  note := one.note

/-- The segments of a source as far as it has any, and the cursor after them. -/
def sequence (source : List Char) : List Placed × Cursor :=
  placed.collect (source.length + 1) (.start source)

/-- The attempts noted where no segment fits and the source does not end. -/
def vainAttempts (c : Cursor) : Attempts :=
  ((one.note c .none).fail .endOfInput c.position
    ((one.note c .none).countAt c.position)).fail .template .start 0

end Segment

end BlogTheme.Template
