/-!
# Positions in a source text

A position counts the bytes, lines and characters that lie before it. A cursor
is a position together with the text that follows; reading moves it forward
one character at a time.
-/

namespace BlogTheme.Template

/-- A place in a source text. Lines and columns start at 1; a column counts
characters, a byte offset counts bytes of UTF-8. -/
structure Position where
  byte : Nat
  line : Nat
  column : Nat
  deriving DecidableEq, Repr, Inhabited

namespace Position

/-- Where every source starts. -/
def start : Position :=
  { byte := 0, line := 1, column := 1 }

/-- The position after a character. -/
def next (p : Position) (c : Char) : Position :=
  if c = '\n' then { byte := p.byte + c.utf8Size, line := p.line + 1, column := 1 }
  else { byte := p.byte + c.utf8Size, line := p.line, column := p.column + 1 }

/-- The position after a stretch of text. -/
def after (p : Position) (cs : List Char) : Position :=
  cs.foldl next p

end Position

/-- A place in a source text, and the text from there on. -/
structure Cursor where
  rest : List Char
  position : Position
  deriving Repr

namespace Cursor

/-- The cursor at the start of a source. -/
def start (source : List Char) : Cursor :=
  { rest := source, position := .start }

/-- The cursor after `read`, when `rest` is what follows. -/
def advance (c : Cursor) (read rest : List Char) : Cursor :=
  { rest, position := c.position.after read }

/-- Passes over `text`, if it comes next. -/
def literal? (text : List Char) (c : Cursor) : Option Cursor :=
  if text.isPrefixOf c.rest then some (c.advance text (c.rest.drop text.length)) else none

/-- Passes over the characters that satisfy `p`, and gives them. -/
def takeWhile (p : Char → Bool) (c : Cursor) : List Char × Cursor :=
  (c.rest.takeWhile p, c.advance (c.rest.takeWhile p) (c.rest.dropWhile p))

end Cursor

end BlogTheme.Template
