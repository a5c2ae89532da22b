import BlogTheme.Text.Binary64

/-!
# JSON documents

A document is held as far as it could be read: where its text stops being JSON,
the tree has a break, and nothing after it. A reader that asks for values in
the order of the text so meets the first fault of either kind, of the text or of the
data, in that order.

A break says what was being read, and what is reported by a reader that needs
the value there and by one that passes over it.
-/

namespace BlogTheme

namespace Json

/-- How a text fails to be JSON: something is wrong in it, or it ends too
early. -/
inductive Fault where
  | malformed
  | ended
  deriving DecidableEq, Repr

/-- What stood where the text broke off: nothing that could start a value, a
comma after the last member of an object, a word such as `true`, a number or a
string. -/
inductive Piece where
  | nothing
  | comma
  | word
  | number
  | string
  deriving DecidableEq, Repr

/-- A place where a text stops being JSON. -/
structure Break where
  piece : Piece
  /-- The fault for a reader that needs the value. -/
  read : Fault
  /-- The fault for a reader that passes over it. -/
  skip : Fault
  deriving DecidableEq, Repr

/-- A break that every reader reports alike. -/
def Break.at (fault : Fault) : Break :=
  { piece := .nothing, read := fault, skip := fault }

/-- A number: an integer written without point and exponent, or any other, as
`mantissa` times a power of ten. Minus zero counts as one of the others. -/
inductive Number where
  | integer (n : Int)
  | real (mantissa exponent : Int)
  deriving DecidableEq, Repr

end Json

open Json in
/-- A JSON document, as far as its text could be read. -/
inductive Json where
  | null
  | bool (b : Bool)
  | number (n : Number)
  /-- A string, without value when it holds half of a surrogate pair. -/
  | string (s : Option String)
  /-- The items of an array, and how it breaks off between items if it does. -/
  | array (items : List Json) (cut : Option Break)
  /-- The members of an object, and how it breaks off between members if it does. -/
  | object (members : List (Option String × Json)) (cut : Option Break)
  /-- A value at which the text breaks off. -/
  | broken (b : Break)
  deriving Inhabited

namespace Json

/-- A string as a document. -/
def ofString (s : String) : Json :=
  .string (some s)

/-- An integer as a document. -/
def ofInt (n : Int) : Json :=
  .number (.integer n)

/-- An array of documents. -/
def ofList (items : List Json) : Json :=
  .array items none

/-- An object with these members, in this order. -/
def ofMembers (members : List (String × Json)) : Json :=
  .object (members.map fun (key, value) => (some key, value)) none

/-- A value that may be missing, `null` when it is. -/
def ofOption (f : α → Json) : Option α → Json
  | some a => f a
  | none => .null

/-- The value of the last member called `key`. -/
def member? (j : Json) (key : String) : Option Json :=
  match j with
  | .object members _ => members.reverse.lookup (some key)
  | _ => none

/-- Whether a number is too large for floating point as it is rounded here. -/
def Number.isHuge : Number → Bool
  | .integer n => Text.Binary64.overflows n.natAbs 0
  | .real mantissa exponent => Text.Binary64.overflows mantissa.natAbs exponent

end Json

end BlogTheme
