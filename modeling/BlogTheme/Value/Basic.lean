import BlogTheme.Date.Stamp
import BlogTheme.Request.Basic
import BlogTheme.Text.Blank

/-!
# Values

A value is what a path or a helper yields: nothing, a flag, a number, a text,
markup, a date, one of the things a blog consists of, or a list of them.
-/

namespace BlogTheme

/-- What a path or a helper yields. -/
inductive Value where
  /-- Nothing was found. -/
  | absent
  | bool (b : Bool)
  | int (n : Int)
  /-- A text, escaped where it is written. -/
  | text (s : String)
  /-- Markup, written as it is. -/
  | markup (s : String)
  | date (m : Date.Moment)
  | post (p : Post)
  | tag (t : Tag)
  | author (a : Author)
  | navItem (i : NavItem)
  | pagination (p : Pagination)
  | blog (b : Blog)
  | posts (ps : List Post)
  | tags (ts : List Tag)
  | navigation (is : List NavItem)
  deriving DecidableEq, Repr, Inhabited

namespace Value

/-- The value of something that may be missing. -/
def ofOption (make : α → Value) : Option α → Value
  | some a => make a
  | none => absent

/-- Whether there is no value. -/
def isAbsent : Value → Bool
  | absent => true
  | _ => false

/-- Whether the value is markup. -/
def isMarkup : Value → Bool
  | markup _ => true
  | _ => false

/-- Whether a condition holds for the value. It fails for nothing, `false`,
zero, the empty text and empty lists. -/
def isTruthy : Value → Bool
  | absent => false
  | bool b => b
  | int n => n != 0
  | text s => !s.isEmpty
  | markup s => !s.isEmpty
  | posts ps => !ps.isEmpty
  | tags ts => !ts.isEmpty
  | navigation is => !is.isEmpty
  | _ => true

/-- The text that is written for the value, before it is escaped. -/
def toText : Value → String
  | absent => ""
  | bool b => if b then "true" else "false"
  | int n => Text.showInt n
  | text s => s
  | markup s => s
  | date m => m.text
  | post p => p.title
  | tag t => t.name
  | author a => a.name
  | navItem i => i.label
  | blog b => b.title
  | pagination _ => ""
  | posts _ => ""
  | tags _ => ""
  | navigation _ => ""

/-- The number that the value stands for: a text is read as one, a list counts
its items. -/
def toInt? : Value → Option Int
  | int n => some n
  | bool b => some (if b then 1 else 0)
  | text s => Text.readInt64? (Text.trim s.toList)
  | markup s => Text.readInt64? (Text.trim s.toList)
  | posts ps => some ps.length
  | tags ts => some ts.length
  | navigation is => some is.length
  | _ => none

/-- The items of a list, none for any other value. -/
def items? : Value → Option (List Value)
  | posts ps => some (ps.map post)
  | tags ts => some (ts.map tag)
  | navigation is => some (is.map navItem)
  | _ => none

end Value

end BlogTheme
