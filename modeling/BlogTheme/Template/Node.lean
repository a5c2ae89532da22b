/-!
# Template trees

A template is a list of nodes: text, expressions, and blocks with a body and an
optional inverse. An expression or block invokes a name with arguments;
including a partial and extending a layout are expressions that invoke `>` and
`!<`.
-/

namespace BlogTheme.Template

/-- Where a tag stands in its source: from byte `start` up to byte `stop`, on
this line and column. -/
structure Span where
  start : Nat
  stop : Nat
  line : Nat
  column : Nat
  deriving DecidableEq, Repr, Inhabited

/-- An argument as written: a path, a string, a number or a truth value. -/
inductive Argument where
  | path (path : String)
  | string (value : String)
  | number (value : Int64)
  | boolean (value : Bool)
  deriving DecidableEq, Repr, Inhabited

/-- The text of an argument that is meant as a name. -/
def Argument.literalText : Argument → String
  | path p => p
  | string s => s
  | number n => toString n.toInt
  | boolean b => if b then "true" else "false"

/-- A name with its arguments: the positional ones in order, then those with a
key, and the place of the tag. -/
structure Invocation where
  name : String
  params : List Argument
  hash : List (String × Argument)
  span : Span
  deriving DecidableEq, Repr, Inhabited

namespace Invocation

/-- Adds a positional argument. -/
def addParam (i : Invocation) (a : Argument) : Invocation :=
  { i with params := i.params ++ [a] }

/-- Adds an argument with a key, in place of any earlier one with that key. -/
def addHash (i : Invocation) (key : String) (a : Argument) : Invocation :=
  { i with hash := i.hash.filter (fun entry => entry.1 != key) ++ [(key, a)] }

/-- The argument with a given key. -/
def hashValue? (i : Invocation) (key : String) : Option Argument :=
  i.hash.lookup key

end Invocation

/-- A node of a template. -/
inductive Node where
  /-- Text, copied as it stands. -/
  | text (content : String)
  /-- An invocation whose value is written, escaped unless it stands between
  three braces. -/
  | expression (invocation : Invocation) (escaped : Bool)
  /-- An invocation with a body, and an inverse if one was written. -/
  | block (invocation : Invocation) (body : List Node) (inverse : Option (List Node))
  deriving Repr, Inhabited

/-- The invocation of a node, if it has one. -/
def Node.invocation? : Node → Option Invocation
  | text _ => none
  | expression i _ => some i
  | block i _ _ => some i

/-- The name under which partials are included. -/
def includeName : String := ">"

/-- The name under which layouts are extended. -/
def extendsName : String := "!<"

end BlogTheme.Template

namespace BlogTheme

/-- A named tree. -/
structure Template where
  name : String
  body : List Template.Node
  deriving Repr, Inhabited

end BlogTheme
