import BlogTheme.Value.Field

/-!
# Scopes

A block that speaks about something opens a scope: its subject, the values
given with the block, and, in a loop, the place of the subject among the items.
-/

namespace BlogTheme

/-- The place of an item in a loop. -/
structure Iteration where
  /-- Counts from 0. -/
  index : Nat
  /-- The number of items. -/
  length : Nat
  deriving DecidableEq, Repr, Inhabited

namespace Iteration

/-- Whether the item is the first. -/
def isFirst (i : Iteration) : Bool :=
  i.index == 0

/-- Whether the item is the last. -/
def isLast (i : Iteration) : Bool :=
  i.index + 1 == i.length

/-- Whether the index is even. -/
def isEven (i : Iteration) : Bool :=
  i.index % 2 == 0

/-- Whether the index is odd. -/
def isOdd (i : Iteration) : Bool :=
  !i.isEven

/-- A count as a value: integers have 64 bits and a sign, and the least of them
follows the greatest. -/
def count (n : Nat) : Value :=
  .int (Int64.ofNat n).toInt

/-- What a name such as `@index` stands for in a loop. -/
def pseudo? (i : Iteration) (name : String) : Option Value :=
  match name with
  | "@index" => some (count i.index)
  | "@number" => some (count (i.index + 1))
  | "@first" => some (.bool i.isFirst)
  | "@last" => some (.bool i.isLast)
  | "@even" => some (.bool i.isEven)
  | "@odd" => some (.bool i.isOdd)
  | _ => none

end Iteration

/-- What a block speaks about. -/
structure Scope where
  /-- What `this` stands for. -/
  subject : Value
  /-- The values given with the block. -/
  hash : List (String × Value) := []
  /-- The place of the subject in a loop, if the scope belongs to one. -/
  iteration : Option Iteration := none
  deriving DecidableEq, Repr, Inhabited

namespace Scope

/-- The scopes of a loop, one for each item. -/
def loop (hash : List (String × Value)) (items : List Value) : List Scope :=
  items.zipIdx.map fun (subject, index) =>
    { subject, hash, iteration := some { index, length := items.length } }

/-- The value given with the block under a key. -/
def given (s : Scope) (key : String) : Value :=
  (s.hash.lookup key).getD .absent

/-- What a name stands for in a scope. Names with `@` tell the place in the
loop; `this` is the subject; any other name is a field of the subject or, if it has
no such field, a value given with the block. -/
def lookup (s : Scope) (name : String) : Value :=
  if name.toList.head? = some '@' then
    ((s.iteration.bind fun i => i.pseudo? name)).getD .absent
  else if name = "this" then s.subject
  else
    let field := s.subject.field name
    if field.isAbsent then s.given name else field

end Scope

end BlogTheme
