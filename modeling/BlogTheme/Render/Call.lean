import BlogTheme.Render.Frame

/-!
# Calls of helpers

A call is a name with its arguments, each with what evaluates it. Whether a
fault of an argument matters is for the helper to decide: one that it does not
ask for does no harm.

Evaluating takes place in any monad that has errors: one with the state of a
rendering when a page is made, `Except` alone when only the value matters.
-/

namespace BlogTheme

open Template (Argument)

/-- An argument as written, and what evaluates it. -/
structure Given (m : Type → Type) where
  written : Argument
  value : m Value

/-- A helper's name and arguments. -/
structure Call (m : Type → Type) where
  name : String
  params : List (Given m) := []
  hash : List (String × Given m) := []

namespace Call

variable {m : Type → Type} [Monad m] [MonadExcept ThemeError m]

/-- The error of a helper that refuses its arguments. -/
def refuse (c : Call m) (message : String) : ThemeError :=
  .helperFailed c.name message

/-- The value of the first argument, nothing if there is none. -/
def first (c : Call m) : m Value :=
  match c.params with
  | [] => pure .absent
  | g :: _ => g.value

/-- The value of the argument with a key. -/
def keyed? (c : Call m) (key : String) : m (Option Value) :=
  match c.hash.lookup key with
  | none => pure none
  | some g => do return some (← g.value)

/-- The text of the argument with a key. -/
def text? (c : Call m) (key : String) : m (Option String) := do
  return (← c.keyed? key).map Value.toText

/-- Whether the argument with a key is set: it is truthy and not the word
`false`. -/
def flag (c : Call m) (key : String) : m Bool := do
  match ← c.keyed? key with
  | some v => return v.isTruthy && v.toText != "false"
  | none => return false

/-- The argument with a key as a number that is not negative. -/
def count? (c : Call m) (key : String) : m (Option Nat) := do
  match ← c.keyed? key with
  | none => return none
  | some v =>
    match v.toInt? with
    | some (.ofNat n) => return some n
    | _ => throw (c.refuse (key ++ "= expects a non-negative number"))

/-- The arguments with keys and their values, unless one has none. -/
def givens (c : Call m) : m (List (String × Value)) :=
  c.hash.mapM fun entry => do return (entry.1, ← entry.2.value)

/-- The first argument as a name, as it is written. -/
def nameArgument (c : Call m) : m String :=
  match c.params with
  | [] => throw (c.refuse "expects a name argument")
  | g :: _ =>
    if g.written.literalText.isEmpty then throw (c.refuse "expects a name argument")
    else pure g.written.literalText

/-- The items that the argument of a loop stands for. -/
def loopItems (c : Call m) : m (List Value) := do
  match c.params with
  | [] => throw (c.refuse "expects a collection")
  | g :: _ =>
    let v ← g.value
    match v.items? with
    | some items => return items
    | none =>
      if v.isAbsent then return []
      else throw (c.refuse ("cannot iterate over '" ++ v.toText ++ "'"))

/-- The items that a loop goes over: at most `limit` of them if the call says
so. -/
def limited (c : Call m) (items : List Value) : m (List Value) := do
  match ← c.count? "limit" with
  | some limit => return items.take limit
  | none => return items

end Call

end BlogTheme
