/-!
# Caches

A cache keeps the things that were used last, up to a number of them. Putting a
thing in and looking it up are uses; asking whether it is there is none.
-/

namespace BlogTheme

/-- Things under keys, those used last in front. -/
structure Cache (α : Type) where
  /-- How many things may be kept. -/
  capacity : Nat
  entries : List (String × α)
  deriving Repr

namespace Cache

variable {α : Type}

/-- An empty cache for so many things, but at least one. -/
def ofCapacity (n : Nat) : Cache α :=
  { capacity := max 1 n, entries := [] }

/-- A cache that keeps nothing. -/
def never : Cache α :=
  { capacity := 0, entries := [] }

/-- The entries except that of a key. -/
def without (key : String) (entries : List (String × α)) : List (String × α) :=
  entries.filter fun e => e.1 != key

/-- Puts a thing in under a key. The thing not used for the longest time goes if
there are too many. -/
def set (c : Cache α) (key : String) (a : α) : Cache α :=
  { c with entries := ((key, a) :: without key c.entries).take c.capacity }

/-- The thing under a key, which is thereby used. -/
def get? (c : Cache α) (key : String) : Option α × Cache α :=
  match c.entries.lookup key with
  | none => (none, c)
  | some a => (some a, { c with entries := (key, a) :: without key c.entries })

/-- The thing under a key if it is still fresh. It is used even if it is not. -/
def getFresh? (c : Cache α) (fresh : α → Bool) (key : String) : Option α × Cache α :=
  let (found, c) := c.get? key
  (found.filter fresh, c)

/-- Takes out the thing under a key. -/
def remove (c : Cache α) (key : String) : Cache α :=
  { c with entries := without key c.entries }

/-- Whether there is a thing under a key. -/
def contains (c : Cache α) (key : String) : Bool :=
  (c.entries.lookup key).isSome

/-- Takes out everything. -/
def clear (c : Cache α) : Cache α :=
  { c with entries := [] }

end Cache

end BlogTheme
