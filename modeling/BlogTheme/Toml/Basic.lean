/-!
# TOML documents

A document is a table: keys with values, in the order in which they were first
named. A table remembers how it came about, because that decides where it may still
be added to.
-/

namespace BlogTheme.Toml

/-- How a table came about. -/
inductive Origin where
  /-- A header names it. -/
  | header
  /-- A header names a table inside it. -/
  | parent
  /-- A dotted key leads through it. -/
  | dotted
  /-- It is written in braces. -/
  | braces
  deriving DecidableEq, Repr

/-- A value of a document. The numbers with a point or exponent, and the dates and
times, are held without what they say. -/
inductive Value where
  | string (s : String)
  | integer (n : Int)
  | boolean (b : Bool)
  | float
  | moment
  | array (items : List Value)
  | table (origin : Origin) (entries : List (String × Value))
  /-- The tables of one header in double brackets. -/
  | tables (items : List (List (String × Value)))
  deriving Inhabited

/-- Keys with their values. -/
abbrev Entries := List (String × Value)

namespace Entries

/-- The value of a key. -/
def get? (entries : Entries) (key : String) : Option Value :=
  entries.lookup key

/-- Gives a key a value, in place of the one that it has. -/
def set : (entries : Entries) → (key : String) → (value : Value) → Entries
  | [], key, value => [(key, value)]
  | (k, v) :: entries, key, value =>
    if k = key then (k, value) :: entries else (k, v) :: set entries key value

/-- Gives a dotted key a value. The tables that the key leads through may come
from headers for tables inside them or from dotted keys, the innermost from dotted
keys only; the key itself must be new. -/
def assign (entries : Entries) (path : List String) (value : Value) : Option Entries :=
  match path with
  | [] => none
  | [key] =>
    match entries.get? key with
    | none => some (entries.set key value)
    | some _ => none
  | key :: next :: path => do
    match entries.get? key with
    | none =>
      let inner ← assign [] (next :: path) value
      return entries.set key (.table .dotted inner)
    | some (.table .dotted inner) =>
      let inner ← assign inner (next :: path) value
      return entries.set key (.table .dotted inner)
    | some (.table .parent inner) =>
      if path.isEmpty then none
      let inner ← assign inner (next :: path) value
      return entries.set key (.table .parent inner)
    | some (.tables items) =>
      if path.isEmpty then none
      let last ← items.getLast?
      let inner ← assign last (next :: path) value
      return entries.set key (.tables (items.dropLast ++ [inner]))
    | some _ => none

/-- Changes the table that a header's path leads to. Tables that are missing on the way
are added; of the tables of a header in double brackets, the last is meant. -/
def within (entries : Entries) (path : List String) (change : Entries → Option Entries) :
    Option Entries :=
  match path with
  | [] => change entries
  | key :: path =>
    match entries.get? key with
    | none => do
      let inner ← within [] path change
      return entries.set key (.table .parent inner)
    | some (.table .braces _) => none
    | some (.table origin inner) => do
      let inner ← within inner path change
      return entries.set key (.table origin inner)
    | some (.tables items) => do
      let last ← items.getLast?
      let inner ← within last path change
      return entries.set key (.tables (items.dropLast ++ [inner]))
    | some _ => none

/-- Opens the table of a header, which no header or dotted key may have opened
before. -/
def openTable (entries : Entries) (key : String) : Option Entries :=
  match entries.get? key with
  | none => some (entries.set key (.table .header []))
  | some (.table .parent inner) => some (entries.set key (.table .header inner))
  | some _ => none

/-- Opens one more of the tables of a header in double brackets. -/
def openNext (entries : Entries) (key : String) : Option Entries :=
  match entries.get? key with
  | none => some (entries.set key (.tables [[]]))
  | some (.tables items) => some (entries.set key (.tables (items ++ [[]])))
  | some _ => none

end Entries

end BlogTheme.Toml
