import BlogTheme.Json.Basic

/-!
# Reading data from JSON documents

A decoder takes a document and gives a value or the reason of refusal. It
visits the document in the order of its text, so the refusal names the first
thing that is wrong, in the text or in the data.

`Record.read` reads a structure with named fields, each of which may be
missing: from an object, where unknown members are passed over and no known one may
come twice, or from an array with the values of the fields in order.
-/

namespace BlogTheme.Json

/-- Why a document is refused: its text is malformed, ends too early, or its
data do not fit. -/
inductive Refusal where
  | malformed
  | ended
  | unfit
  deriving DecidableEq, Repr

/-- A fault of the text as a refusal. -/
def Fault.refusal : Fault → Refusal
  | .malformed => .malformed
  | .ended => .ended

/-- A decoder of values of type `α`. -/
abbrev Decoder (α : Type) := Json → Except Refusal α

mutual

/-- The fault that a reader meets when it passes over a document. -/
def skipFault? : Json → Option Fault
  | .array items cut => (skipItems? items).or (cut.map Break.skip)
  | .object members cut => (skipMembers? members).or (cut.map Break.skip)
  | .broken b => some b.skip
  | _ => none

@[inherit_doc skipFault?]
def skipItems? : List Json → Option Fault
  | [] => none
  | item :: items => (skipFault? item).or (skipItems? items)

@[inherit_doc skipFault?]
def skipMembers? : List (Option String × Json) → Option Fault
  | [] => none
  | (_, value) :: members => (skipFault? value).or (skipMembers? members)

end

/-- The fault in the text of a value that is of the wrong kind. -/
def ownFault? : Json → Option Fault
  | .number n => if n.isHuge then some .malformed else none
  | .string none => some .malformed
  | .broken b => some b.read
  | _ => none

/-- The refusal of a value of the wrong kind. -/
def mismatch (j : Json) : Refusal :=
  (j.ownFault?.map Fault.refusal).getD .unfit

namespace Decode

/-- A string. -/
def string : Decoder String
  | .string (some s) => .ok s
  | j => .error j.mismatch

/-- `true` or `false`. -/
def bool : Decoder Bool
  | .bool b => .ok b
  | j => .error j.mismatch

/-- An integer between two bounds, written without point and exponent. -/
def integer (low high : Int) : Decoder Int
  | .number (.integer n) =>
    if low ≤ n ∧ n ≤ high then .ok n else .error (mismatch (.number (.integer n)))
  | j => .error j.mismatch

/-- An integer of 64 bits with a sign. -/
def int64 : Decoder Int64 := fun j =>
  (integer Int64.minValue.toInt Int64.maxValue.toInt j).map Int64.ofInt

/-- A whole number of 32 bits. -/
def uint32 : Decoder UInt32 := fun j =>
  (integer 0 4294967295 j).map fun n => UInt32.ofNat n.toNat

/-- A value that `null` leaves out. -/
def option (decode : Decoder α) : Decoder (Option α)
  | .null => .ok none
  | j => (decode j).map some

/-- The items of an array, in order. -/
def items (decode : Decoder α) : List Json → Except Refusal (List α)
  | [] => .ok []
  | item :: rest => do
    let a ← decode item
    let as ← items decode rest
    return a :: as

/-- An array. -/
def list (decode : Decoder α) : Decoder (List α)
  | .array js cut => do
    let as ← items decode js
    match cut with
    | none => return as
    | some b => throw b.read.refusal
  | j => .error j.mismatch

/-- One of several words, or an object whose only member has the word for its
key and `null` for its value. A comma after the member is a fault of the text. -/
def word (meaning : String → Option α) : Decoder α
  | .string (some s) =>
    match meaning s with
    | some a => .ok a
    | none => .error .unfit
  | .string none => .error .malformed
  | .object ((key, value) :: members) cut =>
    match key with
    | none => .error .malformed
    | some key =>
      match meaning key with
      | none => .error .unfit
      | some a =>
        match value, members, cut with
        | .null, [], none => .ok a
        | .null, [], some b => .error (if b = .at .ended then .ended else .malformed)
        | .null, _ :: _, _ => .error .malformed
        | j, _, _ => .error j.mismatch
  | .object [] (some b) => .error b.read.refusal
  | .broken b =>
    match b.piece with
    | .word | .number => .error .malformed
    | _ => .error b.read.refusal
  | _ => .error .malformed

end Decode

/-- A member of the objects that stand for a structure: the name of a field, the
document of its value, and how a document sets it. -/
structure Member (σ : Type) where
  name : String
  get : σ → Json
  set : Json → σ → Except Refusal σ

namespace Record

/-- A structure as an object with all its fields, in order. -/
def write (fields : List (Member σ)) (s : σ) : Json :=
  ofMembers (fields.map fun f => (f.name, f.get s))

/-- Reads the members of an object, `seen` being the names already read. -/
def readMembers (fields : List (Member σ)) (seen : List String) (s : σ) :
    List (Option String × Json) → Except Refusal σ
  | [] => .ok s
  | (none, _) :: _ => .error .malformed
  | (some key, value) :: members =>
    match fields.find? (·.name == key) with
    | none =>
      match value.skipFault? with
      | some fault => .error fault.refusal
      | none => readMembers fields seen s members
    | some field =>
      if seen.contains key then .error .unfit
      else do
        let s ← field.set value s
        readMembers fields (key :: seen) s members

/-- Reads the items of an array into the fields in order; what is left of the
array comes with the result. -/
def readItems : List (Member σ) → σ → List Json → Except Refusal (σ × List Json)
  | field :: fields, s, item :: items => do
    let s ← field.set item s
    readItems fields s items
  | _, s, items => .ok (s, items)

/-- Reads a structure, starting from the values that missing fields have. -/
def read (fields : List (Member σ)) (start : σ) : Decoder σ
  | .object members cut => do
    let s ← readMembers fields [] start members
    match cut with
    | none => return s
    | some b => throw b.read.refusal
  | .array items cut => do
    let (s, surplus) ← readItems fields start items
    if !surplus.isEmpty then throw .malformed
    match cut with
    | none => return s
    | some b => throw b.read.refusal
  | j => .error j.mismatch

end Record

end BlogTheme.Json
