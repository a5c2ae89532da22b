import BlogTheme.Json.Decode

/-!
# Writing and reading data as JSON documents

A codec writes the values of a type as documents and reads them back.
`Codec.record` makes the codec of a structure from the list of its fields.
-/

namespace BlogTheme.Json

/-- How the values of a type are written as documents and read from them. -/
structure Codec (α : Type) where
  encode : α → Json
  decode : Decoder α

namespace Codec

/-- Strings. -/
def string : Codec String :=
  { encode := ofString, decode := Decode.string }

/-- Truth values. -/
def bool : Codec Bool :=
  { encode := .bool, decode := Decode.bool }

/-- Integers of 64 bits with a sign. -/
def int64 : Codec Int64 :=
  { encode := fun n => ofInt n.toInt, decode := Decode.int64 }

/-- Whole numbers of 32 bits. -/
def uint32 : Codec UInt32 :=
  { encode := fun n => ofInt n.toNat, decode := Decode.uint32 }

/-- Values that may be missing, `null` when they are. -/
def option (c : Codec α) : Codec (Option α) :=
  { encode := ofOption c.encode, decode := Decode.option c.decode }

/-- Lists, as arrays. -/
def list (c : Codec α) : Codec (List α) :=
  { encode := fun as => ofList (as.map c.encode), decode := Decode.list c.decode }

/-- A field of a structure whose values `c` writes and reads. -/
def field (c : Codec α) (name : String) (get : σ → α) (put : α → σ → σ) : Member σ :=
  { name
    get := fun s => c.encode (get s)
    set := fun j s => (c.decode j).map fun a => put a s }

/-- A structure with these fields. Missing ones keep the values that they have
in `start`. -/
def record (fields : List (Member σ)) (start : σ) : Codec σ :=
  { encode := Record.write fields, decode := Record.read fields start }

end Codec

end BlogTheme.Json
