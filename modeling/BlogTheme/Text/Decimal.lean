/-!
# Whole numbers in decimal

`digits` writes a natural number, `digitsValue` reads digits back, and
`readInt?` reads an optional sign followed by at least one digit, within
bounds that the caller sets.
-/

namespace BlogTheme.Text

/-- The digits `0` to `9`. -/
def isDigit (c : Char) : Bool :=
  '0' ≤ c && c ≤ '9'

/-- What a digit is worth. -/
def digitValue (c : Char) : Nat :=
  c.toNat - '0'.toNat

/-- The number that a run of digits writes. -/
def digitsValue (cs : List Char) : Nat :=
  cs.foldl (fun n c => n * 10 + digitValue c) 0

/-- The decimal digits of `n`, without leading zeros. -/
def digits (n : Nat) : List Char :=
  Nat.toDigits 10 n

/-- The digits of `n`, with zeros in front up to `width` characters. -/
def padded (width n : Nat) : List Char :=
  let ds := digits n
  List.replicate (width - ds.length) '0' ++ ds

/-- An integer in decimal: a minus sign when it is negative, then its digits. -/
def intDigits (n : Int) : List Char :=
  if n < 0 then '-' :: digits n.natAbs else digits n.natAbs

/-- An integer in decimal. -/
def showInt (n : Int) : String :=
  String.ofList (intDigits n)

/-- At least one digit and nothing else. -/
def readDigits? (cs : List Char) : Option Nat :=
  if !cs.isEmpty && cs.all isDigit then some (digitsValue cs) else none

/-- An optional sign and digits, if the number lies between `low` and `high`. -/
def readInt? (low high : Int) (cs : List Char) : Option Int :=
  let value : Option Int := match cs with
    | '-' :: ds => (readDigits? ds).map fun n => -(n : Int)
    | '+' :: ds => (readDigits? ds).map fun n => (n : Int)
    | ds => (readDigits? ds).map fun n => (n : Int)
  value.filter fun n => decide (low ≤ n) && decide (n ≤ high)

/-- The least integer of 64 bits with a sign. -/
def minInt64 : Int := -9223372036854775808

/-- The greatest integer of 64 bits with a sign. -/
def maxInt64 : Int := 9223372036854775807

/-- The greatest whole number of 64 bits without a sign. -/
def maxNat64 : Nat := 18446744073709551615

/-- An integer of 64 bits, with an optional sign. -/
def readInt64? (cs : List Char) : Option Int :=
  readInt? minInt64 maxInt64 cs

/-- A whole number of 64 bits, with an optional plus sign. -/
def readNat64? (cs : List Char) : Option Nat :=
  let value := match cs with
    | '+' :: ds => readDigits? ds
    | ds => readDigits? ds
  value.filter fun n => decide (n ≤ maxNat64)

end BlogTheme.Text
