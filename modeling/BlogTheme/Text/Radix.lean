/-!
# Whole numbers in other bases

Digits beyond nine are the letters from `a` on, large or small.
-/

namespace BlogTheme.Text

/-- What a digit of a base up to 36 is worth. -/
def digitIn? (base : Nat) (c : Char) : Option Nat :=
  let worth : Option Nat :=
    if '0' ≤ c && c ≤ '9' then some (c.toNat - '0'.toNat)
    else if 'a' ≤ c && c ≤ 'z' then some (c.toNat - 'a'.toNat + 10)
    else if 'A' ≤ c && c ≤ 'Z' then some (c.toNat - 'A'.toNat + 10)
    else none
  worth.filter fun n => decide (n < base)

/-- At least one digit of a base and nothing else. -/
def readIn? (base : Nat) (cs : List Char) : Option Nat :=
  if cs.isEmpty then none
  else cs.foldl (fun n c => do return (← n) * base + (← digitIn? base c)) (some 0)

end BlogTheme.Text
