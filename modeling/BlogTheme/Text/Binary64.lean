import BlogTheme.Text.Decimal

/-!
# The range of floating point

Floating-point numbers have 53 significant bits and end before the 1024th power
of two. `Binary64.exceeds` tells the decimal numbers that are too large when they
are rounded once, `Binary64.overflows` those that are too large when their leading
digits and their power of ten are rounded apart, and their product again.
-/

namespace BlogTheme.Text.Binary64

/-- Two to the 1024th less half a unit of the last place of the greatest
floating-point number: the least magnitude that has no such number near it. -/
def limit : Nat :=
  Nat.pow 2 1024 - Nat.pow 2 970

/-- Whether `m` times a power of ten lies beyond every floating-point number. -/
def exceeds (m : Nat) (exponent : Int) : Bool :=
  if m = 0 then false
  else if 0 ≤ exponent then 400 < exponent || limit ≤ m * Nat.pow 10 exponent.toNat
  else
    let places := (-exponent).toNat
    if Nat.log2 m + 1 < places then false else limit ≤ m / Nat.pow 10 places

/-- The number with 53 significant bits that is nearest to `n`, the even one of
two that are equally near. -/
def nearest (n : Nat) : Nat :=
  if Nat.log2 n < 53 then n
  else
    let unit := Nat.pow 2 (Nat.log2 n - 52)
    let rest := 2 * (n % unit)
    let up := unit < rest || (rest = unit && n / unit % 2 = 1)
    (n / unit + if up then 1 else 0) * unit

/-- The leading digits of `n`, as many as make a number of 64 bits, and how many
others follow them. -/
def leading (n : Nat) : Nat × Nat :=
  if n ≤ maxNat64 then (n, 0)
  else
    let (lead, others) := leading (n / 10)
    (lead, others + 1)
termination_by n
decreasing_by exact Nat.div_lt_self (by simp_all [maxNat64]; omega) (by decide)

/-- Whether `m` times a power of ten lies beyond every floating-point number when
it is found as the product of the leading digits of `m` and a power of ten, both
rounded before. -/
def overflows (m : Nat) (exponent : Int) : Bool :=
  let (lead, others) := leading m
  let exponent := exponent + others
  if lead = 0 ∨ exponent < 0 then false
  else 308 < exponent || limit ≤ nearest lead * nearest (Nat.pow 10 exponent.toNat)

end BlogTheme.Text.Binary64
