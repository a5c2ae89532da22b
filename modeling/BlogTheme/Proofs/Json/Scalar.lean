import BlogTheme.Json.Reader
import BlogTheme.Json.Writer
import BlogTheme.Proofs.Text.Decimal
import Mathlib.Tactic.IntervalCases

/-!
# Strings and numbers of documents

What is written for a string is read as the string (`stringFrom_writeString`). The digits of a
number, alone or with an exponent, are read as the number where the text behind does not go on with
it (`magnitude_integer`, `magnitude_real`).
-/

namespace BlogTheme.Json

open BlogTheme.Text

/-! ## Strings -/

/-- A control character is written as an escape of four digits. -/
theorem hex4_control {c : Char} (h : c.toNat < 0x20) (rest : List Char) :
    hex4 (List.replicate (4 - (Nat.toDigits 16 c.toNat).length) '0' ++ Nat.toDigits 16 c.toNat ++
      rest) = .ok (c.toNat, rest) := by
  have hdigits : ∀ n < 0x20, ∃ d e,
      List.replicate (4 - (Nat.toDigits 16 n).length) '0' ++ Nat.toDigits 16 n =
        ['0', '0', d, e] ∧ readIn? 16 ['0', '0', d, e] = some n := by
    intro n hn
    interval_cases n <;> exact ⟨_, _, rfl, rfl⟩
  obtain ⟨d, e, hwritten, hread⟩ := hdigits _ h
  rw [hwritten]
  simp only [List.cons_append, List.nil_append, hex4, hread]

/-- A character is read from what is written for it. -/
theorem stringFrom_writeChar (c : Char) (fuel : Nat) (seen cs : List Char) :
    stringFrom (fuel + 1) seen true (writeChar c ++ cs) = stringFrom fuel (c :: seen) true cs := by
  unfold writeChar
  split
  · next h =>
    rw [h]
    rfl
  split
  · next h =>
    rw [h]
    rfl
  split
  · next h =>
    rw [h]
    rfl
  split
  · next h =>
    have hescape : escape ('u' :: (List.replicate (4 - (Nat.toDigits 16 c.toNat).length) '0' ++
        Nat.toDigits 16 c.toNat ++ cs)) = .ok (some c, cs) := by
      rw [escape]
      simp only [bind, Except.bind, hex4_control h]
      rw [if_pos (Or.inl (by omega)), Char.ofNat_toNat]
      rfl
    simp only [List.cons_append, List.nil_append, List.append_assoc] at hescape ⊢
    simp only [stringFrom, hescape]
  · next hquote hback hline hcontrol =>
    rw [List.singleton_append, stringFrom, if_neg hcontrol]
    · exact hquote
    · exact hback

/-- The characters between two quotes are read up to the second one. -/
theorem stringFrom_text (s cs : List Char) {fuel : Nat} (hfuel : s.length < fuel)
    (seen : List Char) :
    stringFrom fuel seen true (s.flatMap writeChar ++ '"' :: cs) =
      .ok (some (String.ofList (seen.reverse ++ s)), cs) := by
  induction s generalizing fuel seen with
  | nil =>
    obtain ⟨fuel, rfl⟩ := Nat.exists_eq_add_of_lt hfuel
    simp [stringFrom]
  | cons c s ih =>
    obtain ⟨fuel, rfl⟩ := Nat.exists_eq_add_of_lt hfuel
    rw [List.flatMap_cons, List.append_assoc, stringFrom_writeChar, ih (by simp; omega)]
    simp

theorem length_le_text (s : List Char) : s.length ≤ (s.flatMap writeChar).length := by
  have hchar (c : Char) : 1 ≤ (writeChar c).length := by
    unfold writeChar
    split_ifs <;> simp
  induction s with
  | nil => exact Nat.le_refl _
  | cons c s ih =>
    have hc := hchar c
    rw [List.flatMap_cons, List.length_append, List.length_cons]
    omega

/-- A string is read after its opening quote. -/
theorem stringFrom_writeString (s : String) (rest : List Char) :
    stringFrom ((s.toList.flatMap writeChar ++ '"' :: rest).length + 1) [] true
      (s.toList.flatMap writeChar ++ '"' :: rest) = .ok (some s, rest) := by
  have hfuel : s.toList.length < (s.toList.flatMap writeChar ++ '"' :: rest).length + 1 := by
    have hlength := length_le_text s.toList
    rw [List.length_append]
    omega
  rw [stringFrom_text s.toList rest hfuel, List.reverse_nil, List.nil_append,
    String.ofList_toList]

/-! ## Numbers -/

theorem exponent_intDigits (e : Int) {rest : List Char} (hrest : rest.head?.any isDigit = false) :
    exponent (intDigits e ++ rest) = .ok (e, rest) := by
  have hdigits : ∀ c ∈ digits e.natAbs, isDigit c := fun _ hc => isDigit_of_mem_digits hc
  have htake := takeWhile_isDigit_append hdigits hrest
  have hdrop := dropWhile_isDigit_append hdigits hrest
  by_cases hneg : e < 0
  · have habs : -(e.natAbs : Int) = e := by omega
    rw [intDigits, if_pos hneg, List.cons_append]
    simp only [exponent, List.head?_cons, beq_self_eq_true, if_true, htake, hdrop, isEmpty_digits,
      Bool.false_eq_true, if_false, digitsValue_digits, habs]
  · have habs : (e.natAbs : Int) = e := by omega
    have hsign : ((digits e.natAbs ++ rest).head? == some '-') = false := by
      obtain ⟨c, ds, hds, hc⟩ := head_digits e.natAbs
      have hminus : c ≠ '-' := fun heq => by simp [heq, isDigit] at hc
      rw [hds]
      simpa using hminus
    rw [intDigits, if_neg hneg, exponent]
    · simp only [hsign, htake, hdrop, isEmpty_digits, Bool.false_eq_true, if_false,
        digitsValue_digits, habs]
    · exact digits_append_ne (by decide) _ _
    · exact digits_append_ne (by decide) _ _

/-- The text ends a number in front of it: it begins with no digit, no point and no exponent. -/
def EndsNumber (rest : List Char) : Prop :=
  ∀ c ∈ rest.head?, isDigit c = false ∧ c ≠ '.' ∧ c ≠ 'e' ∧ c ≠ 'E'

theorem EndsNumber.head?_any {rest : List Char} (h : EndsNumber rest) :
    rest.head?.any isDigit = false := by
  cases rest with
  | nil => rfl
  | cons c rest => exact (h c rfl).1

section

variable {negative : Bool} {n : Nat} {rest : List Char}

theorem magnitude_integer (hneg : negative → n ≠ 0) (hrest : EndsNumber rest) :
    magnitude negative (digits n ++ rest) =
      .ok (.integer (if negative then -(n : Int) else n), rest) := by
  have hdigits : ∀ c ∈ digits n, isDigit c := fun _ hc => isDigit_of_mem_digits hc
  have htake := takeWhile_isDigit_append hdigits hrest.head?_any
  have hdrop := dropWhile_isDigit_append hdigits hrest.head?_any
  have hzero : ¬((digits n).head? = some '0' ∧ (digits n).length ≠ 1) :=
    fun h => h.2 (length_digits_of_head?_zero h.1)
  have hsign : ¬(negative = true ∧ n = 0) := fun h => hneg h.1 h.2
  unfold magnitude
  simp only [htake, hdrop, isEmpty_digits, hzero, bind, Except.bind, pure, Except.pure,
    Bool.false_eq_true, if_false]
  cases rest with
  | nil => simp only [List.append_nil, digitsValue_digits, hsign, if_false]
  | cons c rest =>
    obtain ⟨-, hpoint, hsmall, hlarge⟩ := hrest c rfl
    split
    · next heq => exact absurd (List.cons.inj heq).1 hpoint
    split
    · next heq => exact absurd (List.cons.inj heq).1 hsmall
    · next heq => exact absurd (List.cons.inj heq).1 hlarge
    · simp only [List.append_nil, digitsValue_digits, hsign, if_false]

theorem magnitude_real (e : Int) (hrest : EndsNumber rest) :
    magnitude negative (digits n ++ 'e' :: (intDigits e ++ rest)) =
      .ok (.real (if negative then -(n : Int) else n) e, rest) := by
  have hdigits : ∀ c ∈ digits n, isDigit c := fun _ hc => isDigit_of_mem_digits hc
  have hletter : ('e' :: (intDigits e ++ rest)).head?.any isDigit = false := rfl
  have htake := takeWhile_isDigit_append hdigits hletter
  have hdrop := dropWhile_isDigit_append hdigits hletter
  have hzero : ¬((digits n).head? = some '0' ∧ (digits n).length ≠ 1) :=
    fun h => h.2 (length_digits_of_head?_zero h.1)
  unfold magnitude
  simp only [htake, hdrop, isEmpty_digits, hzero, bind, Except.bind, pure, Except.pure,
    Bool.false_eq_true, if_false]
  split
  · next heq => exact absurd (List.cons.inj heq).1 (by decide)
  split
  · next heq =>
    cases heq
    simp only [exponent_intDigits e hrest.head?_any, List.append_nil, digitsValue_digits,
      List.length_nil, Int.natCast_zero, Int.neg_zero, Int.add_zero]
  · next heq => exact absurd (List.cons.inj heq).1 (by decide)
  · next h _ => exact absurd rfl (h _)

end

end BlogTheme.Json
