import BlogTheme.Text.Decimal
import Mathlib.Algebra.Group.Nat.Defs

/-!
# Numbers written and read

Reading the decimal digits of a number gives the number back (`digitsValue_digits`), also when there
are zeros in front of them (`digitsValue_padded`), and so does reading an integer of 64 bits
(`readInt64?_intDigits`).
-/

namespace BlogTheme.Text

theorem isDigit_of_mem_digits {n : Nat} {c : Char} (h : c ∈ digits n) : isDigit c :=
  Nat.isDigit_of_mem_toDigits (by decide) (by decide) h

theorem digits_ne_nil (n : Nat) : digits n ≠ [] :=
  Nat.toDigits_ne_nil

theorem isEmpty_digits (n : Nat) : (digits n).isEmpty = false :=
  List.isEmpty_eq_false_iff.2 (digits_ne_nil n)

theorem digitsValue_eq_ofDigitChars (cs : List Char) :
    digitsValue cs = Nat.ofDigitChars 10 cs 0 := by
  unfold digitsValue Nat.ofDigitChars digitValue
  congr 1
  funext n c
  rw [Nat.mul_comm]

theorem digitsValue_digits (n : Nat) : digitsValue (digits n) = n := by
  rw [digitsValue_eq_ofDigitChars]
  exact Nat.ofDigitChars_ten_toDigits

theorem digits_injective : Function.Injective digits :=
  Function.LeftInverse.injective digitsValue_digits

theorem showInt_natCast_injective {m n : Nat} (h : showInt m = showInt n) : m = n := by
  have hdigits (n : Nat) : intDigits n = digits n := if_neg (Int.not_lt.2 (Int.natCast_nonneg n))
  have hchars : intDigits m = intDigits n := String.ofList_injective h
  rw [hdigits, hdigits] at hchars
  exact digits_injective hchars

/-- The first of some digits counts for the most. -/
theorem digitsValue_cons (c : Char) (cs : List Char) :
    digitsValue (c :: cs) = digitValue c * 10 ^ cs.length + digitsValue cs := by
  rw [digitsValue_eq_ofDigitChars, digitsValue_eq_ofDigitChars, Nat.ofDigitChars_cons,
    Nat.ofDigitChars_eq_ofDigitChars_zero, digitValue, Nat.mul_zero, Nat.zero_add, Nat.mul_comm]

theorem digitsValue_lt {ds : List Char} (h : ∀ c ∈ ds, isDigit c) :
    digitsValue ds < 10 ^ ds.length := by
  induction ds with
  | nil => decide
  | cons d ds ih =>
    obtain ⟨hd, hds⟩ := List.forall_mem_cons.1 h
    have hvalue : digitValue d ≤ 9 := by
      simp only [isDigit, Bool.and_eq_true, decide_eq_true_eq] at hd
      have hle : d.toNat ≤ '9'.toNat := hd.2
      exact Nat.sub_le_sub_right hle _
    rw [digitsValue_cons, List.length_cons]
    calc digitValue d * 10 ^ ds.length + digitsValue ds
        < digitValue d * 10 ^ ds.length + 10 ^ ds.length := Nat.add_lt_add_left (ih hds) _
      _ = (digitValue d + 1) * 10 ^ ds.length := (Nat.succ_mul _ _).symm
      _ ≤ 10 * 10 ^ ds.length := Nat.mul_le_mul_right _ (Nat.succ_le_succ hvalue)
      _ = 10 ^ (ds.length + 1) := (Nat.pow_succ').symm

/-- Only the number zero begins with a zero. -/
theorem length_digits_of_head?_zero {n : Nat} (h : (digits n).head? = some '0') :
    (digits n).length = 1 := by
  obtain ⟨ds, hds⟩ : ∃ ds, digits n = '0' :: ds := by
    cases hdigits : digits n with
    | nil => simp [hdigits] at h
    | cons c ds =>
      rw [hdigits, List.head?_cons] at h
      exact ⟨ds, by rw [Option.some.inj h]⟩
  have hrest : ∀ c ∈ ds, isDigit c := fun c hc =>
    isDigit_of_mem_digits (hds ▸ List.mem_cons_of_mem _ hc)
  have hvalue : n = digitsValue ds := by
    rw [← digitsValue_digits n, hds, digitsValue_cons, digitValue]
    simp
  have hlt : n < 10 ^ ds.length := by
    rw [hvalue]
    exact digitsValue_lt hrest
  rcases Nat.eq_zero_or_pos ds.length with hnil | hpos
  · rw [hds, List.length_cons, hnil]
  · have hle : (digits n).length ≤ ds.length :=
      (Nat.length_toDigits_le_iff (by decide) hpos).2 hlt
    rw [hds, List.length_cons] at hle
    omega

/-! ## Zeros in front -/

theorem isDigit_of_mem_padded {width n : Nat} {c : Char} (h : c ∈ padded width n) : isDigit c := by
  obtain h | h := List.mem_append.1 h
  · rw [List.eq_of_mem_replicate h]
    decide
  · exact isDigit_of_mem_digits h

theorem padded_ne_nil (width n : Nat) : padded width n ≠ [] :=
  List.append_ne_nil_of_right_ne_nil _ (digits_ne_nil n)

theorem isEmpty_padded (width n : Nat) : (padded width n).isEmpty = false :=
  List.isEmpty_eq_false_iff.2 (padded_ne_nil width n)

theorem le_length_padded (width n : Nat) : width ≤ (padded width n).length := by
  rw [padded, List.length_append, List.length_replicate]
  omega

theorem length_padded {width n : Nat} (hwidth : 0 < width) (h : n < 10 ^ width) :
    (padded width n).length = width := by
  have hlength : (digits n).length ≤ width :=
    (Nat.length_toDigits_le_iff (by decide) hwidth).2 h
  rw [padded, List.length_append, List.length_replicate]
  omega

/-- Zeros in front do not change the number. -/
theorem digitsValue_padded (width n : Nat) : digitsValue (padded width n) = n := by
  rw [digitsValue_eq_ofDigitChars, padded, Nat.ofDigitChars_append,
    Nat.ofDigitChars_replicate_zero, Nat.mul_zero]
  exact Nat.ofDigitChars_ten_toDigits

/-- A number with as many digits has no zeros in front. -/
theorem padded_of_le {width n : Nat} (hwidth : 0 < width) (h : 10 ^ width ≤ n) :
    padded (width + 1) n = digits n := by
  have hlength : width < (digits n).length :=
    Nat.lt_of_not_le fun hle =>
      Nat.not_lt.2 h ((Nat.length_toDigits_le_iff (by decide) hwidth).1 hle)
  rw [padded, Nat.sub_eq_zero_of_le hlength]
  rfl

/-! ## Reading -/

theorem takeWhile_isDigit_append {ds rest : List Char} (hds : ∀ c ∈ ds, isDigit c)
    (hrest : rest.head?.any isDigit = false) : (ds ++ rest).takeWhile isDigit = ds := by
  have hnone : rest.takeWhile isDigit = [] := by
    cases rest with
    | nil => rfl
    | cons c rest => exact List.takeWhile_cons_of_neg (by simpa using hrest)
  rw [List.takeWhile_append_of_pos hds, hnone, List.append_nil]

theorem dropWhile_isDigit_append {ds rest : List Char} (hds : ∀ c ∈ ds, isDigit c)
    (hrest : rest.head?.any isDigit = false) : (ds ++ rest).dropWhile isDigit = rest := by
  rw [List.dropWhile_append_of_pos hds]
  cases rest with
  | nil => rfl
  | cons c rest => exact List.dropWhile_cons_of_neg (by simpa using hrest)

theorem readDigits?_of_isDigit {ds : List Char} (hne : ds ≠ []) (hds : ds.all isDigit) :
    readDigits? ds = some (digitsValue ds) := by
  simp [readDigits?, hne, hds]

theorem readDigits?_digits (n : Nat) : readDigits? (digits n) = some n := by
  have hall : (digits n).all isDigit = true :=
    List.all_eq_true.2 fun _ hc => isDigit_of_mem_digits hc
  rw [readDigits?_of_isDigit (digits_ne_nil n) hall, digitsValue_digits]

theorem head_digits (n : Nat) : ∃ c ds, digits n = c :: ds ∧ isDigit c := by
  cases h : digits n with
  | nil => exact absurd h (digits_ne_nil n)
  | cons c ds => exact ⟨c, ds, rfl, isDigit_of_mem_digits (by rw [h]; exact List.mem_cons_self)⟩

/-- No sign and no letter stands in front of a number without one. -/
theorem digits_append_ne {c : Char} (h : isDigit c = false) (n : Nat) (rest cs : List Char) :
    digits n ++ rest ≠ c :: cs := by
  intro heq
  obtain ⟨d, ds, hds, hd⟩ := head_digits n
  rw [hds] at heq
  cases heq
  rw [hd] at h
  cases h

/-- An integer begins with a minus sign or a digit. -/
theorem head_intDigits (n : Int) : ∃ c cs, intDigits n = c :: cs ∧ (c = '-' ∨ isDigit c) := by
  by_cases hneg : n < 0
  · exact ⟨'-', digits n.natAbs, if_pos hneg, .inl rfl⟩
  · obtain ⟨c, ds, hds, hc⟩ := head_digits n.natAbs
    exact ⟨c, ds, (if_neg hneg).trans hds, .inr hc⟩

/-- A number between the bounds is read as it was written. -/
theorem readInt?_intDigits {low high n : Int} (hlow : low ≤ n) (hhigh : n ≤ high) :
    readInt? low high (intDigits n) = some n := by
  have hbounds : (some n).filter (fun n => decide (low ≤ n) && decide (n ≤ high)) = some n := by
    simp [Option.filter, hlow, hhigh]
  have hread := readDigits?_digits n.natAbs
  by_cases hneg : n < 0
  · have habs : -(n.natAbs : Int) = n := by omega
    rw [intDigits, if_pos hneg]
    simp only [readInt?, hread]
    exact (congrArg (Option.filter _) (congrArg some habs)).trans hbounds
  · have habs : (n.natAbs : Int) = n := by omega
    obtain ⟨c, ds, hds, hc⟩ := head_digits n.natAbs
    have hsign (m : Char) (hm : isDigit m = false) : c ≠ m := by
      rintro rfl
      rw [hm] at hc
      cases hc
    rw [hds] at hread
    rw [intDigits, if_neg hneg, hds]
    rw [readInt?, hread]
    · exact (congrArg (Option.filter _) (congrArg some habs)).trans hbounds
    · rintro _ ⟨⟩
      exact hsign '-' rfl rfl
    · rintro _ ⟨⟩
      exact hsign '+' rfl rfl

theorem readInt64?_intDigits (n : Int64) : readInt64? (intDigits n.toInt) = some n.toInt :=
  readInt?_intDigits n.minValue_le_toInt (Int.le_of_lt_add_one n.toInt_lt)

end BlogTheme.Text
