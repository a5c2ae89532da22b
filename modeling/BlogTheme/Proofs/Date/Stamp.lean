import BlogTheme.Date.Stamp
import BlogTheme.Proofs.Date.Clock

/-!
# Stamps read back

A date that is read is a day of the calendar with a time of the clock
(`Moment.isDate_of_read?`), and its stamp is read as the same moment (`Moment.IsDate.read?_stamp`):
each reader of the loose form stops where the field that it is to read ends.
-/

namespace BlogTheme.Date

open BlogTheme.Text
open Moment (billion)

/-- The moment is one that a date stands for: a day of the calendar, in a year that dates may have,
and a time of the clock. -/
structure Moment.IsDate (m : Moment) : Prop extends m.OnClock where
  day_exists : m.day.Exists
  in_range : m.InRange

/-! ## Numbers and separators -/

theorem isBlank_of_isDigit {c : Char} (h : isDigit c) : isBlank c = false := by
  simp only [isDigit, Bool.and_eq_true, decide_eq_true_eq, Char.le_def, UInt32.le_iff_toNat_le] at h
  have hbounds : 48 ≤ c.toNat ∧ c.toNat ≤ 57 := h
  simp only [isBlank, Bool.or_eq_false_iff, Bool.and_eq_false_iff, decide_eq_false_iff_not,
    beq_eq_false_iff_ne]
  omega

theorem head_padded (width n : Nat) : ∃ c ds, padded width n = c :: ds ∧ isDigit c := by
  obtain ⟨c, ds, hds⟩ := List.exists_cons_of_ne_nil (padded_ne_nil width n)
  exact ⟨c, ds, hds, isDigit_of_mem_padded (hds ▸ List.mem_cons_self)⟩

theorem trimStart_padded (width n : Nat) (rest : List Char) :
    trimStart (padded width n ++ rest) = padded width n ++ rest := by
  obtain ⟨c, ds, hds, hc⟩ := head_padded width n
  rw [hds, List.cons_append]
  exact List.dropWhile_cons_of_neg (by simp [isBlank_of_isDigit hc])

namespace Loose

theorem number?_padded {width n : Nat} (hwidth : 0 < width) (h : n < 10 ^ width)
    (rest : List Char) : number? width (padded width n ++ rest) = some (n, rest) := by
  have hdigits : ∀ c ∈ padded width n, isDigit c := fun _ hc => isDigit_of_mem_padded hc
  have hlength := length_padded hwidth h
  have htake : ((padded width n ++ rest).takeWhile isDigit).take width = padded width n := by
    rw [List.takeWhile_append_of_pos hdigits, List.take_append_of_le_length hlength.ge,
      List.take_of_length_le hlength.le]
  rw [number?, trimStart_padded]
  simp only [htake, isEmpty_padded, Bool.false_eq_true, if_false, digitsValue_padded,
    List.drop_left']

/-! ## Years and fractions -/

theorem signed?_padded (width n : Nat) {rest : List Char} (hrest : rest.head?.any isDigit = false) :
    year?.signed? (padded width n ++ rest) = some (n, rest) := by
  have hdigits : ∀ c ∈ padded width n, isDigit c := fun _ hc => isDigit_of_mem_padded hc
  rw [year?.signed?, takeWhile_isDigit_append hdigits hrest]
  simp only [isEmpty_padded, Bool.false_eq_true, if_false, digitsValue_padded, List.drop_left']

/-- Without a sign the year is read as a number of four digits. -/
theorem year?_of_isDigit {c : Char} (h : isDigit c) (cs : List Char) :
    year? (c :: cs) = (number? 4 (c :: cs)).map fun (n, cs) => ((n : Int), cs) := by
  have hstart : trimStart (c :: cs) = c :: cs :=
    List.dropWhile_cons_of_neg (by simp [isBlank_of_isDigit h])
  rw [year?, hstart]
  split
  · next heq => cases heq; exact absurd h (by decide)
  · next heq => cases heq; exact absurd h (by decide)
  · rfl

theorem year?_stampYear (year : Int) {rest : List Char} (hrest : rest.head?.any isDigit = false) :
    year? (stampYear year ++ rest) = some (year, rest) := by
  have hsigned := signed?_padded 4 year.natAbs hrest
  unfold stampYear
  split
  · next hfour =>
    obtain ⟨c, ds, hds, hc⟩ := head_padded 4 year.toNat
    have hnumber := number?_padded (by decide) (show year.toNat < 10 ^ 4 by omega) rest
    rw [hds, List.cons_append] at hnumber ⊢
    rw [year?_of_isDigit hc, hnumber]
    exact congrArg (fun y => some (y, rest)) (Int.toNat_of_nonneg hfour.1)
  · split
    · next hneg =>
      have habs : -(year.natAbs : Int) = year := by omega
      show (year?.signed? (padded 4 year.natAbs ++ rest)).map _ = _
      rw [hsigned]
      exact congrArg (fun y => some (y, rest)) habs
    · next hneg =>
      have habs : (year.natAbs : Int) = year := Int.natAbs_of_nonneg (Int.not_lt.1 hneg)
      show (year?.signed? (padded 4 year.natAbs ++ rest)).map _ = _
      rw [hsigned]
      exact congrArg (fun y => some (y, rest)) habs

/-- The digits of a fraction count for as many nanoseconds as their place says. -/
theorem nanoseconds_padded {width n : Nat} (hwidth : 0 < width) (h : n < 10 ^ width)
    (hnine : width ≤ 9) : nanoseconds (padded width n) = n * 10 ^ (9 - width) := by
  have hlength := length_padded hwidth h
  have htake : (padded width n).take 9 = padded width n :=
    List.take_of_length_le (hlength.le.trans hnine)
  rw [nanoseconds, htake, digitsValue_padded, hlength]
  rfl

theorem fraction?_padded {width n : Nat} (hwidth : 0 < width) (h : n < 10 ^ width)
    (hnine : width ≤ 9) (rest : List Char) :
    fraction? ('.' :: padded width n ++ 'Z' :: rest) =
      some (n * 10 ^ (9 - width), 'Z' :: rest) := by
  have hdigits : ∀ c ∈ padded width n, isDigit c := fun _ hc => isDigit_of_mem_padded hc
  have hzone : ('Z' :: rest).head?.any isDigit = false := rfl
  rw [List.cons_append, fraction?]
  simp only [takeWhile_isDigit_append hdigits hzone, dropWhile_isDigit_append hdigits hzone,
    isEmpty_padded, Bool.false_eq_true, if_false, nanoseconds_padded hwidth h hnine]

theorem fraction?_stampFraction {nano : Nat} (h : nano < billion) (rest : List Char) :
    fraction? (stampFraction nano ++ 'Z' :: rest) = some (nano, 'Z' :: rest) := by
  unfold billion at h
  unfold stampFraction
  split
  · next hzero =>
    rw [hzero]
    rfl
  split
  · next hmilli =>
    have hvalue : nano / 1000000 * 10 ^ (9 - 3) = nano :=
      Nat.div_mul_cancel (Nat.dvd_of_mod_eq_zero hmilli)
    rw [fraction?_padded (by decide) (by omega) (by decide), hvalue]
  split
  · next hmicro =>
    have hvalue : nano / 1000 * 10 ^ (9 - 6) = nano :=
      Nat.div_mul_cancel (Nat.dvd_of_mod_eq_zero hmicro)
    rw [fraction?_padded (by decide) (by omega) (by decide), hvalue]
  · rw [fraction?_padded (by decide) (by omega) (by decide), Nat.sub_self, Nat.pow_zero,
      Nat.mul_one]

end Loose

/-! ## Dates -/

namespace Moment

theorem isDate_of_ofFields? {day : Day} {hour minute second nano : Nat} {offset : Int} {m : Moment}
    (h : ofFields? day hour minute second nano offset = some m) (hnano : nano < billion)
    (hoffset : offset % 60 = 0) : m.IsDate := by
  have hclock := onClock_of_ofFields? h hnano hoffset
  unfold ofFields? at h
  obtain ⟨hfields, h⟩ := Option.ite_none_right_eq_some.1 h
  obtain ⟨⟨-, -, hrange⟩, h⟩ := Option.ite_none_right_eq_some.1 h
  cases h
  exact { hclock with day_exists := ofOffset_exists _ _ hfields.1, in_range := hrange }

/-- Dates of requests stand for days and times that there are. -/
theorem isDate_of_read? {text : String} {m : Moment} (h : read? text = some m) : m.IsDate := by
  obtain ⟨_, _, _, _, _, _, hfields, hnano, hoffset⟩ := ofFields?_of_read? h
  exact isDate_of_ofFields? hfields hnano hoffset

/-- No day passes before a second of the day. -/
theorem ofOffset_second {m : Moment} (h : m.second < 86400) :
    ofOffset m.day m.second m.nano = m := by
  have hdays : (m.second : Int) / 86400 = 0 := by omega
  have hsecond : ((m.second : Int) % 86400).toNat = m.second := by omega
  unfold ofOffset
  simp only [hdays, hsecond, le_refl, if_true]
  rfl

variable {m : Moment} {leap : Nat} (hleap : leap = if m.isLeapSecond then 1 else 0)
include hleap

/-! A stamp shows `leap` seconds more, and `leap` billion nanoseconds less, than the moment has. -/

theorem secondOfMinute_add_le : m.secondOfMinute + leap ≤ 60 := by
  have hone : leap ≤ 1 := by
    rw [hleap]
    split <;> decide
  unfold secondOfMinute
  omega

theorem OnClock.nano_sub_lt (h : m.OnClock) : m.nano - leap * billion < billion := by
  have hlt := h.nano_lt
  by_cases hin : m.isLeapSecond
  · rw [hleap, if_pos hin, Nat.one_mul]
    unfold billion at hlt ⊢
    omega
  · have hbelow : ¬billion ≤ m.nano := fun hle => hin (decide_eq_true hle)
    exact Nat.lt_of_le_of_lt (Nat.sub_le _ _) (Nat.lt_of_not_le hbelow)

/-- What the stamp of a date shows makes the date. -/
theorem IsDate.ofFields?_eq (h : m.IsDate) :
    ofFields? m.day m.hour m.minute (m.secondOfMinute + leap) (m.nano - leap * billion) 0 =
      some m := by
  have hsecond := h.second_lt
  have hmoment :
      ofOffset m.day (m.hour * 3600 + m.minute * 60 + m.secondOfMinute - 0) m.nano = m := by
    have htotal : (m.hour * 3600 + m.minute * 60 + m.secondOfMinute - 0 : Int) = m.second := by
      unfold hour minute secondOfMinute
      omega
    rw [htotal, ofOffset_second hsecond]
  have hpair : (if m.secondOfMinute + leap = 60 then (59, m.nano - leap * billion + billion)
      else (m.secondOfMinute + leap, m.nano - leap * billion)) = (m.secondOfMinute, m.nano) := by
    by_cases hin : m.isLeapSecond
    · have hlast : m.secondOfMinute = 59 := h.leap_second hin
      have hbillion : billion ≤ m.nano := of_decide_eq_true hin
      rw [hleap, if_pos hin, hlast, if_pos rfl, Nat.one_mul, Nat.sub_add_cancel hbillion]
    · have hmod : m.secondOfMinute < 60 := Nat.mod_lt _ (by decide)
      rw [hleap, if_neg hin, if_neg (by omega), Nat.zero_mul, Nat.sub_zero, Nat.add_zero]
  have hclock : m.hour < 24 ∧ m.minute < 60 := by
    unfold hour minute
    omega
  unfold ofFields?
  rw [if_pos ⟨h.day_exists, hclock.1, hclock.2, secondOfMinute_add_le hleap, by decide, by decide⟩]
  simp only [hpair, hmoment]
  exact if_pos ⟨h.in_range.1, h.in_range.2, h.in_range⟩

omit hleap in
/-- The stamp of a date is read as the date. -/
theorem IsDate.read?_stamp (h : m.IsDate) : read? m.stamp = some m := by
  obtain ⟨leap, hleap⟩ : ∃ leap : Nat, leap = if m.isLeapSecond then 1 else 0 := ⟨_, rfl⟩
  have hsecond := h.second_lt
  have hmonth := h.day_exists.month_mem
  have hdays := h.day_exists.2.trans (monthLength_le _ _)
  have hlast := secondOfMinute_add_le hleap
  have hyear {cs : List Char} := Loose.year?_stampYear m.day.year
    (show ('-' :: cs).head?.any isDigit = false from rfl)
  have hnumber {n : Nat} (hn : n < 10 ^ 2) := Loose.number?_padded (by decide) hn
  have hhyphen (cs : List Char) : Loose.separator? '-' ('-' :: cs) = some cs := rfl
  have hcolon (cs : List Char) : Loose.separator? ':' (':' :: cs) = some cs := rfl
  have hfraction := Loose.fraction?_stampFraction (h.nano_sub_lt hleap) []
  have hzone : Loose.offset? ['Z'] = some (0, []) := rfl
  rw [read?, stamp, String.toList_ofList, stampChars]
  simp only [← hleap, List.append_assoc, List.cons_append]
  -- Each field is read where it was written.
  refine Option.bind_eq_some_iff.2 ⟨_, hyear, ?_⟩
  refine Option.bind_eq_some_iff.2 ⟨_, hhyphen _, ?_⟩
  refine Option.bind_eq_some_iff.2 ⟨_, hnumber (show m.day.month < 10 ^ 2 by omega) _, ?_⟩
  refine Option.bind_eq_some_iff.2 ⟨_, hhyphen _, ?_⟩
  refine Option.bind_eq_some_iff.2 ⟨_, hnumber (show m.day.day < 10 ^ 2 by omega) _, ?_⟩
  refine Option.bind_eq_some_iff.2 ⟨_, hnumber (show m.hour < 10 ^ 2 by unfold hour; omega) _, ?_⟩
  refine Option.bind_eq_some_iff.2 ⟨_, hcolon _, ?_⟩
  refine Option.bind_eq_some_iff.2
    ⟨_, hnumber (show m.minute < 10 ^ 2 by unfold minute; omega) _, ?_⟩
  refine Option.bind_eq_some_iff.2 ⟨_, hcolon _, ?_⟩
  refine Option.bind_eq_some_iff.2 ⟨_, hnumber (show _ < 10 ^ 2 by omega) _, ?_⟩
  refine Option.bind_eq_some_iff.2 ⟨_, hfraction, ?_⟩
  refine Option.bind_eq_some_iff.2 ⟨_, hzone, ?_⟩
  exact h.ofFields?_eq hleap

end Moment

end BlogTheme.Date
