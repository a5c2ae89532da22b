import BlogTheme.Date.Reading
import BlogTheme.Proofs.Date.Calendar
import BlogTheme.Proofs.Text.Decimal
import Mathlib.Data.String.Basic

/-!
# Reading what a clock shows

A `WallTime` is a day that exists with a time of day, an `Offset` is less than a day. Read in the
fixed form, a wall time with an offset is the moment as many seconds before it, or after it to the
west of Greenwich (`WallTime.readStrict_text`).
-/

namespace BlogTheme.Date

open BlogTheme.Text

/-! ## Numbers of fixed width -/

namespace Strict

theorem number_append {ds : List Char} (h : ∀ c ∈ ds, isDigit c) (rest : List Char) :
    number ds.length (ds ++ rest) = .ok (digitsValue ds, rest) := by
  induction ds with
  | nil => rfl
  | cons d ds ih =>
    obtain ⟨hd, hds⟩ := List.forall_mem_cons.1 h
    rw [List.length_cons, List.cons_append, number, digit, if_pos hd]
    simp only [bind, Except.bind, ih hds, digitsValue_cons]
    rfl

theorem number_padded {width n : Nat} (hwidth : 0 < width) (h : n < 10 ^ width)
    (rest : List Char) : number width (padded width n ++ rest) = .ok (n, rest) := by
  have hdigits : ∀ c ∈ padded width n, isDigit c := fun _ hc => isDigit_of_mem_padded hc
  have hread := number_append hdigits rest
  rwa [length_padded hwidth h, digitsValue_padded] at hread

theorem pair_padded {n : Nat} (h : n < 10 ^ 2) (rest : List Char) :
    pair (padded 2 n ++ rest) = .ok (n, rest) := by
  obtain ⟨a, b, hab⟩ := List.length_eq_two.1 (length_padded (by decide) h)
  have hdigits : ∀ c ∈ [a, b], isDigit c := fun c hc => isDigit_of_mem_padded (hab ▸ hc)
  have hvalue : digitValue a * 10 + digitValue b = n := by
    rw [← digitsValue_padded 2 n, hab, digitsValue_cons, digitsValue_cons]
    simp [digitsValue]
  rw [hab, List.cons_append, List.cons_append, List.nil_append, pair, hdigits a (by simp),
    hdigits b (by simp), Bool.and_self, if_pos rfl, hvalue]

/-- No fraction of a second is read where an offset stands. -/
theorem fraction_of_offset {zone : List Char} {seconds : Int}
    (h : offset zone = .ok (seconds, [])) : fraction zone = .ok (0, zone) := by
  unfold fraction
  split
  · simp [offset] at h
  · rfl

end Strict

/-! ## Offsets and wall times -/

/-- An offset from Greenwich of less than a day, to the east or to the west. -/
structure Offset where
  east : Bool
  hours : Nat
  minutes : Nat
  hours_lt : hours < 24
  minutes_lt : minutes < 60

namespace Offset

def seconds (o : Offset) : Int :=
  if o.east then o.hours * 3600 + o.minutes * 60 else -(o.hours * 3600 + o.minutes * 60)

/-- An offset as it stands behind a date: `+05:30`. -/
def chars (o : Offset) : List Char :=
  (if o.east then '+' else '-') :: (padded 2 o.hours ++ ':' :: padded 2 o.minutes)

theorem seconds_bounds (o : Offset) : -86400 < o.seconds ∧ o.seconds < 86400 := by
  have hhours := o.hours_lt
  have hminutes := o.minutes_lt
  unfold seconds
  split <;> omega

theorem offset_chars (o : Offset) : Strict.offset o.chars = .ok (o.seconds, []) := by
  have hhours := Strict.pair_padded (n := o.hours) (by have := o.hours_lt; omega)
    (':' :: padded 2 o.minutes)
  have hminutes := Strict.pair_padded (n := o.minutes) (by have := o.minutes_lt; omega) []
  rw [List.append_nil] at hminutes
  have hrange : ¬59 < o.minutes := Nat.not_lt.2 (Nat.le_of_lt_succ o.minutes_lt)
  have hcolon (cs : List Char) : Strict.separator [':'] (':' :: cs) = .ok cs := rfl
  have hoffset {sign : Char} (hsign : sign = '+' ∨ sign = '-') :
      Strict.offset (sign :: (padded 2 o.hours ++ ':' :: padded 2 o.minutes)) =
        .ok (if sign = '+' then o.hours * 3600 + o.minutes * 60
          else -(o.hours * 3600 + o.minutes * 60), []) := by
    rw [Strict.offset, if_neg (by rintro (rfl | rfl) <;> simp at hsign),
      if_pos (by tauto)]
    simp only [bind, Except.bind, hhours, hcolon, hminutes, if_neg hrange]
    rfl
  unfold chars seconds
  cases o.east with
  | true => exact hoffset (.inl rfl)
  | false => exact hoffset (.inr rfl)

end Offset

/-- What a calendar and a clock show. -/
@[ext]
structure WallTime where
  day : Day
  hour : Nat
  minute : Nat
  second : Nat
  day_exists : day.Exists
  hour_lt : hour < 24
  minute_lt : minute < 60
  second_lt : second < 60

namespace WallTime

/-- Seconds since midnight. -/
def secondOfDay (t : WallTime) : Nat :=
  t.hour * 3600 + t.minute * 60 + t.second

/-- The moment at which this is shown at Greenwich. -/
def moment (t : WallTime) : Moment :=
  { day := t.day, second := t.secondOfDay, nano := 0 }

/-- Whether the year is written with four digits, of which the first is not zero. -/
def HasFullYear (t : WallTime) : Prop :=
  1000 ≤ t.day.year ∧ t.day.year ≤ 9999

/-- A wall time in digits with an offset behind it: `2024-03-02T15:04:05` and the offset. -/
def chars (t : WallTime) (offset : List Char) : List Char :=
  padded 4 t.day.year.toNat ++ '-' :: (padded 2 t.day.month ++ '-' :: (padded 2 t.day.day ++
    'T' :: (padded 2 t.hour ++ ':' :: (padded 2 t.minute ++ ':' :: (padded 2 t.second ++ offset)))))

def text (t : WallTime) (offset : List Char) : String :=
  String.ofList (t.chars offset)

variable (t : WallTime)

theorem secondOfDay_lt : t.secondOfDay < 86400 := by
  have hhour := t.hour_lt
  have hminute := t.minute_lt
  have hsecond := t.second_lt
  unfold secondOfDay
  omega

theorem hour_moment : t.moment.hour = t.hour := by
  have hminute := t.minute_lt
  have hsecond := t.second_lt
  show t.secondOfDay / 3600 = t.hour
  unfold secondOfDay
  omega

theorem minute_moment : t.moment.minute = t.minute := by
  have hminute := t.minute_lt
  have hsecond := t.second_lt
  show t.secondOfDay / 60 % 60 = t.minute
  unfold secondOfDay
  omega

theorem second_moment : t.moment.secondOfMinute = t.second := by
  have hsecond := t.second_lt
  show t.secondOfDay % 60 = t.second
  unfold secondOfDay
  omega

theorem moment_injective : Function.Injective moment := fun t u h => by
  refine WallTime.ext ?_ ?_ ?_ ?_
  · exact congrArg Moment.day h
  · rw [← hour_moment, h, hour_moment]
  · rw [← minute_moment, h, minute_moment]
  · rw [← second_moment, h, second_moment]

/-- Every moment without a fraction of a second is shown. -/
theorem exists_moment_eq {m : Moment} (hday : m.day.Exists) (hsecond : m.second < 86400)
    (hnano : m.nano = 0) : ∃ t : WallTime, t.moment = m := by
  refine ⟨⟨m.day, m.second / 3600, m.second / 60 % 60, m.second % 60, hday, by omega, by omega,
    by omega⟩, ?_⟩
  obtain ⟨day, second, nano⟩ := m
  obtain rfl : nano = 0 := hnano
  simp only [moment, secondOfDay, Moment.mk.injEq, true_and, and_true]
  omega

/-- What is shown where the clocks are ahead of Greenwich by an offset is shown at Greenwich
at one time only, as many seconds earlier. -/
theorem exists_ofOffset_eq (t : WallTime) (offset : Int) :
    ∃ u : WallTime, Moment.ofOffset t.day (t.secondOfDay - offset) 0 = u.moment ∧
      ∀ v : WallTime, v.moment.instant = t.moment.instant - offset ↔ v = u := by
  have hexists := Moment.ofOffset_exists (t.secondOfDay - offset) 0 t.day_exists
  have hsecond := Moment.second_ofOffset_lt (t.secondOfDay - offset) 0 t.day
  obtain ⟨u, hu⟩ := exists_moment_eq hexists hsecond rfl
  have hinstant : u.moment.instant = t.moment.instant - offset := by
    rw [hu, Moment.instant_ofOffset _ _ t.day_exists, Moment.instant]
    simp only [moment]
    omega
  refine ⟨u, hu.symm, fun v => ⟨fun hv => ?_, fun hv => hv ▸ hinstant⟩⟩
  exact moment_injective (Moment.eq_of_instant v.day_exists u.day_exists v.secondOfDay_lt
    u.secondOfDay_lt rfl (hv.trans hinstant.symm))

/-- The text is not too short to be read. -/
theorem utf8ByteSize_text (offset : List Char) : 19 ≤ (t.text offset).utf8ByteSize := by
  have hlength (cs : List Char) : cs.length ≤ String.utf8Len cs := by
    induction cs with
    | nil => exact Nat.le_refl _
    | cons c cs ih =>
      have hc := c.utf8Size_pos
      rw [List.length_cons, String.utf8Len_cons]
      omega
  rw [text, String.utf8ByteSize_ofList]
  refine Nat.le_trans ?_ (hlength _)
  have hyear := le_length_padded 4 t.day.year.toNat
  have hmonth := le_length_padded 2 t.day.month
  have hday := le_length_padded 2 t.day.day
  have hhour := le_length_padded 2 t.hour
  have hminute := le_length_padded 2 t.minute
  have hsecond := le_length_padded 2 t.second
  simp only [chars, List.length_append, List.length_cons]
  omega

/-- What is shown at an offset from Greenwich makes a moment. -/
theorem ofFields?_eq {t : WallTime} (h : t.HasFullYear) {offset : Int} (hlow : -86400 < offset)
    (hhigh : offset < 86400) :
    Moment.ofFields? t.day t.hour t.minute t.second 0 offset =
      some (.ofOffset t.day (t.secondOfDay - offset) 0) := by
  have hsecond := t.second_lt
  have hday := t.secondOfDay_lt
  have hyear := Moment.year_ofOffset 0 t.day_exists
    (show -86400 ≤ (t.secondOfDay : Int) - offset by omega) (by omega)
  have hrange : (Moment.ofOffset t.day (t.secondOfDay - offset) 0).InRange := by
    unfold HasFullYear at h
    unfold Moment.InRange Day.minYear Day.maxYear
    omega
  have hyears : Day.minYear ≤ t.day.year ∧ t.day.year ≤ Day.maxYear := by
    unfold HasFullYear at h
    unfold Day.minYear Day.maxYear
    omega
  rw [Moment.ofFields?, if_neg (Nat.ne_of_lt hsecond), if_pos ⟨t.day_exists, t.hour_lt, t.minute_lt,
    hsecond.le, hlow, hhigh⟩]
  exact if_pos ⟨hyears.1, hyears.2, hrange⟩

/-- What is shown at an offset from Greenwich is read as the moment. -/
theorem readStrict_text {t : WallTime} (h : t.HasFullYear) {zone : List Char} {offset : Int}
    (hzone : Strict.offset zone = .ok (offset, [])) (hlow : -86400 < offset)
    (hhigh : offset < 86400) :
    Moment.readStrict (t.text zone) =
      .ok (.ofOffset t.day (t.secondOfDay - offset) 0) := by
  have hmonth := t.day_exists.month_mem
  have hdays := t.day_exists.2.trans (monthLength_le _ _)
  have hhour := t.hour_lt
  have hminute := t.minute_lt
  have hsecond := t.second_lt
  have hfirst : 1000 ≤ t.day.year := h.1
  have hlast : t.day.year ≤ 9999 := h.2
  have hyear : ((t.day.year.toNat : Nat) : Int) = t.day.year := Int.toNat_of_nonneg (by omega)
  have hnumber4 {n : Nat} (hn : n < 10 ^ 4) := Strict.number_padded (by decide) hn
  have hnumber2 {n : Nat} (hn : n < 10 ^ 2) := Strict.number_padded (by decide) hn
  have hhyphen (cs : List Char) : Strict.separator ['-'] ('-' :: cs) = .ok cs := rfl
  have hletter (cs : List Char) : Strict.separator ['T', 't', ' '] ('T' :: cs) = .ok cs := rfl
  have hcolon (cs : List Char) : Strict.separator [':'] (':' :: cs) = .ok cs := rfl
  have hrange : ¬(23 < t.hour ∨ 59 < t.minute ∨ 60 < t.second) := by omega
  -- Each field is read where it was written, and what is checked in between holds.
  unfold Moment.readStrict
  rw [if_neg (Nat.not_lt.2 (t.utf8ByteSize_text zone)), text, String.toList_ofList, chars]
  simp only [bind, Except.bind, pure, Except.pure,
    hnumber4 (show t.day.year.toNat < 10 ^ 4 by omega),
    hnumber2 (show t.day.month < 10 ^ 2 by omega), hnumber2 (show t.day.day < 10 ^ 2 by omega),
    hnumber2 (show t.hour < 10 ^ 2 by omega), hnumber2 (show t.minute < 10 ^ 2 by omega),
    hnumber2 (show t.second < 10 ^ 2 by omega), hhyphen, hletter, hcolon, hyear,
    Strict.fraction_of_offset hzone, hzone, if_neg hrange, t.day_exists, not_true_eq_false,
    if_false, ne_eq, ofFields?_eq h hlow hhigh]

end WallTime

end BlogTheme.Date
