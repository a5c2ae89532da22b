import BlogTheme.Date.Calendar
import Mathlib.Order.SuccPred.IntervalSucc
import Mathlib.Algebra.Order.Group.Int
import Mathlib.Tactic.IntervalCases

/-!
# Counting days

The day after and the day before exist and have the next and the previous number
(`Day.number_next`, `Day.number_previous`), and days with one number are one day
(`Day.number_inj`). So a number of seconds after or before a midnight leads to the one moment that
is as many seconds away (`Moment.instant_ofOffset`, `Moment.eq_of_instant`).
-/

namespace BlogTheme.Date

/-! ## Years and months -/

/-- The number of days of a year. -/
def yearLength (year : Int) : Nat :=
  if isLeap year then 366 else 365

theorem isLeap_iff {year : Int} :
    isLeap year ↔ year % 4 = 0 ∧ (year % 100 ≠ 0 ∨ year % 400 = 0) := by
  simp [isLeap]

theorem daysBefore_succ (year : Int) {month : Nat} (h : 1 ≤ month) :
    daysBefore year (month + 1) = daysBefore year month + monthLength year month := by
  cases month with
  | zero => omega
  | succ month => rfl

/-- The months of a year are its days. -/
theorem daysBefore_thirteen (year : Int) : daysBefore year 13 = yearLength year := by
  simp only [daysBefore, monthLength, yearLength]
  split <;> rfl

theorem yearStart_succ (year : Int) :
    Day.yearStart (year + 1) = Day.yearStart year + yearLength year := by
  simp only [Day.yearStart, yearLength, isLeap_iff]
  split <;> omega

theorem yearStart_lt {year year' : Int} (h : year < year') :
    Day.yearStart year < Day.yearStart year' :=
  strictMono_int_of_lt_succ (fun year => by
    have hsucc := yearStart_succ year
    unfold yearLength at hsucc
    split at hsucc <;> omega) h

theorem yearStart_le {year year' : Int} (h : year ≤ year') :
    Day.yearStart year ≤ Day.yearStart year' := by
  obtain rfl | h := eq_or_lt_of_le h
  · exact Int.le_refl _
  · exact Int.le_of_lt (yearStart_lt h)

theorem daysBefore_mono (year : Int) {month month' : Nat} (h : month ≤ month') :
    daysBefore year month ≤ daysBefore year month' := by
  induction h with
  | refl => exact Nat.le_refl _
  | @step month' _ ih =>
    refine ih.trans ?_
    cases month' with
    | zero => exact Nat.le_refl _
    | succ month' => exact Nat.le_add_right _ _

theorem monthLength_pos (year : Int) {month : Nat} (hlow : 1 ≤ month) (hhigh : month ≤ 12) :
    1 ≤ monthLength year month := by
  -- Only the length of February is a conditional.
  interval_cases month <;> simp only [monthLength] <;> (try split) <;> decide

theorem monthLength_le (year : Int) (month : Nat) : monthLength year month ≤ 31 := by
  unfold monthLength
  split <;> (try split) <;> decide

namespace Day

variable {d e : Day}

/-- Days exist in the months 1 to 12 only. -/
theorem Exists.month_mem (h : d.Exists) : 1 ≤ d.month ∧ d.month ≤ 12 := by
  obtain ⟨hlow, hhigh⟩ := h
  unfold monthLength at hhigh
  split at hhigh <;> omega

/-! ## The next day and the one before -/

theorem Exists.next (h : d.Exists) : d.next.Exists := by
  obtain ⟨hlow, hhigh⟩ := h.month_mem
  unfold Day.next
  split_ifs with hday hmonth
  · exact ⟨Nat.le_add_left _ _, hday⟩
  · exact ⟨Nat.le_refl _, monthLength_pos d.year (Nat.le_add_left _ _) hmonth⟩
  · exact ⟨Nat.le_refl _, show 1 ≤ 31 by decide⟩

theorem number_next (h : d.Exists) : d.next.number = d.number + 1 := by
  obtain ⟨hlow, hhigh⟩ := h.month_mem
  have hbefore := daysBefore_succ d.year hlow
  have hlength := h.2
  unfold Day.next
  split_ifs with hday hmonth
  · simp only [number]
    omega
  · simp only [number, hbefore]
    omega
  · have hmonth : d.month = 12 := by omega
    have hyear := yearStart_succ d.year
    rw [hmonth, daysBefore_thirteen] at hbefore
    rw [hmonth] at hlength hday
    simp only [number, hmonth, hyear, hbefore, daysBefore]
    omega

example : number { year := 1970, month := 1, day := 1 } = 0 := by decide

theorem Exists.previous (h : d.Exists) : d.previous.Exists := by
  obtain ⟨hlow, hhigh⟩ := h.month_mem
  unfold Day.previous
  split_ifs with hday hmonth
  · exact ⟨Nat.le_sub_one_of_lt hday, (Nat.sub_le _ _).trans h.2⟩
  · exact ⟨monthLength_pos d.year (by omega) (by omega), Nat.le_refl _⟩
  · exact ⟨show 1 ≤ 31 by decide, Nat.le_refl _⟩

/-- After the day before comes the day. -/
theorem next_previous (h : d.Exists) : d.previous.next = d := by
  obtain ⟨hlow, hhigh⟩ := h.month_mem
  obtain ⟨hday, hlength⟩ := h
  obtain ⟨year, month, day⟩ := d
  unfold previous
  split_ifs with hday' hmonth'
  · dsimp only at *
    rw [next, if_pos (show day - 1 < monthLength year month by omega), Nat.sub_add_cancel hday]
  · dsimp only at *
    rw [next, if_neg (Nat.lt_irrefl _), if_pos (show month - 1 < 12 by omega),
      Nat.sub_add_cancel hlow, Nat.le_antisymm (Nat.not_lt.1 hday') hday]
  · dsimp only at *
    have hlast : ¬31 < monthLength (year - 1) 12 := Nat.lt_irrefl 31
    rw [next, if_neg hlast, if_neg (Nat.lt_irrefl 12), Int.sub_add_cancel,
      Nat.le_antisymm (Nat.not_lt.1 hday') hday, Nat.le_antisymm (Nat.not_lt.1 hmonth') hlow]

theorem number_previous (h : d.Exists) : d.previous.number = d.number - 1 := by
  have hnext := number_next h.previous
  rw [next_previous h] at hnext
  omega

theorem exists_later (h : d.Exists) (n : Nat) : (d.later n).Exists := by
  induction n generalizing d with
  | zero => exact h
  | succ n ih => exact ih h.next

theorem number_later (h : d.Exists) (n : Nat) : (d.later n).number = d.number + n := by
  induction n generalizing d with
  | zero => simp [later]
  | succ n ih =>
    rw [later, ih h.next, number_next h]
    omega

theorem exists_earlier (h : d.Exists) (n : Nat) : (d.earlier n).Exists := by
  induction n generalizing d with
  | zero => exact h
  | succ n ih => exact ih h.previous

theorem number_earlier (h : d.Exists) (n : Nat) : (d.earlier n).number = d.number - n := by
  induction n generalizing d with
  | zero => simp [earlier]
  | succ n ih =>
    rw [earlier, ih h.previous, number_previous h]
    omega

/-! ## Numbers tell days apart -/

theorem number_bounds (h : d.Exists) :
    yearStart d.year + daysBefore d.year d.month ≤ d.number ∧
      d.number < yearStart d.year + daysBefore d.year (d.month + 1) := by
  obtain ⟨hlow, hhigh⟩ := h
  obtain ⟨hmonth, -⟩ := Exists.month_mem ⟨hlow, hhigh⟩
  rw [daysBefore_succ d.year hmonth]
  unfold number
  omega

theorem number_lt_yearStart_succ (h : d.Exists) : d.number < yearStart (d.year + 1) := by
  have hbounds := (number_bounds h).2
  have hmono := daysBefore_mono d.year (Nat.add_le_add_right h.month_mem.2 1)
  rw [daysBefore_thirteen] at hmono
  rw [yearStart_succ]
  omega

theorem yearStart_le_number (h : d.Exists) : yearStart d.year ≤ d.number := by
  have hbounds := (number_bounds h).1
  omega

/-- A day with a number that is less than that of a new year lies in an earlier year. -/
theorem year_le {year : Int} (h : d.Exists) (hlt : d.number < yearStart (year + 1)) :
    d.year ≤ year := by
  by_contra hyear
  have hstart := yearStart_le (show year + 1 ≤ d.year by omega)
  have hnumber := yearStart_le_number h
  omega

theorem le_year {year : Int} (h : d.Exists) (hle : yearStart year ≤ d.number) :
    year ≤ d.year := by
  by_contra hyear
  have hstart := yearStart_le (show d.year + 1 ≤ year by omega)
  have hnumber := number_lt_yearStart_succ h
  omega

theorem month_le {month : Nat} (h : d.Exists)
    (hlt : d.number < yearStart d.year + daysBefore d.year (month + 1)) : d.month ≤ month := by
  by_contra hmonth
  have hbefore := daysBefore_mono d.year (show month + 1 ≤ d.month by omega)
  have hbounds := (number_bounds h).1
  omega

/-- Days with the same number are the same day. -/
theorem number_inj (hd : d.Exists) (he : e.Exists) (h : d.number = e.number) : d = e := by
  have hyear : d.year = e.year :=
    le_antisymm (year_le hd (h ▸ number_lt_yearStart_succ he))
      (year_le he (h ▸ number_lt_yearStart_succ hd))
  have hdbounds := (number_bounds hd).2
  have hebounds := (number_bounds he).2
  have hmonth : d.month = e.month := by
    refine le_antisymm (month_le hd ?_) (month_le he ?_)
    · rw [h, hyear]
      exact hebounds
    · rw [← h, ← hyear]
      exact hdbounds
  have hday : d.day = e.day := by
    unfold number at h
    rw [hyear, hmonth] at h
    omega
  cases d
  cases e
  simp_all

end Day

/-! ## Moments -/

namespace Moment

/-- Whole seconds since the beginning of 1 January 1970. -/
def instant (m : Moment) : Int :=
  m.day.number * 86400 + m.second

variable {day : Day} (second : Int) (nano : Nat)

theorem ofOffset_exists (h : day.Exists) : (ofOffset day second nano).day.Exists := by
  unfold ofOffset
  dsimp only
  split
  · exact Day.exists_later h _
  · exact Day.exists_earlier h _

theorem number_ofOffset (h : day.Exists) :
    (ofOffset day second nano).day.number = day.number + second / 86400 := by
  unfold ofOffset
  dsimp only
  split
  · rw [Day.number_later h]
    omega
  · rw [Day.number_earlier h]
    omega

theorem second_ofOffset_lt (day : Day) : (ofOffset day second nano).second < 86400 := by
  unfold ofOffset
  dsimp only
  omega

/-- The moment is as many seconds away from the midnight as it is to be. -/
theorem instant_ofOffset (h : day.Exists) :
    (ofOffset day second nano).instant = day.number * 86400 + second := by
  have hday := number_ofOffset second nano h
  have hsecond : ((ofOffset day second nano).second : Int) = second % 86400 := by
    unfold ofOffset
    dsimp only
    omega
  rw [instant, hday, hsecond]
  omega

/-- A moment less than a day before or after a day lies in its year, in the one before or in the one
after. -/
theorem year_ofOffset {second : Int} (nano : Nat) (h : day.Exists) (hlow : -86400 ≤ second)
    (hhigh : second < 2 * 86400) :
    day.year - 1 ≤ (ofOffset day second nano).day.year ∧
      (ofOffset day second nano).day.year ≤ day.year + 1 := by
  have hexists := ofOffset_exists second nano h
  have hnumber := number_ofOffset second nano h
  have hstart := Day.yearStart_le_number h
  have hend := Day.number_lt_yearStart_succ h
  have hlast := yearStart_lt (show day.year - 1 < day.year by omega)
  have hnext := yearStart_lt (show day.year + 1 < day.year + 1 + 1 by omega)
  exact ⟨Day.le_year hexists (by omega), Day.year_le hexists (by omega)⟩

/-- Moments of the same second are the same moment if they have no fraction of one. -/
theorem eq_of_instant {m n : Moment} (hm : m.day.Exists) (hn : n.day.Exists)
    (hmsecond : m.second < 86400) (hnsecond : n.second < 86400) (hnano : m.nano = n.nano)
    (h : m.instant = n.instant) : m = n := by
  unfold instant at h
  have hday : m.day = n.day := Day.number_inj hm hn (by omega)
  rw [hday] at h
  have hsecond : m.second = n.second := by omega
  cases m
  cases n
  simp_all

end Moment

end BlogTheme.Date
