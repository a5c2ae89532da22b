import BlogTheme.Date.Reading
import BlogTheme.Proofs.Date.Calendar
import BlogTheme.Proofs.Outcome
import BlogTheme.Proofs.Text.Decimal
import Mathlib.Data.List.TakeWhile

/-!
# Moments on the clock

Of every date that is read the second belongs to a day, and a leap second prolongs the last second
of a minute (`Moment.OnClock`, `Moment.onClock_of_read?`, `Moment.onClock_of_readStrict`): a
fraction is less than a second, and offsets are counted in whole minutes.
-/

namespace BlogTheme.Date

open BlogTheme.Text
open Moment (billion)

/-- The moment has a second of the day and a fraction of it. In a leap second, which prolongs the
last second of a minute, the fraction is a second or more, but not two. -/
structure Moment.OnClock (m : Moment) : Prop where
  second_lt : m.second < 86400
  nano_lt : m.nano < 2 * billion
  leap_second : m.isLeapSecond → m.second % 60 = 59

/-! ## Fractions and offsets -/

theorem nanoseconds_lt {ds : List Char} (h : ∀ c ∈ ds, isDigit c) : nanoseconds ds < billion := by
  have hfirst : digitsValue (ds.take 9) < 10 ^ (ds.take 9).length :=
    digitsValue_lt fun c hc => h c (List.mem_of_mem_take hc)
  have hlength : (ds.take 9).length ≤ 9 := List.length_take_le _ _
  calc nanoseconds ds < 10 ^ (ds.take 9).length * 10 ^ (9 - (ds.take 9).length) :=
        Nat.mul_lt_mul_of_pos_right hfirst (Nat.pow_pos (by decide))
    _ = billion := by
        rw [← pow_add, Nat.add_sub_cancel' hlength]
        rfl

theorem nanoseconds_takeWhile_lt (cs : List Char) : nanoseconds (cs.takeWhile isDigit) < billion :=
  nanoseconds_lt fun _ hc => List.mem_takeWhile_imp hc

theorem Strict.fraction_lt {cs rest : List Char} {nano : Nat}
    (h : fraction cs = .ok (nano, rest)) : nano < billion := by
  unfold fraction at h
  split at h
  · dsimp only at h
    split at h
    · cases h
    · cases h
    · cases h
      exact nanoseconds_takeWhile_lt _
  · cases h
    decide

theorem Loose.fraction?_lt {cs rest : List Char} {nano : Nat}
    (h : fraction? cs = some (nano, rest)) : nano < billion := by
  unfold fraction? at h
  split at h
  · dsimp only at h
    split at h
    · cases h
    · cases h
      exact nanoseconds_takeWhile_lt _
  · cases h
    decide

theorem Strict.offset_minutes {cs rest : List Char} {seconds : Int}
    (h : offset cs = .ok (seconds, rest)) : seconds % 60 = 0 := by
  unfold offset at h
  split at h
  · cases h
  · split at h
    · cases h
      rfl
    · split at h
      · obtain ⟨⟨hours, cs₁⟩, -, h⟩ := ok_of_bind h
        obtain ⟨cs₂, -, h⟩ := ok_of_bind h
        obtain ⟨⟨minutes, cs₃⟩, -, h⟩ := ok_of_bind h
        dsimp only at h
        split at h
        · cases h
        · cases h
          split <;> omega
      · cases h

theorem Loose.shifted?_minutes {cs rest : List Char} {seconds : Int}
    (h : offset?.shifted? cs = some (seconds, rest)) : seconds % 60 = 0 := by
  unfold offset?.shifted? at h
  split at h
  · cases h
  · split at h
    · cases h
      rfl
    · split at h
      · split at h
        · split at h
          · obtain ⟨⟨minutes, cs₁⟩, -, h⟩ := Option.bind_eq_some_iff.1 h
            cases h
            split <;> omega
          · cases h
        · cases h
      · cases h

theorem Loose.offset?_minutes {cs rest : List Char} {seconds : Int}
    (h : offset? cs = some (seconds, rest)) : seconds % 60 = 0 := by
  unfold offset? at h
  split at h
  · split at h
    · cases h
      rfl
    · exact shifted?_minutes h
  · exact shifted?_minutes h

/-! ## Dates that are read -/

namespace Moment

theorem onClock_ofOffset (day : Day) {second : Int} {nano : Nat} (hnano : nano < 2 * billion)
    (hleap : billion ≤ nano → second % 60 = 59) : (ofOffset day second nano).OnClock where
  second_lt := second_ofOffset_lt second nano day
  nano_lt := hnano
  leap_second h := by
    have hsecond := hleap (of_decide_eq_true h)
    show (second % 86400).toNat % 60 = 59
    omega

theorem onClock_of_ofFields? {day : Day} {hour minute second nano : Nat} {offset : Int} {m : Moment}
    (h : ofFields? day hour minute second nano offset = some m) (hnano : nano < billion)
    (hoffset : offset % 60 = 0) : m.OnClock := by
  unfold ofFields? at h
  obtain ⟨-, h⟩ := Option.ite_none_right_eq_some.1 h
  obtain ⟨-, h⟩ := Option.ite_none_right_eq_some.1 h
  cases h
  unfold billion at hnano
  by_cases hsecond : second = 60
  · rw [if_pos hsecond]
    exact onClock_ofOffset day (by unfold billion; omega) (by dsimp only; omega)
  · rw [if_neg hsecond]
    exact onClock_ofOffset day (by unfold billion; omega) (by unfold billion; omega)

/-- What is read as a date of a request are fields that make a moment. -/
theorem ofFields?_of_read? {text : String} {m : Moment} (h : read? text = some m) :
    ∃ day hour minute second nano offset,
      ofFields? day hour minute second nano offset = some m ∧ nano < billion ∧ offset % 60 = 0 := by
  unfold read? at h
  obtain ⟨⟨year, cs⟩, -, h⟩ := Option.bind_eq_some_iff.1 h
  obtain ⟨cs, -, h⟩ := Option.bind_eq_some_iff.1 h
  obtain ⟨⟨month, cs⟩, -, h⟩ := Option.bind_eq_some_iff.1 h
  obtain ⟨cs, -, h⟩ := Option.bind_eq_some_iff.1 h
  obtain ⟨⟨day, cs⟩, -, h⟩ := Option.bind_eq_some_iff.1 h
  dsimp only at h
  split at h
  · split at h
    · obtain ⟨cs, -, h⟩ := Option.bind_eq_some_iff.1 h
      obtain ⟨⟨hour, cs⟩, -, h⟩ := Option.bind_eq_some_iff.1 h
      obtain ⟨cs, -, h⟩ := Option.bind_eq_some_iff.1 h
      obtain ⟨⟨minute, cs⟩, -, h⟩ := Option.bind_eq_some_iff.1 h
      obtain ⟨cs, -, h⟩ := Option.bind_eq_some_iff.1 h
      obtain ⟨⟨second, cs⟩, -, h⟩ := Option.bind_eq_some_iff.1 h
      obtain ⟨⟨nano, cs⟩, hnano, h⟩ := Option.bind_eq_some_iff.1 h
      obtain ⟨⟨offset, cs⟩, hoffset, h⟩ := Option.bind_eq_some_iff.1 h
      obtain ⟨-, h⟩ := Option.ite_none_left_eq_some.1 h
      exact ⟨_, _, _, _, _, _, h, Loose.fraction?_lt hnano, Loose.offset?_minutes hoffset⟩
    · cases h
  · cases h

/-- Dates of requests are on the clock. -/
theorem onClock_of_read? {text : String} {m : Moment} (h : read? text = some m) : m.OnClock := by
  obtain ⟨_, _, _, _, _, _, hfields, hnano, hoffset⟩ := ofFields?_of_read? h
  exact onClock_of_ofFields? hfields hnano hoffset

/-- Dates in templates are on the clock. -/
theorem onClock_of_readStrict {text : String} {m : Moment} (h : readStrict text = .ok m) :
    m.OnClock := by
  unfold readStrict at h
  split at h
  · cases h
  obtain ⟨⟨year, cs⟩, -, h⟩ := ok_of_bind h
  obtain ⟨cs, -, h⟩ := ok_of_bind h
  obtain ⟨⟨month, cs⟩, -, h⟩ := ok_of_bind h
  obtain ⟨cs, -, h⟩ := ok_of_bind h
  obtain ⟨⟨day, cs⟩, -, h⟩ := ok_of_bind h
  dsimp only at h
  split at h
  · cases h
  obtain ⟨cs, -, h⟩ := ok_of_bind h
  obtain ⟨⟨hour, cs⟩, -, h⟩ := ok_of_bind h
  obtain ⟨cs, -, h⟩ := ok_of_bind h
  obtain ⟨⟨minute, cs⟩, -, h⟩ := ok_of_bind h
  obtain ⟨cs, -, h⟩ := ok_of_bind h
  obtain ⟨⟨second, cs⟩, -, h⟩ := ok_of_bind h
  obtain ⟨⟨nano, cs⟩, hnano, h⟩ := ok_of_bind h
  dsimp only at h
  split at h
  · cases h
  obtain ⟨⟨offset, cs⟩, hoffset, h⟩ := ok_of_bind h
  dsimp only at h
  split at h
  · cases h
  split at h
  · next hfields =>
    cases h
    exact onClock_of_ofFields? hfields (Strict.fraction_lt hnano) (Strict.offset_minutes hoffset)
  · cases h

end Moment

end BlogTheme.Date
