import BlogTheme.Proofs.Date.Clock
import BlogTheme.Proofs.Date.Phrases

/-!
# Relative dates

The time between two moments is that between their places on one line of nanoseconds, and at most
one leap second more or less (`Moment.secondsUntil_eq`). Exchanged moments are as far apart
(`Moment.secondsUntil_comm`), so one phrase tells both how long ago and how soon
(`Moment.relativeTo_eq_ago_iff`, `Moment.relativeTo_eq_in_iff`). Of two moments the earlier one is
told by the greater phrase if no leap second comes into it, and in any case if they are a second
apart (`Moment.relativeTo_ordered`).
-/

namespace BlogTheme.Date.Moment

variable {m n now : Moment}

/-! ## One after the other -/

/-- A leap second comes behind all of the second that it prolongs. -/
instance : LE Moment where
  le m n := m.instant < n.instant ∨ m.instant = n.instant ∧ m.nano ≤ n.nano

instance (m n : Moment) : Decidable (m ≤ n) :=
  inferInstanceAs (Decidable (_ ∨ _))

theorem le_iff : m ≤ n ↔ m.instant < n.instant ∨ m.instant = n.instant ∧ m.nano ≤ n.nano :=
  Iff.rfl

theorem le_trans (hmn : m ≤ n) (hnnow : n ≤ now) : m ≤ now := by
  rw [le_iff] at *
  omega

/-- Nanoseconds since the beginning of 1 January 1970. A leap second has those of the second that
comes after it. -/
def nanosecond (m : Moment) : Int :=
  m.instant * billion + m.nano

theorem nanosecond_le (hm : m.nano < billion) (h : m ≤ n) : m.nanosecond ≤ n.nanosecond := by
  rw [le_iff] at h
  unfold nanosecond billion at *
  omega

/-! ## The time between two moments -/

/-- The leap second that is counted between two moments. -/
def leapBetween (m n : Moment) : Int :=
  if m.second < n.second then if m.isLeapSecond then 1 else 0
  else if n.second < m.second then if n.isLeapSecond then -1 else 0
  else 0

/-- Nanoseconds from `m` to `n`. -/
def nanosecondsUntil (m n : Moment) : Int :=
  n.nanosecond - m.nanosecond + leapBetween m n * billion

/-- What is counted are whole seconds. -/
theorem secondsUntil_eq (m n : Moment) :
    m.secondsUntil n = (m.nanosecondsUntil n).tdiv billion := by
  have hinstant : n.nanosecond - m.nanosecond + leapBetween m n * billion =
      ((n.day.number - m.day.number) * 86400 + (n.second - m.second : Int) + leapBetween m n) *
        billion + (n.nano - m.nano : Int) := by
    unfold nanosecond instant billion
    omega
  rw [nanosecondsUntil, hinstant]
  rfl

theorem leapBetween_comm (m n : Moment) : leapBetween n m = -leapBetween m n := by
  unfold leapBetween
  split_ifs <;> omega

theorem leapBetween_eq_zero (hm : m.isLeapSecond = false) (hn : n.isLeapSecond = false) :
    leapBetween m n = 0 := by
  simp [leapBetween, hm, hn]

theorem secondsUntil_comm (m n : Moment) : n.secondsUntil m = -m.secondsUntil n := by
  have hcomm : n.nanosecondsUntil m = -m.nanosecondsUntil n := by
    unfold nanosecondsUntil
    rw [leapBetween_comm m n, Int.neg_mul]
    omega
  rw [secondsUntil_eq, secondsUntil_eq, hcomm, Int.neg_tdiv]

/-- The time until a later moment is not negative: no leap second makes it less by a whole
second. -/
theorem secondsUntil_nonneg (hm : m.OnClock) (hn : n.OnClock) (h : m ≤ n) :
    0 ≤ m.secondsUntil n := by
  have hlow : -(billion : Int) < m.nanosecondsUntil n := by
    obtain ⟨hmsecond, hmnano, -⟩ := hm
    obtain ⟨hnsecond, hnnano, -⟩ := hn
    rw [le_iff] at h
    unfold nanosecondsUntil nanosecond leapBetween
    simp only [isLeapSecond, decide_eq_true_eq]
    unfold instant billion at *
    split_ifs <;> omega
  rw [secondsUntil_eq]
  rcases Int.le_total 0 (m.nanosecondsUntil n) with hsign | hsign
  · exact Int.tdiv_nonneg hsign (by decide)
  · have hzero : (-m.nanosecondsUntil n).tdiv billion = 0 :=
      Int.tdiv_eq_zero_of_lt (by omega) (by omega)
    rw [Int.neg_tdiv] at hzero
    omega

/-- Leap seconds do not make up for a second by which one moment comes before another. -/
theorem leapBetween_sub_le (hm : m.OnClock) (hn : n.OnClock) (now : Moment)
    (hapart : m.nanosecond + billion ≤ n.nanosecond) :
    (leapBetween n now - leapBetween m now) * billion ≤ n.nanosecond - m.nanosecond := by
  obtain ⟨hmsecond, hmnano, -⟩ := hm
  obtain ⟨hnsecond, hnnano, hnleap⟩ := hn
  -- Two leap seconds are made up for only if the moments lie on different days: then `n` is later
  -- than the first minute of its day.
  have hnleap : billion ≤ n.nano → n.second % 60 = 59 := fun h => hnleap (decide_eq_true h)
  unfold leapBetween
  simp only [isLeapSecond, decide_eq_true_eq]
  unfold nanosecond instant billion at *
  split_ifs <;> omega

/-- No leap second comes into the time until `now` from either moment, or they are a second
apart. -/
def ComparableAt (now m n : Moment) : Prop :=
  (m.isLeapSecond = false ∧ n.isLeapSecond = false ∧ now.isLeapSecond = false) ∨
    m.nanosecond + billion ≤ n.nanosecond

/-- Less time has passed since the later of two moments. -/
theorem secondsUntil_anti (hm : m.OnClock) (hn : n.OnClock) (h : m ≤ n)
    (hcomparable : ComparableAt now m n) : n.secondsUntil now ≤ m.secondsUntil now := by
  have hnanoseconds : n.nanosecondsUntil now ≤ m.nanosecondsUntil now := by
    unfold nanosecondsUntil
    rcases hcomparable with ⟨hmleap, hnleap, hnow⟩ | hapart
    · have hnano : m.nano < billion := Nat.not_le.1 (of_decide_eq_false hmleap)
      have hle := nanosecond_le hnano h
      rw [leapBetween_eq_zero hmleap hnow, leapBetween_eq_zero hnleap hnow]
      omega
    · have hleap := leapBetween_sub_le hm hn now hapart
      rw [Int.sub_mul] at hleap
      omega
  rw [secondsUntil_eq, secondsUntil_eq]
  exact Int.tdiv_le_tdiv (by decide) hnanoseconds

/-! ## What is told -/

/-- The length of time between two moments in words. -/
def phraseFrom (m now : Moment) : Phrase :=
  .ofSeconds (m.secondsUntil now).natAbs

theorem relativeTo_eq (m now : Moment) : m.relativeTo now =
    if m.secondsUntil now < 0 then "in " ++ (m.phraseFrom now).text
    else (m.phraseFrom now).text ++ " ago" :=
  rfl

theorem phraseFrom_comm (m n : Moment) : n.phraseFrom m = m.phraseFrom n := by
  rw [phraseFrom, secondsUntil_comm, Int.natAbs_neg, phraseFrom]

/-- No text tells both how long ago and how soon something is: it would begin with an `i` and end
with an `o`. -/
theorem text_ago_ne (p : Phrase) (s : String) : p.text ++ " ago" ≠ "in " ++ s := by
  intro h
  have hhead : (p.text ++ " ago").toList.head? = some 'i' := by
    rw [h, String.toList_append]
    rfl
  rw [String.toList_append, List.head?_append] at hhead
  cases htext : p.text.toList.head? with
  | none =>
    rw [htext] at hhead
    cases hhead
  | some c =>
    rw [htext] at hhead
    exact p.head?_text_ne (htext.trans hhead)

theorem in_text_ne (p : Phrase) (s : String) : "in " ++ p.text ≠ s ++ " ago" := by
  intro h
  have hlast : ("in " ++ p.text).toList.getLast? = some 'o' := by
    rw [h, String.toList_append, List.getLast?_append]
    rfl
  rw [String.toList_append, List.getLast?_append] at hlast
  cases htext : p.text.toList.getLast? with
  | none =>
    rw [htext] at hlast
    cases hlast
  | some c =>
    rw [htext] at hlast
    exact p.getLast?_text_ne (htext.trans hlast)

/-- A text tells how long ago a moment was if it is not later than now and the text has the phrase
for the time between them. -/
theorem relativeTo_eq_ago_iff {s : String} : m.relativeTo now = s ++ " ago" ↔
    0 ≤ m.secondsUntil now ∧ s = (m.phraseFrom now).text := by
  rw [relativeTo_eq]
  split_ifs with hsign
  · exact ⟨fun h => absurd h (in_text_ne _ _), fun h => absurd h.1 (by omega)⟩
  · rw [String.append_left_inj]
    exact ⟨fun h => ⟨by omega, h.symm⟩, fun h => h.2.symm⟩

theorem relativeTo_eq_in_iff {s : String} : m.relativeTo now = "in " ++ s ↔
    m.secondsUntil now < 0 ∧ s = (m.phraseFrom now).text := by
  rw [relativeTo_eq]
  split_ifs with hsign
  · rw [String.append_right_inj]
    exact ⟨fun h => ⟨hsign, h.symm⟩, fun h => h.2.symm⟩
  · exact ⟨fun h => absurd h (text_ago_ne _ _), fun h => absurd h.1 hsign⟩

/-- Of two moments that are not later than `now` the earlier one is told by the greater phrase, if
no leap second comes into it or they are a second apart. Nothing is counted of which there is
only one. And if whole seconds lie between a moment and `now`, what is told of one seen from the
other is the same, as long ago as it is soon. -/
theorem relativeTo_ordered {e d : Moment} (he : e.OnClock) (hd : d.OnClock) (hnow : now.OnClock) :
    (e ≤ d → d ≤ now → ComparableAt now e d → ∃ p q : Phrase,
      (∀ p', e.relativeTo now = p'.text ++ " ago" ↔ p' = p) ∧
      (∀ q', d.relativeTo now = q'.text ++ " ago" ↔ q' = q) ∧ q ≤ p) ∧
    (∃ p : Phrase, (∀ p', d.relativeTo now = p'.text ++ " ago" ∨
      d.relativeTo now = "in " ++ p'.text ↔ p' = p) ∧ ∀ n, p.number? = some n → 2 ≤ n) ∧
    (d.secondsUntil now ≠ 0 → ∀ s : String,
      d.relativeTo now = s ++ " ago" ↔ now.relativeTo d = "in " ++ s) := by
  have hago {m : Moment} (hm : m.OnClock) (h : m ≤ now) (p : Phrase) :
      m.relativeTo now = p.text ++ " ago" ↔ p = m.phraseFrom now := by
    rw [relativeTo_eq_ago_iff, Phrase.text_injective.eq_iff]
    exact and_iff_right (secondsUntil_nonneg hm hnow h)
  refine ⟨fun hed hdnow hcomparable => ?_, ?_, fun hapart s => ?_⟩
  · have hpassed := secondsUntil_anti he hd hed hcomparable
    have hsign := secondsUntil_nonneg hd hnow hdnow
    refine ⟨e.phraseFrom now, d.phraseFrom now, hago he (le_trans hed hdnow), hago hd hdnow, ?_⟩
    exact Phrase.ofSeconds_mono (by omega)
  · refine ⟨d.phraseFrom now, fun p => ?_, fun n => Phrase.two_le_number⟩
    rw [relativeTo_eq_ago_iff, relativeTo_eq_in_iff, Phrase.text_injective.eq_iff, ← or_and_right]
    exact and_iff_right (by omega)
  · rw [relativeTo_eq_ago_iff, relativeTo_eq_in_iff, secondsUntil_comm d now, phraseFrom_comm d now]
    exact and_congr_left fun _ => by omega

/-- Half way through a leap second, and a second after that. -/
theorem relativeTo_ordered_leapSecond :
    let e : Moment := { day := ⟨2016, 12, 31⟩, second := 86399, nano := 1500000000 }
    let d : Moment := { day := ⟨2017, 1, 1⟩, second := 1, nano := 500000000 }
    let now : Moment := { day := ⟨2017, 1, 1⟩, second := 91, nano := 0 }
    e.relativeTo now = "2 minutes ago" ∧ d.relativeTo now = "a minute ago" ∧
      Phrase.oneMinute ≤ .minutes 2 ∧ now.relativeTo d = "in a minute" := by
  intro e d now
  have hearlier : e.relativeTo now = "2 minutes ago" := by
    rw [relativeTo_eq, phraseFrom, show e.secondsUntil now = 90 by decide]
    decide
  have hlater : d.relativeTo now = "a minute ago" := by
    rw [relativeTo_eq, phraseFrom, show d.secondsUntil now = 89 by decide]
    decide
  have he : e.OnClock :=
    onClock_of_read? (show read? "2016-12-31T23:59:60.5Z" = some e by decide)
  have hd : d.OnClock := onClock_of_read? (show read? "2017-01-01T00:00:01.5Z" = some d by decide)
  have hnow : now.OnClock :=
    onClock_of_read? (show read? "2017-01-01T00:01:31Z" = some now by decide)
  obtain ⟨hordered, -, hsame⟩ := relativeTo_ordered he hd hnow
  obtain ⟨p, q, hp, hq, hle⟩ := hordered (by decide) (by decide) (.inr (by decide))
  obtain rfl := (hp (.minutes 2)).1 hearlier
  obtain rfl := (hq .oneMinute).1 hlater
  exact ⟨hearlier, hlater, hle, (hsame (by decide) "a minute").1 hlater⟩

/-- A leap second reaches into the second behind it, so that less time may have passed since a
moment in it than since the midnight that follows. -/
theorem relativeTo_midLeapSecond :
    ∃ e d now : Moment, Moment.read? "2016-12-31T23:59:60.5Z" = some e ∧
      Moment.read? "2017-01-01T00:00:00Z" = some d ∧
      Moment.read? "2017-01-01T00:00:45Z" = some now ∧ e ≤ d ∧ d ≤ now ∧
      e.relativeTo now = Phrase.fewSeconds.text ++ " ago" ∧
      d.relativeTo now = Phrase.oneMinute.text ++ " ago" ∧
      ¬Phrase.oneMinute ≤ Phrase.fewSeconds := by
  let e : Moment := { day := ⟨2016, 12, 31⟩, second := 86399, nano := 1500000000 }
  let d : Moment := { day := ⟨2017, 1, 1⟩, second := 0, nano := 0 }
  let now : Moment := { day := ⟨2017, 1, 1⟩, second := 45, nano := 0 }
  refine ⟨e, d, now, by decide, by decide, by decide, by decide, by decide, ?_, ?_, ?_⟩
  · rw [relativeTo_eq, phraseFrom, show e.secondsUntil now = 44 by decide]
    rfl
  · rw [relativeTo_eq, phraseFrom, show d.secondsUntil now = 45 by decide]
    rfl
  · rw [Phrase.le_iff]
    decide

end BlogTheme.Date.Moment
