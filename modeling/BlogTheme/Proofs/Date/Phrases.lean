import BlogTheme.Date.Relative
import BlogTheme.Proofs.Text.Decimal
import Mathlib.Data.List.Nodup
import Mathlib.Data.Prod.Lex

/-!
# Phrases in order

Phrases are ordered by their units, and those of one unit by the number that is written
(`Phrase.le_iff`). What a number of seconds comes to is opened once, by cases
(`Phrase.ofSeconds_cases`): each unit has its range of seconds (`Phrase.range_ofSeconds`), in which
the rounded number grows, so that more seconds never make a lesser phrase
(`Phrase.ofSeconds_mono`). A number that is written is at least 2 (`Phrase.two_le_number`), and a
phrase can be told from its text (`Phrase.text_injective`).
-/

namespace BlogTheme.Date

open BlogTheme.Text

theorem roundedQuotient_mono (unit : Nat) : Monotone fun n => roundedQuotient n unit :=
  fun _ _ h => Nat.div_le_div_right (by omega)

namespace Phrase

/-! ## The order -/

/-- The place of the unit: the shortest comes first, and one of a unit before several. -/
def unit : Phrase → Nat
  | fewSeconds => 0
  | oneMinute => 1
  | minutes _ => 2
  | oneHour => 3
  | hours _ => 4
  | oneDay => 5
  | days _ => 6
  | oneMonth => 7
  | months _ => 8
  | oneYear => 9
  | years _ => 10

/-- The number that is written. -/
def number? : Phrase → Option Nat
  | minutes n => some n
  | hours n => some n
  | days n => some n
  | months n => some n
  | years n => some n
  | _ => none

/-- The number that is written, 0 if there is none. -/
def number (p : Phrase) : Nat :=
  p.number?.getD 0

theorem unit_le (p : Phrase) : p.unit ≤ 10 := by
  cases p <;> simp [unit]

theorem eq_of_unit_of_number {p q : Phrase} (hunit : p.unit = q.unit)
    (hnumber : p.number = q.number) : p = q := by
  cases p <;> cases q <;> first | rfl | exact congrArg _ hnumber | cases hunit

instance : LinearOrder Phrase :=
  LinearOrder.lift' (fun p => toLex (p.unit, p.number)) fun _ _ h =>
    eq_of_unit_of_number (congrArg (fun key => (ofLex key).1) h)
      (congrArg (fun key => (ofLex key).2) h)

theorem le_iff {p q : Phrase} : p ≤ q ↔ p.unit < q.unit ∨ p.unit = q.unit ∧ p.number ≤ q.number :=
  Prod.Lex.toLex_le_toLex

/-! ## Seconds -/

/-- The number of seconds from which on a unit is used. From months on this is half a day before
the number of days with which it begins. -/
def start : Nat → Nat
  | 0 => 0
  | 1 => 45
  | 2 => 90
  | 3 => 45 * 60
  | 4 => 90 * 60
  | 5 => 22 * 3600
  | 6 => 36 * 3600
  | 7 => 51 * 43200
  | 8 => 89 * 43200
  | 9 => 639 * 43200
  | _ => 1095 * 43200

theorem start_mono : Monotone start :=
  monotone_nat_of_le_succ fun unit => by
    match unit with
    | 0 | 1 | 2 | 3 | 4 | 5 | 6 | 7 | 8 | 9 => simp [start]
    | unit + 10 => simp [start]

/-- What the phrase for a number of seconds can be. From days on the rounded number of days
decides. -/
theorem ofSeconds_cases {motive : Phrase → Prop} {s d : Nat} (hd : roundedQuotient s 86400 = d)
    (fewSeconds : s < 45 → motive fewSeconds)
    (oneMinute : 45 ≤ s → s < 90 → motive oneMinute)
    (minutes : 90 ≤ s → s < 45 * 60 → motive (minutes (roundedQuotient s 60)))
    (oneHour : 45 * 60 ≤ s → s < 90 * 60 → motive oneHour)
    (hours : 90 * 60 ≤ s → s < 22 * 3600 → motive (hours (roundedQuotient s 3600)))
    (oneDay : 22 * 3600 ≤ s → s < 36 * 3600 → motive oneDay)
    (days : 36 * 3600 ≤ s → d < 26 → motive (days d))
    (oneMonth : 26 ≤ d → d < 45 → motive oneMonth)
    (months : 45 ≤ d → d < 320 → motive (months (roundedQuotient d 30)))
    (oneYear : 320 ≤ d → d < 548 → motive oneYear)
    (years : 548 ≤ d → motive (years (roundedQuotient d 365))) : motive (ofSeconds s) := by
  subst hd
  unfold ofSeconds
  refine iteInduction fewSeconds fun h => ?_
  refine iteInduction (oneMinute (Nat.not_lt.1 h)) fun h => ?_
  refine iteInduction (minutes (Nat.not_lt.1 h)) fun h => ?_
  refine iteInduction (oneHour (Nat.not_lt.1 h)) fun h => ?_
  refine iteInduction (hours (Nat.not_lt.1 h)) fun h => ?_
  refine iteInduction (oneDay (Nat.not_lt.1 h)) fun h => ?_
  refine iteInduction (days (Nat.not_lt.1 h)) fun h => ?_
  refine iteInduction (oneMonth (Nat.not_lt.1 h)) fun h => ?_
  refine iteInduction (months (Nat.not_lt.1 h)) fun h => ?_
  exact iteInduction (oneYear (Nat.not_lt.1 h)) fun h => years (Nat.not_lt.1 h)

/-- A unit is used from where it starts up to where the next one does. -/
theorem range_ofSeconds (s : Nat) : start (ofSeconds s).unit ≤ s ∧
    ((ofSeconds s).unit < 10 → s < start ((ofSeconds s).unit + 1)) := by
  have hd : roundedQuotient s 86400 = (2 * s + 86400) / 172800 := rfl
  apply ofSeconds_cases
    (motive := fun p => start p.unit ≤ s ∧ (p.unit < 10 → s < start (p.unit + 1))) hd <;>
  · simp only [unit, start]
    omega

/-- The number of a unit in so many seconds or days, if it is one that is counted. -/
def rounded (unit seconds days : Nat) : Nat :=
  match unit with
  | 2 => roundedQuotient seconds 60
  | 4 => roundedQuotient seconds 3600
  | 6 => days
  | 8 => roundedQuotient days 30
  | 10 => roundedQuotient days 365
  | _ => 0

theorem number_ofSeconds {s d : Nat} (hd : roundedQuotient s 86400 = d) :
    (ofSeconds s).number = rounded (ofSeconds s).unit s d := by
  apply ofSeconds_cases (motive := fun p => p.number = rounded p.unit s d) hd <;>
  · intros
    rfl

theorem rounded_mono (unit : Nat) {s t d e : Nat} (hseconds : s ≤ t) (hdays : d ≤ e) :
    rounded unit s d ≤ rounded unit t e := by
  unfold rounded
  split
  · exact roundedQuotient_mono 60 hseconds
  · exact roundedQuotient_mono 3600 hseconds
  · exact hdays
  · exact roundedQuotient_mono 30 hdays
  · exact roundedQuotient_mono 365 hdays
  · exact Nat.le_refl _

theorem unit_ofSeconds_mono {s t : Nat} (h : s ≤ t) : (ofSeconds s).unit ≤ (ofSeconds t).unit := by
  by_contra hunit
  have hlast := (ofSeconds s).unit_le
  have hs := (range_ofSeconds s).1
  have ht := (range_ofSeconds t).2 (by omega)
  have hstart : start ((ofSeconds t).unit + 1) ≤ start (ofSeconds s).unit :=
    start_mono (Nat.not_le.1 hunit)
  omega

/-- More seconds never make a lesser phrase. -/
theorem ofSeconds_mono : Monotone ofSeconds := by
  intro s t h
  rw [le_iff]
  obtain hunit | hunit := Nat.lt_or_eq_of_le (unit_ofSeconds_mono h)
  · exact .inl hunit
  · rw [number_ofSeconds rfl, number_ofSeconds rfl, hunit]
    exact .inr ⟨rfl, rounded_mono _ h (roundedQuotient_mono 86400 h)⟩

/-- Nothing is counted of which there is only one. -/
theorem two_le_number {s n : Nat} : (ofSeconds s).number? = some n → 2 ≤ n := by
  have hd : roundedQuotient s 86400 = (2 * s + 86400) / 172800 := rfl
  apply ofSeconds_cases (motive := fun p => p.number? = some n → 2 ≤ n) hd <;>
    simp only [number?, roundedQuotient, Option.some.injEq, reduceCtorEq, false_imp_iff,
      implies_true]
  all_goals omega

/-! ## Texts -/

/-- What is written behind the number of a unit, or in place of it. -/
def unitWords : List String :=
  ["a few seconds", "a minute", " minutes", "an hour", " hours", "a day", " days", "a month",
   " months", "a year", " years"]

/-- The words of a phrase behind its number. -/
def words (p : Phrase) : List Char :=
  (unitWords.getD p.unit "").toList

/-- The digits of the number that is written. -/
def numeral (p : Phrase) : List Char :=
  (p.number?.map digits).getD []

theorem text_toList (p : Phrase) : p.text.toList = p.numeral ++ p.words := by
  have hcounted (n : Nat) (s : String) : (showInt n ++ s).toList = digits n ++ s.toList := by
    rw [String.toList_append, showInt, String.toList_ofList, intDigits, if_neg (by omega),
      Int.natAbs_natCast]
  cases p with
  | minutes n | hours n | days n | months n | years n => exact hcounted n _
  | _ => rfl

theorem isDigit_of_mem_numeral {p : Phrase} {c : Char} (h : c ∈ p.numeral) : isDigit c := by
  unfold numeral at h
  cases hn : p.number? with
  | none => simp [hn] at h
  | some n =>
    rw [hn] at h
    exact isDigit_of_mem_digits h

theorem digitsValue_numeral (p : Phrase) : digitsValue p.numeral = p.number := by
  unfold numeral number
  cases p.number? with
  | none => rfl
  | some n => exact digitsValue_digits n

theorem unit_inj_of_words {p q : Phrase} (h : p.words = q.words) : p.unit = q.unit := by
  have hnodup : unitWords.Nodup := by decide
  have hp : p.unit < unitWords.length := Nat.lt_succ_of_le p.unit_le
  have hq : q.unit < unitWords.length := Nat.lt_succ_of_le q.unit_le
  unfold words at h
  rw [String.toList_inj, ← List.getElem_eq_getD (h := hp), ← List.getElem_eq_getD (h := hq)] at h
  exact (List.Nodup.getElem_inj_iff hnodup).1 h

/-- Phrases with one text are one phrase. -/
theorem text_injective : Function.Injective text := by
  intro p q h
  have hword (p : Phrase) : p.words.takeWhile isDigit = [] := by
    have hall : ∀ unit ≤ 10, (unitWords.getD unit "").toList.takeWhile isDigit = [] := by decide
    exact hall _ p.unit_le
  have hnumeral (p : Phrase) : p.text.toList.takeWhile isDigit = p.numeral := by
    rw [text_toList, List.takeWhile_append_of_pos fun c => isDigit_of_mem_numeral, hword,
      List.append_nil]
  have hnumerals : p.numeral = q.numeral := by
    rw [← hnumeral p, ← hnumeral q, h]
  have hwords : p.words = q.words := by
    have htexts := congrArg String.toList h
    rw [text_toList, text_toList, hnumerals] at htexts
    exact List.append_cancel_left htexts
  refine eq_of_unit_of_number (unit_inj_of_words hwords) ?_
  rw [← digitsValue_numeral p, ← digitsValue_numeral q, hnumerals]

theorem head?_text_ne (p : Phrase) : p.text.toList.head? ≠ some 'i' := by
  rw [text_toList, List.head?_append]
  cases hnumeral : p.numeral with
  | cons c ds =>
    rintro ⟨⟩
    have hdigit := isDigit_of_mem_numeral (p := p) (c := 'i') (by simp [hnumeral])
    cases hdigit
  | nil =>
    have hall : ∀ unit ≤ 10, (unitWords.getD unit "").toList.head? ≠ some 'i' := by decide
    exact hall _ p.unit_le

theorem getLast?_text_ne (p : Phrase) : p.text.toList.getLast? ≠ some 'o' := by
  have hall : ∀ unit ≤ 10,
      (unitWords.getD unit "").toList.getLast?.map (· == 'o') = some false := by decide
  obtain ⟨c, hlast, hc⟩ := Option.map_eq_some_iff.1 (hall _ p.unit_le)
  rw [text_toList, List.getLast?_append, words, hlast]
  rintro ⟨⟩
  cases hc

end Phrase

end BlogTheme.Date
