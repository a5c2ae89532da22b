import BlogTheme.Theme.Error
import Mathlib.Data.List.Basic
import Mathlib.Data.Nat.Digits.Defs

/-!
# Excerpts of a source

The excerpt around a line of the source is made of the lines around it, each with its number in
front, and of a pointer directly behind the line itself (`Snippet.rows_of_le`). There is no pointer
where the source has no such line (`Snippet.rows_of_lt`). Numbers up to 9999 are padded to the width
that the pointer leaves free, so for these its mark stands under the column of the line above it
(`Snippet.pointsUnder_iff`).
-/

namespace BlogTheme.Snippet

open Text (digits)

/-! ## Rows -/

/-- The lines from number `low` to number `high`, each with its number in front. -/
def numberedLines (s : Snippet) (low high : Nat) : List String :=
  (List.range' low (high + 1 - low)).map fun number =>
    numbered number (s.lines.getD (number - 1) "")

theorem zipIdx_one (lines : List String) :
    lines.zipIdx 1 =
      (List.range' 1 lines.length).map fun number => (lines.getD (number - 1) "", number) := by
  refine List.ext_getElem (by simp) fun i h _ => ?_
  have hi : i < lines.length := by simpa using h
  simp [Nat.add_comm, hi]

/-- Numbers may be counted up to one of them, and from there on. -/
theorem range'_append_sub {a b c : Nat} (hab : a ≤ b) (hbc : b ≤ c) :
    List.range' a (b - a) ++ List.range' b (c - b) = List.range' a (c - a) := by
  have happend := List.range'_append_1 (s := a) (m := b - a) (n := c - b)
  rwa [Nat.add_sub_cancel' hab, Nat.add_comm (b - a), Nat.sub_add_sub_cancel hbc hab] at happend

/-- The numbers that lie between two bounds. -/
theorem filter_range' {low high n : Nat} (hlow : 1 ≤ low) (hhigh : high ≤ n) :
    (List.range' 1 n).filter (fun number => low ≤ number && number ≤ high) =
      List.range' low (high + 1 - low) := by
  have hnone {m k : Nat} (h : ∀ number, m ≤ number → number < m + k →
      ¬ (low ≤ number ∧ number ≤ high)) :
      (List.range' m k).filter (fun number => low ≤ number && number ≤ high) = [] := by
    refine List.filter_eq_nil_iff.2 fun number hnumber => ?_
    obtain ⟨hm, hk⟩ := List.mem_range'_1.1 hnumber
    simpa using h number hm hk
  -- If the bounds are in order, the numbers before the lower and after the upper one fall away.
  by_cases hbounds : low ≤ high + 1
  · have hsplit : List.range' 1 (low - 1) ++ (List.range' low (high + 1 - low) ++
        List.range' (high + 1) (n + 1 - (high + 1))) = List.range' 1 n := by
      rw [range'_append_sub hbounds (Nat.succ_le_succ hhigh), range'_append_sub hlow (by omega)]
      rfl
    have hall : (List.range' low (high + 1 - low)).filter
        (fun number => low ≤ number && number ≤ high) = List.range' low (high + 1 - low) := by
      refine List.filter_eq_self.2 fun number hnumber => ?_
      have hmem := List.mem_range'_1.1 hnumber
      have hwithin : low ≤ number ∧ number ≤ high := by omega
      simpa using hwithin
    rw [← hsplit, List.filter_append, List.filter_append, hall, hnone (by omega),
      hnone (by omega), List.nil_append, List.append_nil]
  · rw [hnone (by omega), Nat.sub_eq_zero_of_le (by omega)]
    rfl

/-- The row of a number, and the pointer behind it if it is that of the place. -/
def rowsOf (s : Snippet) (number : Nat) : List String :=
  numbered number (s.lines.getD (number - 1) "") ::
    if number = s.line then [pointer s.column] else []

theorem rows_eq (s : Snippet) :
    s.rows = (List.range' s.first (s.last + 1 - s.first)).flatMap s.rowsOf := by
  have hfirst : 1 ≤ s.first := Nat.le_max_left ..
  have hlast : s.last ≤ s.lines.length := Nat.min_le_right ..
  rw [rows, zipIdx_one, List.filter_map, List.flatMap_map]
  exact congrArg (List.flatMap s.rowsOf) (filter_range' hfirst hlast)

theorem flatMap_rowsOf {s : Snippet} {low high : Nat} (h : high < s.line ∨ s.line < low) :
    (List.range' low (high + 1 - low)).flatMap s.rowsOf = s.numberedLines low high := by
  rw [numberedLines, List.map_eq_flatMap]
  refine List.flatMap_congr fun number hnumber => ?_
  have hmem := List.mem_range'_1.1 hnumber
  have hne : number ≠ s.line := by omega
  rw [rowsOf, if_neg hne]

theorem numberedLines_append (s : Snippet) {low mid high : Nat} (hlow : low ≤ mid + 1)
    (hhigh : mid ≤ high) :
    s.numberedLines low mid ++ s.numberedLines (mid + 1) high = s.numberedLines low high := by
  rw [numberedLines, numberedLines, numberedLines, ← List.map_append,
    range'_append_sub hlow (Nat.succ_le_succ hhigh)]

theorem numberedLines_self (s : Snippet) (number : Nat) :
    s.numberedLines number number = [numbered number (s.lines.getD (number - 1) "")] := by
  rw [numberedLines, Nat.add_sub_cancel_left]
  rfl

/-- Where the source has the line, the excerpt shows the lines around it, and directly behind it the
only pointer. -/
theorem rows_of_le {s : Snippet} (hpos : 1 ≤ s.line) (h : s.line ≤ s.lines.length) :
    s.rows = s.numberedLines s.first s.line ++
      pointer s.column :: s.numberedLines (s.line + 1) s.last := by
  obtain ⟨above, hline⟩ := Nat.exists_eq_add_of_le' hpos
  have hfirst : s.first ≤ above + 1 := by
    unfold first
    omega
  have hlast : above + 1 ≤ s.last := by
    unfold last
    omega
  have hshown : s.numberedLines s.first s.line =
      s.numberedLines s.first above ++ [numbered s.line (s.lines.getD (s.line - 1) "")] := by
    rw [← numberedLines_self, hline, numberedLines_append s hfirst (Nat.le_succ above)]
  have hsplit : List.range' s.first (s.last + 1 - s.first) =
      List.range' s.first (above + 1 - s.first) ++
        s.line :: List.range' (s.line + 1) (s.last + 1 - (s.line + 1)) := by
    rw [← range'_append_sub hfirst (Nat.le_succ_of_le hlast), hline,
      show s.last + 1 - (above + 1) = s.last + 1 - (above + 1 + 1) + 1 by omega, List.range'_succ]
  rw [rows_eq, hsplit, List.flatMap_append, List.flatMap_cons, flatMap_rowsOf (.inl (by omega)),
    flatMap_rowsOf (.inr (by omega)), rowsOf, if_pos rfl, hshown, List.append_assoc]
  rfl

/-- Where the source has no such line, there is no pointer. -/
theorem rows_of_lt {s : Snippet} (h : s.lines.length < s.line) :
    s.rows = s.numberedLines s.first s.lines.length := by
  have hlast : s.last = s.lines.length := by
    unfold last
    omega
  rw [rows_eq, hlast]
  exact flatMap_rowsOf (.inl h)

/-! ## Columns -/

/-- What stands in front of a line. -/
def margin (number : Nat) : List Char :=
  List.replicate (4 - (digits number).length) ' ' ++ digits number ++ " | ".toList

theorem toList_numbered (number : Nat) (line : String) :
    (numbered number line).toList = margin number ++ (line.toList ++ ['\n']) := by
  simp [numbered, margin]

theorem length_margin (number : Nat) :
    (margin number).length = max 4 (digits number).length + 3 := by
  simp only [margin, List.length_append, List.length_replicate]
  show _ + 3 = _
  omega

theorem toList_pointer (column : Nat) :
    (pointer column).toList =
      "     | ".toList ++ (List.replicate (column - 1) ' ' ++ ['^', '\n']) := by
  simp [pointer]

theorem idxOf_mark (column : Nat) : (pointer column).toList.idxOf '^' = 7 + (column - 1) := by
  have hspaces : '^' ∉ List.replicate (column - 1) ' ' := fun h => by
    cases List.eq_of_mem_replicate h
  rw [toList_pointer, List.idxOf_append_of_notMem (by decide),
    List.idxOf_append_of_notMem hspaces, List.length_replicate]
  rfl

theorem count_mark (column : Nat) : (pointer column).toList.count '^' = 1 := by
  have hspaces : '^' ∉ List.replicate (column - 1) ' ' := fun h => by
    cases List.eq_of_mem_replicate h
  rw [toList_pointer, List.count_append, List.count_append, List.count_eq_zero.2 hspaces]
  rfl

/-- The pointer has its one mark under a column of the line that is shown with this number: there
are as many characters in front of the mark as in front of the column. -/
def PointsUnder (number column : Nat) : Prop :=
  (pointer column).toList.count '^' = 1 ∧
    ∀ line : String, ∃ front, (numbered number line).toList = front ++ (line.toList ++ ['\n']) ∧
      (pointer column).toList.idxOf '^' = front.length + (column - 1)

/-- The pointer has its mark under the column exactly if the number of the line has at most four
digits. -/
theorem pointsUnder_iff (number column : Nat) : PointsUnder number column ↔ number < 10000 := by
  have hdigits : (digits number).length ≤ 4 ↔ number < 10000 :=
    Nat.length_toDigits_le_iff (by decide) (by decide)
  have hmark : (pointer column).toList.idxOf '^' = (margin number).length + (column - 1) ↔
      number < 10000 := by
    rw [idxOf_mark, length_margin, ← hdigits]
    omega
  rw [← hmark]
  constructor
  · rintro ⟨-, hunder⟩
    obtain ⟨front, hfront, hidx⟩ := hunder ""
    rw [toList_numbered, List.append_left_inj] at hfront
    rw [hfront, hidx]
  · exact fun h => ⟨count_mark column, fun line => ⟨margin number, toList_numbered .., h⟩⟩

end BlogTheme.Snippet
