import BlogTheme.Text.Blank
import Mathlib.Data.List.TakeWhile

/-!
# What trimming leaves

Trimming takes nothing away in front of a text that does not begin with a blank, nor behind
one that does not end with a blank (`trimStart_eq_self_iff`, `trimEnd_append`).
-/

namespace BlogTheme.Text

/-- Where one function takes characters out of a text and then another makes it no longer, a text
stays as it is only if it does under each of them. -/
theorem comp_eq_self_iff {f g : List Char → List Char} (hf : ∀ cs, (f cs).length ≤ cs.length)
    (hg : ∀ cs, (g cs).Sublist cs) {cs : List Char} : f (g cs) = cs ↔ g cs = cs ∧ f cs = cs := by
  constructor
  · intro h
    have hlength : cs.length ≤ (g cs).length := by
      have hle := hf (g cs)
      rwa [h] at hle
    have hsame : g cs = cs := (hg cs).eq_of_length_le hlength
    exact ⟨hsame, by rwa [hsame] at h⟩
  · rintro ⟨hsame, h⟩
    rw [hsame, h]

theorem trimStart_eq_self_iff {cs : List Char} :
    trimStart cs = cs ↔ cs.head?.any isBlank = false := by
  rw [trimStart, List.dropWhile_eq_self_iff]
  cases cs <;> simp

/-- Trimming the end of a text stops at a part that does not end with a blank. -/
theorem trimEnd_append {a : List Char} (h : a.getLast?.any isBlank = false) (b : List Char) :
    trimEnd (a ++ b) = a ++ trimEnd b := by
  have ha : a.reverse.dropWhile isBlank = a.reverse :=
    trimStart_eq_self_iff.2 (by rw [List.head?_reverse, h])
  unfold trimEnd
  rw [List.reverse_append, List.dropWhile_append]
  split
  · rename_i hblank
    rw [List.isEmpty_iff.1 hblank, ha, List.reverse_reverse, List.reverse_nil, List.append_nil]
  · rw [List.reverse_append, List.reverse_reverse]

theorem trimEnd_eq_self_iff {cs : List Char} :
    trimEnd cs = cs ↔ cs.getLast?.any isBlank = false := by
  rw [trimEnd, List.reverse_eq_iff, ← trimStart, trimStart_eq_self_iff, List.head?_reverse]

theorem trimStart_sublist (cs : List Char) : (trimStart cs).Sublist cs :=
  List.dropWhile_sublist _

theorem trimEnd_sublist (cs : List Char) : (trimEnd cs).Sublist cs := by
  have h : (cs.reverse.dropWhile isBlank).reverse.Sublist cs.reverse.reverse :=
    (List.dropWhile_sublist _).reverse
  rwa [List.reverse_reverse] at h

theorem trim_sublist (cs : List Char) : (trim cs).Sublist cs :=
  (trimEnd_sublist _).trans (trimStart_sublist cs)

/-- Nothing is trimmed from the texts without blanks at their ends, and only from those. -/
theorem trim_eq_self_iff {cs : List Char} :
    trim cs = cs ↔ cs.head?.any isBlank = false ∧ cs.getLast?.any isBlank = false := by
  rw [← trimStart_eq_self_iff, ← trimEnd_eq_self_iff]
  exact comp_eq_self_iff (fun cs => (trimEnd_sublist cs).length_le) trimStart_sublist

/-- Trimming leaves no blank at either end. -/
theorem trim_trim (cs : List Char) : trim (trim cs) = trim cs := by
  have hhead (cs : List Char) : (cs.dropWhile isBlank).head?.any isBlank = false := by
    have h := List.head?_dropWhile_not isBlank cs
    revert h
    cases (cs.dropWhile isBlank).head? <;> simp
  have hprefix : trim cs <+: trimStart cs := by
    rw [trim, trimEnd, ← List.reverse_suffix, List.reverse_reverse]
    exact List.dropWhile_suffix _
  refine trim_eq_self_iff.2 ⟨?_, ?_⟩
  · cases htrim : trim cs with
    | nil => rfl
    | cons c rest =>
      obtain ⟨b, hb⟩ := hprefix
      have h := hhead cs
      rw [htrim, List.cons_append] at hb
      rw [← trimStart, ← hb] at h
      exact h
  · rw [trim, trimEnd, List.getLast?_reverse]
    exact hhead _

/-- A text is cut after an affix that it starts with. -/
theorem dropAffix?_eq_some_iff [BEq α] [LawfulBEq α] {affix s rest : List α} :
    dropAffix? affix s = some rest ↔ affix ++ rest = s := by
  fun_induction dropAffix? affix s with
  | case1 s => simp [eq_comm]
  | case2 => simp
  | case3 a affix c s h ih => simp [ih, beq_iff_eq.1 h]
  | case4 a affix c s h => simp [mt beq_iff_eq.2 h]

end BlogTheme.Text
