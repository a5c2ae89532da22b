import BlogTheme.Text.Lines
import Mathlib.Data.List.Basic

/-!
# Counting lines

A text has one line for each line feed, and one more for what follows the last of them, unless
nothing does (`length_lines`).
-/

namespace BlogTheme.Text

theorem rawLines_ne_nil (cs : List Char) : rawLines cs ≠ [] := by
  cases cs with
  | nil => exact List.cons_ne_nil _ _
  | cons c cs =>
    rw [rawLines]
    split
    · exact List.cons_ne_nil _ _
    · split <;> exact List.cons_ne_nil _ _

theorem rawLines_newline (cs : List Char) : rawLines ('\n' :: cs) = [] :: rawLines cs :=
  rfl

theorem rawLines_cons {c : Char} (hc : c ≠ '\n') (cs : List Char) :
    ∃ l ls, rawLines cs = l :: ls ∧ rawLines (c :: cs) = (c :: l) :: ls := by
  obtain ⟨l, ls, hcs⟩ := List.exists_cons_of_ne_nil (rawLines_ne_nil cs)
  exact ⟨l, ls, hcs, by rw [rawLines, if_neg hc, hcs]⟩

theorem length_rawLines (cs : List Char) : (rawLines cs).length = cs.count '\n' + 1 := by
  induction cs with
  | nil => rfl
  | cons c cs ih =>
    by_cases hc : c = '\n'
    · subst hc
      rw [rawLines_newline, List.length_cons, ih, List.count_cons_self]
    · obtain ⟨l, ls, hcs, hcons⟩ := rawLines_cons hc cs
      rw [hcs] at ih
      rw [hcons, List.count_cons_of_ne hc, ← ih]
      rfl

/-- A text is empty or ends with a line feed. -/
def EndsLine (cs : List Char) : Prop :=
  cs = [] ∨ cs.getLast? = some '\n'

instance (cs : List Char) : Decidable (EndsLine cs) :=
  inferInstanceAs (Decidable (_ ∨ _))

theorem endsLine_cons (c : Char) (cs : List Char) :
    EndsLine (c :: cs) ↔ if cs = [] then c = '\n' else EndsLine cs := by
  cases cs with
  | nil => simp [EndsLine]
  | cons d cs => simp [EndsLine, List.getLast?_cons_cons]

/-- Nothing stands behind the last line feed of a text that ends with one. -/
theorem getLast?_rawLines (cs : List Char) : (rawLines cs).getLast? = some [] ↔ EndsLine cs := by
  induction cs with
  | nil => simp [rawLines, EndsLine]
  | cons c cs ih =>
    rw [endsLine_cons]
    by_cases hc : c = '\n'
    · subst hc
      obtain ⟨l, ls, hcs⟩ := List.exists_cons_of_ne_nil (rawLines_ne_nil cs)
      rw [rawLines_newline, hcs, List.getLast?_cons_cons, ← hcs, ih]
      split
      · rename_i hnil
        simp [EndsLine, hnil]
      · rfl
    · obtain ⟨l, ls, hcs, hcons⟩ := rawLines_cons hc cs
      rw [hcons]
      cases ls with
      | cons l' ls =>
        have hne : cs ≠ [] := by
          rintro rfl
          cases hcs
        rw [if_neg hne, ← ih, hcs, List.getLast?_cons_cons, List.getLast?_cons_cons]
      | nil =>
        -- There is no line feed, so the text ends with another character.
        have hcount : '\n' ∉ cs := by
          have hlength := length_rawLines cs
          rw [hcs] at hlength
          exact List.count_eq_zero.1 (Nat.succ.inj hlength).symm
        have hend : ¬ EndsLine cs ∨ cs = [] := by
          by_cases hnil : cs = []
          · exact .inr hnil
          · exact .inl fun hends => hcount (List.mem_of_getLast? (hends.resolve_left hnil))
        obtain hend | rfl := hend
        · have hne : cs ≠ [] := fun hnil => hend (.inl hnil)
          simp [hne, hend]
        · simp [hc]

/-- The number of lines of a text. -/
theorem length_lines (cs : List Char) :
    (lines cs).length = if EndsLine cs then cs.count '\n' else cs.count '\n' + 1 := by
  have hlength := length_rawLines cs
  have hlast := getLast?_rawLines cs
  rw [← List.length_reverse] at hlength
  rw [List.getLast?_eq_head?_reverse] at hlast
  unfold lines
  cases hreverse : (rawLines cs).reverse with
  | nil => exact absurd (List.reverse_eq_nil_iff.1 hreverse) (rawLines_ne_nil cs)
  | cons last closed =>
    simp only [hreverse, List.length_cons, List.head?_cons, Option.some.injEq,
      Nat.add_right_cancel_iff] at hlength hlast
    simp only [List.length_append, List.length_map, List.length_reverse, hlength,
      List.isEmpty_iff, ← hlast]
    split <;> rfl

end BlogTheme.Text
