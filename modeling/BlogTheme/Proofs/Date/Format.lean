import BlogTheme.Date.Format
import BlogTheme.Proofs.Date.Reading

/-!
# Writing dates in a format

A format is written step by step: text between brackets stands for itself
(`Moment.formatChars_bracket`), a token for its part of the date (`Moment.formatChars_token`), and
every other character for itself (`Moment.formatChars_other`). The format that has all fields of a
wall time writes it as it is read (`WallTime.format_moment`).
-/

namespace BlogTheme.Date

open BlogTheme.Text

namespace Moment

variable (m : Moment)

theorem formatChars_bracket {t : List Char} (h : ']' ∉ t) (rest : List Char) :
    m.formatChars ('[' :: (t ++ ']' :: rest)) = t ++ m.formatChars rest := by
  have hinside : ∀ c ∈ t, (c != ']') = true := fun c hc => by
    rw [bne_iff_ne]
    rintro rfl
    exact h hc
  have hmem : ']' ∈ t ++ ']' :: rest := List.mem_append_right _ List.mem_cons_self
  rw [formatChars, if_pos ⟨rfl, hmem⟩, List.takeWhile_append_of_pos hinside,
    List.dropWhile_append_of_pos hinside, List.takeWhile_cons_of_neg (by decide),
    List.dropWhile_cons_of_neg (by decide), List.append_nil]
  rfl

theorem formatChars_token {token : Token} {rest : List Char}
    (h : Token.longest? (token.name.toList ++ rest) = some token) :
    m.formatChars (token.name.toList ++ rest) = token.write m ++ m.formatChars rest := by
  obtain ⟨c, cs, hname, hc⟩ : ∃ c cs, token.name.toList = c :: cs ∧ c ≠ '[' := by
    cases token <;> exact ⟨_, _, rfl, by decide⟩
  have hlength : token.name.length - 1 = cs.length := by
    rw [← String.length_toList, hname]
    rfl
  rw [hname, List.cons_append] at h ⊢
  rw [formatChars, if_neg (by simp [hc]), h]
  simp only [hlength, List.drop_left]

theorem formatChars_other {c : Char} {rest : List Char} (hc : c ≠ '[')
    (h : Token.longest? (c :: rest) = none) :
    m.formatChars (c :: rest) = c :: m.formatChars rest := by
  rw [formatChars, if_neg (by simp [hc]), h]

end Moment

namespace WallTime

variable {t : WallTime}

theorem write_year (h : t.HasFullYear) :
    Token.year.write t.moment = padded 4 t.day.year.toNat := by
  have hfirst : 1000 ≤ t.day.year := h.1
  have habs : t.day.year.natAbs = t.day.year.toNat := by omega
  show intDigits t.day.year = _
  rw [intDigits, if_neg (by omega), padded_of_le (by decide) (show 10 ^ 3 ≤ _ by omega), habs]

/-- All fields of a wall time in their order, as they are read. -/
theorem format_moment (h : t.HasFullYear) :
    t.moment.format "YYYY-MM-DD[T]HH:mm:ss[Z]" = t.text ['Z'] := by
  have hformat : "YYYY-MM-DD[T]HH:mm:ss[Z]".toList =
      Token.year.name.toList ++ '-' :: (Token.paddedMonth.name.toList ++ '-' ::
        (Token.paddedDay.name.toList ++ '[' :: (['T'] ++ ']' ::
          (Token.paddedHour.name.toList ++ ':' :: (Token.minute.name.toList ++ ':' ::
            (Token.second.name.toList ++ '[' :: (['Z'] ++ [']']))))))) := rfl
  rw [Moment.format, hformat, Moment.formatChars_token _ (by decide),
    Moment.formatChars_other _ (by decide) (by decide), Moment.formatChars_token _ (by decide),
    Moment.formatChars_other _ (by decide) (by decide), Moment.formatChars_token _ (by decide),
    Moment.formatChars_bracket _ (by decide), Moment.formatChars_token _ (by decide),
    Moment.formatChars_other _ (by decide) (by decide), Moment.formatChars_token _ (by decide),
    Moment.formatChars_other _ (by decide) (by decide), Moment.formatChars_token _ (by decide),
    Moment.formatChars_bracket _ (by decide), Moment.formatChars, write_year h]
  simp only [Token.write, hour_moment, minute_moment, second_moment]
  rfl

end WallTime

end BlogTheme.Date
