import BlogTheme.Html.PlainText
import BlogTheme.Proofs.Html.Escaped
import BlogTheme.Proofs.Text.Words

/-!
# Reading back what was escaped

Decoding takes escaping back, character by character: each reference that escaping writes is
decoded at its semicolon, and no part of it begins another (`decode_escapeChars`). An escaped
text has no tags, so its plain text is the text itself with its words one space apart
(`escape_undone`).
-/

namespace BlogTheme.Html

open BlogTheme.Text

theorem decodeFrom_escapeChar (c : Char) (rest : List Char) :
    decodeFrom none (escapeChar c ++ rest) = c :: decodeFrom none rest := by
  have hlt : reference? ['l', 't'] = some '<' := by decide
  have hgt : reference? ['g', 't'] = some '>' := by decide
  have hamp : reference? ['a', 'm', 'p'] = some '&' := by decide
  have hquot : reference? ['q', 'u', 'o', 't'] = some '"' := by decide
  have hapos : reference? ['#', '3', '9'] = some '\'' := by decide
  unfold escapeChar
  split_ifs with h h h h h <;> simp [decodeFrom, *]

/-- Decoding takes escaping back. -/
theorem decode_escapeChars (cs : List Char) : decode (escapeChars cs) = cs := by
  unfold decode escapeChars
  induction cs with
  | nil => rfl
  | cons c cs ih => rw [List.flatMap_cons, decodeFrom_escapeChar, ih]

/-- A text without `<` has no tags. -/
theorem blankTags_of_notMem {cs : List Char} (h : '<' ∉ cs) : blankTags cs = cs := by
  unfold blankTags
  induction cs with
  | nil => rfl
  | cons c cs ih =>
    obtain ⟨hc, hcs⟩ := List.ne_and_not_mem_of_not_mem_cons h
    rw [blankTagsFrom, if_neg hc.symm, ih hcs]

/-- Plain text is words one space apart. -/
theorem plainChars_eq (cs : List Char) :
    plainChars cs = unwords (words (decode (blankTags cs))) :=
  squeeze_trim _

theorem plainChars_escapeChars (cs : List Char) :
    plainChars (escapeChars cs) = squeeze (trim cs) := by
  have htags : '<' ∉ escapeChars cs := fun hmem =>
    (escapedChars_escapeChars cs).1 _ hmem List.mem_cons_self
  rw [plainChars, blankTags_of_notMem htags, decode_escapeChars]

/-- The plain text of an escaped text is the words of the text one space apart, so a text that is
single-spaced, and no other, comes back as it was, whatever markup and references it holds. Escaping
is injective, may be done part by part and leaves none of the delimiters of markup. A text without
special characters, which is not gone through, is what going through it would give. -/
theorem escape_undone :
    (∀ s, plainText (escape s) = String.ofList (unwords (words s.toList))) ∧
      (∀ s, plainText (escape s) = s ↔ SingleSpaced s.toList) ∧
      Function.Injective escape ∧
      (∀ a b, escape (a ++ b) = escape a ++ escape b) ∧
      (∀ s, ∀ c ∈ delimiters, c ∉ (escape s).toList) ∧
      ∀ s, escape s = String.ofList (escapeChars s.toList) ∧
        ((∀ c ∈ s.toList, c ∉ special) → escape s = s) := by
  have hplain (s : String) : plainText (escape s) = String.ofList (squeeze (trim s.toList)) := by
    rw [plainText, toList_escape, plainChars_escapeChars]
  refine ⟨fun s => ?_, fun s => ?_, fun a b h => ?_, escape_append, fun s c hc hmem => ?_,
    fun s => ⟨?_, escape_of_notMem⟩⟩
  · rw [hplain, squeeze_trim]
  · rw [hplain, ← squeeze_trim_eq_self_iff, ← String.toList_inj, String.toList_ofList]
  · have hchars : escapeChars a.toList = escapeChars b.toList := by
      rw [← toList_escape, ← toList_escape, h]
    have hdecoded := congrArg decode hchars
    rw [decode_escapeChars, decode_escapeChars] at hdecoded
    exact String.toList_inj.1 hdecoded
  · rw [toList_escape] at hmem
    exact (escapedChars_escapeChars s.toList).1 c hmem hc
  · rw [← toList_escape, String.ofList_toList]

/-- Markup and references that are text come back. -/
theorem escape_undone_references :
    plainText (escape "<b> &amp;lt; it&#39;s & ;</b>") = "<b> &amp;lt; it&#39;s & ;</b>" :=
  (escape_undone.2.1 _).2 (by decide)

end BlogTheme.Html
