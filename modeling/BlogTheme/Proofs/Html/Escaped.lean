import BlogTheme.Html.Escape
import BlogTheme.Text.Decimal
import Mathlib.Data.List.Infix

/-!
# Escaped text

`IsEscaped` says of a text that no browser finds markup in it: none of the
delimiters of markup occurs, and every `&` begins one of the five references that escaping
writes. What `escape` gives is escaped (`isEscaped_escape`), and escaped texts can be put
together (`IsEscaped.append`).
-/

namespace BlogTheme.Html

/-- The characters that begin and end tags and attribute values. -/
def delimiters : List Char := ['<', '>', '"', '\'']

/-- The references that escaping writes. -/
def references : List String := ["&lt;", "&gt;", "&amp;", "&quot;", "&#39;"]

theorem delimiters_subset_special : delimiters ⊆ special := by
  decide

theorem notMem_special_of_isDigit {c : Char} (h : Text.isDigit c) : c ∉ special := by
  intro hc
  simp only [special, List.mem_cons, List.not_mem_nil, or_false] at hc
  obtain rfl | rfl | rfl | rfl | rfl := hc <;> exact absurd h (by decide)

/-- No delimiter occurs in the characters, and a reference begins at every `&`. -/
def EscapedChars (cs : List Char) : Prop :=
  (∀ c ∈ cs, c ∉ delimiters) ∧
    ∀ rest, '&' :: rest <:+ cs → ∃ r ∈ references, r.toList <+: '&' :: rest

/-- No delimiter occurs in a text, and a reference begins at every `&`. -/
def IsEscaped (s : String) : Prop :=
  EscapedChars s.toList

@[simp] theorem escapedChars_nil : EscapedChars [] := by
  simp [EscapedChars]

theorem escapedChars_cons {c : Char} {cs : List Char} :
    EscapedChars (c :: cs) ↔
      c ∉ delimiters ∧ (c = '&' → ∃ r ∈ references, r.toList <+: c :: cs) ∧ EscapedChars cs := by
  constructor
  · rintro ⟨hdelimiters, hreferences⟩
    refine ⟨hdelimiters c List.mem_cons_self, ?_, fun d hd => hdelimiters d (.tail _ hd),
      fun rest hrest => hreferences rest (hrest.trans (List.suffix_cons c cs))⟩
    rintro rfl
    exact hreferences cs (List.suffix_refl _)
  · rintro ⟨hc, hreference, hcs⟩
    refine ⟨fun d hd => ?_, fun rest hrest => ?_⟩
    · obtain rfl | hd := List.mem_cons.1 hd
      · exact hc
      · exact hcs.1 d hd
    · obtain h | h := List.suffix_cons_iff.1 hrest
      · obtain ⟨rfl, rfl⟩ := List.cons.inj h
        exact hreference rfl
      · exact hcs.2 rest h

theorem EscapedChars.append {a b : List Char} (ha : EscapedChars a) (hb : EscapedChars b) :
    EscapedChars (a ++ b) := by
  induction a with
  | nil => exact hb
  | cons c a ih =>
    obtain ⟨hc, hreference, ha⟩ := escapedChars_cons.1 ha
    refine escapedChars_cons.2 ⟨hc, fun h => ?_, ih ha⟩
    obtain ⟨r, hr, hprefix⟩ := hreference h
    exact ⟨r, hr, hprefix.trans (List.prefix_append (c :: a) b)⟩

/-- Characters that are neither delimiters nor `&`. -/
theorem escapedChars_of_forall {cs : List Char} (h : ∀ c ∈ cs, c ∉ '&' :: delimiters) :
    EscapedChars cs := by
  refine ⟨fun c hc hd => h c hc (.tail _ hd), fun rest hrest => ?_⟩
  exact absurd List.mem_cons_self (h '&' (hrest.subset List.mem_cons_self))

theorem escapedChars_reference {r : String} (hr : r ∈ references) : EscapedChars r.toList := by
  simp only [references, List.mem_cons, List.not_mem_nil, or_false] at hr
  obtain rfl | rfl | rfl | rfl | rfl := hr <;> simp [escapedChars_cons, delimiters, references]

theorem escapedChars_escapeChar (c : Char) : EscapedChars (escapeChar c) := by
  unfold escapeChar
  split_ifs with hlt hgt hamp hquot hapos
  · exact escapedChars_reference (r := "&lt;") (by decide)
  · exact escapedChars_reference (r := "&gt;") (by decide)
  · exact escapedChars_reference (r := "&amp;") (by decide)
  · exact escapedChars_reference (r := "&quot;") (by decide)
  · exact escapedChars_reference (r := "&#39;") (by decide)
  · refine escapedChars_of_forall fun d hd => ?_
    obtain rfl := List.mem_singleton.1 hd
    simp [delimiters, hlt, hgt, hamp, hquot, hapos]

theorem escapedChars_escapeChars (cs : List Char) : EscapedChars (escapeChars cs) := by
  induction cs with
  | nil => exact escapedChars_nil
  | cons c cs ih => exact (escapedChars_escapeChar c).append ih

/-! ## Texts -/

theorem isEscaped_empty : IsEscaped "" :=
  escapedChars_nil

theorem IsEscaped.append {a b : String} (ha : IsEscaped a) (hb : IsEscaped b) :
    IsEscaped (a ++ b) := by
  rw [IsEscaped, String.toList_append]
  exact EscapedChars.append ha hb

/-- Escaping leaves no markup. -/
theorem isEscaped_escape (s : String) : IsEscaped (escape s) := by
  rw [IsEscaped, toList_escape]
  exact escapedChars_escapeChars s.toList

end BlogTheme.Html
