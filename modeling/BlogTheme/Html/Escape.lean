/-!
# Escaping for HTML

The five characters that mean something in HTML text and attribute values are
written as references; everything else stands as it is.
-/

namespace BlogTheme.Html

/-- The characters that mean something in HTML. -/
def special : List Char := ['<', '>', '&', '"', '\'']

/-- A character as it is written in HTML text. -/
def escapeChar (c : Char) : List Char :=
  if c = '<' then ['&', 'l', 't', ';']
  else if c = '>' then ['&', 'g', 't', ';']
  else if c = '&' then ['&', 'a', 'm', 'p', ';']
  else if c = '"' then ['&', 'q', 'u', 'o', 't', ';']
  else if c = '\'' then ['&', '#', '3', '9', ';']
  else [c]

/-- A text as it is written in HTML, character by character. -/
def escapeChars (cs : List Char) : List Char :=
  cs.flatMap escapeChar

/-- A text as it is written in HTML: the text itself if nothing in it is special. -/
def escape (s : String) : String :=
  if s.toList.any special.contains then String.ofList (escapeChars s.toList) else s

@[simp] theorem escapeChars_append (a b : List Char) :
    escapeChars (a ++ b) = escapeChars a ++ escapeChars b := by
  simp [escapeChars]

theorem escapeChar_of_notMem {c : Char} (h : c ∉ special) : escapeChar c = [c] := by
  simp only [special, List.mem_cons, List.not_mem_nil, or_false, not_or] at h
  simp [escapeChar, h]

theorem escapeChars_of_notMem {cs : List Char} (h : ∀ c ∈ cs, c ∉ special) :
    escapeChars cs = cs := by
  induction cs with
  | nil => rfl
  | cons c cs ih =>
    rw [List.forall_mem_cons] at h
    rw [escapeChars, List.flatMap_cons, escapeChar_of_notMem h.1]
    exact congrArg (c :: ·) (ih h.2)

@[simp] theorem toList_escape (s : String) : (escape s).toList = escapeChars s.toList := by
  unfold escape
  split
  · exact String.toList_ofList
  · rename_i hnone
    refine (escapeChars_of_notMem fun c hc hspecial => hnone ?_).symm
    exact List.any_eq_true.2 ⟨c, hc, List.contains_iff_mem.2 hspecial⟩

/-- A text without special characters is written as it is. -/
theorem escape_of_notMem {s : String} (h : ∀ c ∈ s.toList, c ∉ special) : escape s = s := by
  apply String.toList_inj.1
  rw [toList_escape, escapeChars_of_notMem h]

theorem escape_append (a b : String) : escape (a ++ b) = escape a ++ escape b := by
  apply String.toList_inj.1
  simp

end BlogTheme.Html
