import BlogTheme.Theme.Error

/-!
# Effects of rendering

What rendering a list of nodes leaves behind: the text that it writes, the
diagnostics it records, and the contents that it keeps for layouts, each in the
order in which they came about. Effects of nodes in sequence are appended.
-/

namespace BlogTheme

/-- What rendering leaves behind. -/
@[ext] structure Effects where
  html : String := ""
  diagnostics : List Diagnostic := []
  /-- Contents kept for layouts. Of two under one name the later counts. -/
  kept : List (String × String) := []
  deriving DecidableEq, Repr, Inhabited

namespace Effects

/-- No effects. -/
def empty : Effects := {}

/-- Effects of which one follows the other. -/
def append (a b : Effects) : Effects :=
  { html := a.html ++ b.html
    diagnostics := a.diagnostics ++ b.diagnostics
    kept := a.kept ++ b.kept }

instance : Append Effects := ⟨append⟩

@[simp] theorem html_append (a b : Effects) : (a ++ b).html = a.html ++ b.html := rfl
@[simp] theorem diagnostics_append (a b : Effects) :
    (a ++ b).diagnostics = a.diagnostics ++ b.diagnostics := rfl
@[simp] theorem kept_append (a b : Effects) : (a ++ b).kept = a.kept ++ b.kept := rfl

@[simp] theorem empty_append (e : Effects) : empty ++ e = e := by
  ext1 <;> simp [empty]

@[simp] theorem append_empty (e : Effects) : e ++ empty = e := by
  ext1 <;> simp [empty]

theorem append_assoc (a b c : Effects) : a ++ b ++ c = a ++ (b ++ c) := by
  ext1 <;> simp [String.append_assoc]

/-- The effect of writing a text. -/
def ofHtml (html : String) : Effects :=
  { html }

/-- The effect of recording a diagnostic. -/
def ofDiagnostic (d : Diagnostic) : Effects :=
  { diagnostics := [d] }

/-- The effects of rendering something that is kept instead of written. -/
def keep (e : Effects) (name : String) : Effects :=
  { html := "", diagnostics := e.diagnostics, kept := e.kept ++ [(name, e.html)] }

/-- Effects that follow one another. -/
def concat (es : List Effects) : Effects :=
  es.foldr append empty

@[simp] theorem concat_nil : concat [] = empty := rfl
@[simp] theorem concat_cons (e : Effects) (es : List Effects) :
    concat (e :: es) = e ++ concat es := rfl

end Effects

end BlogTheme
