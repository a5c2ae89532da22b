import BlogTheme.Proofs.Template.Balanced
import BlogTheme.Proofs.Template.Places
import BlogTheme.Proofs.Text.Lines
import BlogTheme.Proofs.Theme.Excerpts

/-!
# Where faults are

The fault of a source is at a place in it: where the furthest of the rules tried in vain was tried,
or at the tag or the number that does not fit (`parseBody_error_isIn`). A place is in one of the
lines of the source, unless it is the end of a source that ends with a line feed
(`line_le_length_lines`). So except there the excerpt in the error shows the line of the fault and
points into it (`parse_error_shown`).
-/

namespace BlogTheme.Template

open Text (EndsLine length_lines)

/-! ## Faults -/

/-- The line and column of the fault are those of a place in the source. -/
def FaultAt.IsIn (source : List Char) (f : FaultAt) : Prop :=
  ∃ p : Position, p.IsIn source ∧ f.line = p.line ∧ f.column = p.column

theorem Position.IsIn.fault {source : List Char} {p : Position} (h : p.IsIn source)
    (fault : ParseFault) : (p.fault fault).IsIn source :=
  ⟨p, h, rfl, rfl⟩

namespace Placed.IsReadIn

variable {source : List Char} {p : Placed}

theorem start (h : p.IsReadIn source) : p.start.IsIn source := by
  obtain ⟨before, rest, -, hsource, hposition, -⟩ := h
  exact ⟨before, rest, hsource, hposition⟩

theorem segment (h : p.IsReadIn source) : p.segment.IsIn source := by
  obtain ⟨before, rest, _, hsource, hposition, hread⟩ := h
  exact (Segment.one_staysIn.read _ _ _ ⟨before, hsource, hposition⟩ hread).2

end Placed.IsReadIn

/-- A number in excess is a fault at its place. -/
theorem Segment.IsIn.firstExcess? {source : List Char} {s : Segment} (h : s.IsIn source)
    {f : FaultAt} (hf : firstExcess? s.words = some f) : f.IsIn source := by
  obtain ⟨w, hw, hexcess⟩ := List.exists_of_findSome?_eq_some hf
  cases w with
  | number literal place =>
    simp only [Word.excess?] at hexcess
    split at hexcess
    · cases hexcess
      exact (h _ hw _ _ rfl).fault _
    · cases hexcess
  | _ => cases hexcess

theorem Offends.isIn {source : List Char} {stack : List Opening} {p : Placed} {f : FaultAt}
    (h : Offends stack p f) (hp : p.IsReadIn source) : f.IsIn source := by
  cases h with
  | number hwords => exact hp.segment.firstExcess? hwords
  | inverseOutside | secondInverse | unexpectedClose | mismatchedClose => exact hp.start.fault _

/-- A block that is open was opened by a tag. -/
theorem OpenAfter.span_eq {ps : List Placed} {b : Opening} {outer : List Opening}
    (h : OpenAfter ps (b :: outer)) : ∃ o ∈ ps, b.span = o.span := by
  cases h with
  | body | inverse => exact ⟨_, List.mem_append_right _ List.mem_cons_self, rfl⟩

theorem FirstFault.isIn {source : List Char} {ps : List Placed} {f : FaultAt}
    (h : FirstFault ps f) (hps : ∀ p ∈ ps, p.IsReadIn source) : f.IsIn source := by
  cases h with
  | offence hsplit _ hoffends =>
    obtain ⟨_, -, hoffends⟩ := hoffends
    refine hoffends.isIn (hps _ ?_)
    rw [hsplit]
    exact List.mem_append_right _ List.mem_cons_self
  | unclosed _ hopen =>
    obtain ⟨o, ho, hspan⟩ := hopen.span_eq
    refine ⟨o.start, (hps o ho).start, ?_, ?_⟩
    · rw [hspan]
      rfl
    · rw [hspan]
      rfl

/-- The rules tried in vain behind the last segment were tried at places in the source. -/
theorem Segment.vainAttempts_isIn {source : List Char} {c : Cursor} (hc : c.IsIn source) :
    (vainAttempts c).IsIn source := by
  have hstart : Position.start.IsIn source := (Cursor.IsIn.start source).position
  have hnote : (one.note c .none).IsIn source := one_staysIn.note c .none hc hstart
  exact (hnote.fail hc.position .endOfInput _).fail hstart .template 0

/-- The fault of a source is at a place in it. -/
theorem parseBody_error_isIn {source : List Char} {f : FaultAt} (h : parseBody source = .error f) :
    f.IsIn source := by
  obtain ⟨hstuck, hps⟩ := Segment.sequence_isIn source
  unfold parseBody at h
  generalize Segment.sequence source = segments at h hstuck hps
  obtain ⟨ps, stuck⟩ := segments
  simp only at h
  split at h
  · exact (nest_error_iff.1 h).isIn hps
  · cases h
    exact (Segment.vainAttempts_isIn hstuck).fault _

/-! ## Lines of places -/

/-- A place is in one of the lines of a source, unless nothing is behind it and the source is empty
or ends with a line feed. Then it is in the line after the last. -/
theorem line_le_length_lines (before rest : List Char) :
    if rest = [] ∧ EndsLine before then
      1 + before.count '\n' = (Text.lines (before ++ rest)).length + 1
    else 1 + before.count '\n' ≤ (Text.lines (before ++ rest)).length := by
  rw [length_lines, List.count_append]
  by_cases hrest : rest = []
  · subst hrest
    simp only [true_and, List.append_nil, List.count_nil, Nat.add_zero]
    split <;> omega
  · rw [if_neg fun h => hrest h.1]
    split
    · rename_i hends
      -- The rest has the line feed that the source ends with.
      have hlast : rest.getLast? = some '\n' := by
        have hends := hends.resolve_left fun h => hrest (List.append_eq_nil_iff.1 h).2
        rwa [List.getLast?_append_of_ne_nil _ hrest] at hends
      have hcount := List.count_pos_iff.2 (List.mem_of_getLast? hlast)
      omega
    · omega

/-- The fault of a source, if it has one. -/
def fault? (source : List Char) : Option FaultAt :=
  match parseBody source with
  | .error f => some f
  | .ok _ => none

theorem fault?_eq_some {source : List Char} {f : FaultAt} :
    fault? source = some f ↔ parseBody source = .error f := by
  unfold fault?
  cases parseBody source <;> simp

theorem parse_error_iff {source name : String} {error : ThemeError} :
    parse source name = .error error ↔
      ∃ f, fault? source.toList = some f ∧ error = f.error source name := by
  unfold parse fault?
  cases parseBody source.toList with
  | error f => simp [eq_comm]
  | ok body => simp

/-! ## Excerpts of faults -/

/-- The error of a source that cannot be parsed has the name of the template and the line and column
of a place in the source, and its excerpt shows the lines around that place, each with its number.
Unless the place is behind the last line feed of a source that ends with one, its line is one of
them, and directly behind it there is the one pointer. The mark of the pointer stands under the
column of that line if the number of the line has at most four digits. -/
theorem parse_error_shown {source name : String} {error : ThemeError}
    (h : parse source name = .error error) :
    ∃ (e : ParseError) (before rest : List Char), error = .parse e ∧ e.file = name ∧
      source.toList = before ++ rest ∧ e.line = 1 + before.count '\n' ∧
      e.column = 1 + (lastLine before).length ∧ e.snippet = .of source e.line e.column ∧
      (if rest = [] ∧ before.getLast? = some '\n' then
        e.line = (Text.lines source.toList).length + 1 ∧
        e.snippet.text = String.join
          (e.snippet.numberedLines (max 1 (e.line - 3)) (Text.lines source.toList).length)
      else
        e.line ≤ (Text.lines source.toList).length ∧
        e.snippet.text = String.join (e.snippet.numberedLines (max 1 (e.line - 3)) e.line ++
          Snippet.pointer e.column :: e.snippet.numberedLines (e.line + 1)
            (min (e.line + 3) (Text.lines source.toList).length))) ∧
      (Snippet.PointsUnder e.line e.column ↔ e.line < 10000) := by
  obtain ⟨f, hf, rfl⟩ := parse_error_iff.1 h
  obtain ⟨_, ⟨before, rest, hsource, rfl⟩, hline, hcolumn⟩ :=
    parseBody_error_isIn (fault?_eq_some.1 hf)
  rw [Position.start_after] at hline hcolumn
  replace hline : f.line = 1 + before.count '\n' := hline
  let snippet := Snippet.of source f.line f.column
  have hlength : snippet.lines.length = (Text.lines source.toList).length := List.length_map _
  -- The empty source can be parsed, so the source ends with a line feed.
  have hends : rest = [] ∧ EndsLine before ↔ rest = [] ∧ before.getLast? = some '\n' := by
    refine and_congr_right fun hrest => or_iff_right fun hbefore => ?_
    rw [hsource, hrest, hbefore] at hf
    cases hf
  have hplace := line_le_length_lines before rest
  rw [← hsource, if_congr hends rfl rfl] at hplace
  refine ⟨_, before, rest, rfl, rfl, hsource, hline, hcolumn, rfl, ?_,
    Snippet.pointsUnder_iff f.line f.column⟩
  split
  · rename_i hend
    rw [if_pos hend, ← hline] at hplace
    have hbeyond : snippet.lines.length < snippet.line := hlength ▸ hplace.ge
    refine ⟨hplace, congrArg String.join ?_⟩
    rw [← hlength]
    exact Snippet.rows_of_lt hbeyond
  · rename_i hend
    rw [if_neg hend, ← hline] at hplace
    have hpos : 1 ≤ snippet.line := by
      show 1 ≤ f.line
      rw [hline]
      exact Nat.le_add_right 1 _
    have hwithin : snippet.line ≤ snippet.lines.length := hlength ▸ hplace
    refine ⟨hplace, congrArg String.join ?_⟩
    rw [← hlength]
    exact Snippet.rows_of_le hpos hwithin

/-- A block that stays open. -/
theorem parse_error_shown_unclosed :
    let source := "a\n\x7b\x7b#if b\x7d\x7d\nc"
    ∃ e : ParseError, parse source "page" = .error (.parse e) ∧ e.file = "page" ∧
      e.line = 2 ∧ e.column = 1 ∧ e.line ≤ (Text.lines source.toList).length ∧
      e.snippet.text = "   1 | a\n   2 | \x7b\x7b#if b\x7d\x7d\n     | ^\n   3 | c\n" := by
  intro source
  let f : FaultAt := { fault := .unclosed "if", line := 2, column := 1 }
  have hf : fault? source.toList = some f := by decide +kernel
  have hparse : parse source "page" = .error (f.error source "page") :=
    parse_error_iff.2 ⟨f, hf, rfl⟩
  obtain ⟨e, before, rest, herror, hfile, -, -, -, -, hshown, -⟩ := parse_error_shown hparse
  cases herror
  have hhere : ¬ (rest = [] ∧ before.getLast? = some '\n') := fun h => by
    rw [if_pos h] at hshown
    exact absurd hshown.1 (by decide +kernel)
  rw [if_neg hhere] at hshown
  exact ⟨_, hparse, hfile, rfl, rfl, hshown.1, by decide +kernel⟩

/-- Where a source ends with a line feed in the middle of a tag, the error is in a line that the
source has not, and its excerpt has no pointer. -/
theorem parse_error_beyond_last_line :
    let source := "\x7b\x7b\n"
    (∃ e : ParseError, parse source "page" = .error (.parse e) ∧ e.line = 2 ∧ e.column = 1 ∧
      e.snippet.text = "   1 | \x7b\x7b\n") ∧
    (Text.lines source.toList).length = 1 := by
  intro source
  let f : FaultAt := { fault := .expected [.path], line := 2, column := 1 }
  have hf : fault? source.toList = some f := by decide +kernel
  exact ⟨⟨_, parse_error_iff.2 ⟨f, hf, rfl⟩, rfl, rfl, by decide +kernel⟩, by decide⟩

end BlogTheme.Template
