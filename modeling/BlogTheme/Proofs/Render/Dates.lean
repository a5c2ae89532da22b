import BlogTheme.Proofs.Date.Format
import BlogTheme.Proofs.Html.Escaped
import BlogTheme.Proofs.Render.Expressions

/-!
# Dates read and written

The helper `date` reads a text in the fixed form and writes it in a format. In the format that has
all the fields the text is written as it was read if it is in the time of Greenwich, else it is
written in the time of Greenwich (`Page.render_date`).
-/

namespace BlogTheme

open Date (Moment Offset WallTime)
open Template (Argument Invocation Node)

/-- The characters of a wall time are not special in HTML. -/
theorem Date.WallTime.notMem_special (t : WallTime) : ∀ c ∈ t.chars ['Z'], c ∉ Html.special := by
  have hpadded (width n : Nat) : ∀ c ∈ Text.padded width n, c ∉ Html.special := fun _ hc =>
    Html.notMem_special_of_isDigit (Text.isDigit_of_mem_padded hc)
  simp only [WallTime.chars, List.forall_mem_append, List.forall_mem_cons]
  exact ⟨hpadded _ _, by decide, hpadded _ _, by decide, hpadded _ _, by decide, hpadded _ _,
    by decide, hpadded _ _, by decide, hpadded _ _, by decide, List.forall_mem_nil _⟩

theorem Date.WallTime.escape_text (t : WallTime) : Html.escape (t.text ['Z']) = t.text ['Z'] :=
  Html.escape_of_notMem fun c hc => t.notMem_special c <| by
    rwa [WallTime.text, String.toList_ofList] at hc

namespace Page

/-- In the state `st` this is a call of `date` for a text, with the format that has all the fields
of a date. -/
structure FormatsText (page : Page) (st : RenderState) (i : Invocation) (text : String) : Prop where
  name : i.name = "date"
  argument : ∃ a rest, i.params = a :: rest ∧ page.Evaluates st a (.text text)
  format : ∃ v, page.Keyed st i "format" (some v) ∧ v.toText = "YYYY-MM-DD[T]HH:mm:ss[Z]"
  timeago : page.Keyed st i "timeago" none

variable {page : Page} {st : RenderState} {i : Invocation}

theorem planExpression_date (hhelpers : page.helpers = .builtin) {text : String} {m : Moment}
    (h : page.FormatsText st i text) (hm : Moment.readStrict text = .ok m) :
    page.planExpression st.toFrame i =
      .ok (.write (.text (m.format "YYYY-MM-DD[T]HH:mm:ss[Z]"))) := by
  obtain ⟨hname, ⟨a, rest, hparams, ha⟩, ⟨v, hformat, hv⟩, htimeago⟩ := h
  have hcall : (page.callAt st.toFrame i).params =
      page.givenAt st.toFrame a :: rest.map (page.givenAt st.toFrame) := by
    rw [callAt, hparams]
    rfl
  rw [planExpression_reader (r := .date) hhelpers (by rw [hname]; rfl)]
  simp only [planReader, Reader.read, Reading.date, hcall, List.isEmpty_cons, Call.first, givenAt,
    ha.valueAt, Reading.tell, Reading.moment?, hm, htimeago.flag, hformat.text?, hv, bind,
    Except.bind, pure, Except.pure, Bool.false_eq_true, if_false, Option.map_some, Option.getD_some]
  rfl

/-- What is read as a moment is written with all its fields. -/
theorem run_render_date (hhelpers : page.helpers = .builtin) {text : String} {u : WallTime}
    (h : page.FormatsText st i text) (hread : Moment.readStrict text = .ok u.moment)
    (hu : u.HasFullYear) (escaped : Bool) :
    (page.render [.expression i escaped]).run st = .ok (u.text ['Z']) st := by
  have hplan := planExpression_date hhelpers h hread
  rw [WallTime.format_moment hu] at hplan
  rw [run_render_write hplan, Frame.write, Value.toText, u.escape_text, ite_self]

/-- A wall time of Greenwich with a year of four digits is written as it stands by the format that
has all its fields. With an offset in place of `Z` the only wall time of Greenwich at the same
instant is written, if its year has four digits. -/
theorem render_date (hhelpers : page.helpers = .builtin) {t : WallTime} (ht : t.HasFullYear) :
    (page.FormatsText st i (t.text ['Z']) → ∀ escaped,
      (page.render [.expression i escaped]).run st = .ok (t.text ['Z']) st) ∧
    ∀ o : Offset, page.FormatsText st i (t.text o.chars) →
      ∃ u : WallTime, (∀ v : WallTime, v.moment.instant = t.moment.instant - o.seconds ↔ v = u) ∧
        (u.HasFullYear → ∀ escaped,
          (page.render [.expression i escaped]).run st = .ok (u.text ['Z']) st) := by
  constructor
  · intro h escaped
    obtain ⟨u, hu, hunique⟩ := t.exists_ofOffset_eq 0
    obtain rfl : t = u := (hunique t).1 (by omega)
    have hzone : Date.Strict.offset ['Z'] = .ok (0, []) := rfl
    have hread := WallTime.readStrict_text ht hzone (by decide) (by decide)
    exact run_render_date hhelpers h (hu ▸ hread) ht escaped
  · intro o h
    obtain ⟨u, hu, hunique⟩ := t.exists_ofOffset_eq o.seconds
    have hread := WallTime.readStrict_text ht o.offset_chars o.seconds_bounds.1 o.seconds_bounds.2
    exact ⟨u, hunique, run_render_date hhelpers h (hu ▸ hread)⟩

/-- Half past midnight on 1 March of a leap year, an hour to the east, is still in February. -/
theorem render_date_leapDay :
    let dateOf (text : String) : Invocation :=
      { name := "date"
        params := [.string text]
        hash := [("format", .string "YYYY-MM-DD[T]HH:mm:ss[Z]")]
        span := default }
    let st := RenderState.start .root
    ∀ escaped,
      (bare.render [.expression (dateOf "2024-02-29T23:30:00Z") escaped]).run st =
        .ok "2024-02-29T23:30:00Z" st ∧
      (bare.render [.expression (dateOf "2024-03-01T00:30:00+01:00") escaped]).run st =
        .ok "2024-02-29T23:30:00Z" st := by
  intro dateOf st escaped
  let february : WallTime :=
    ⟨⟨2024, 2, 29⟩, 23, 30, 0, by decide, by decide, by decide, by decide⟩
  let march : WallTime := ⟨⟨2024, 3, 1⟩, 0, 30, 0, by decide, by decide, by decide, by decide⟩
  let east : Offset := ⟨true, 1, 0, by decide, by decide⟩
  have htext {t : WallTime} {zone : List Char} {s : String} (h : t.chars zone = s.toList) :
      s = t.text zone := by
    rw [WallTime.text, h, String.ofList_toList]
  have hfebruary : "2024-02-29T23:30:00Z" = february.text ['Z'] := htext (by decide)
  have hmarch : "2024-03-01T00:30:00+01:00" = march.text east.chars := htext (by decide)
  have hformats (text : String) : bare.FormatsText st (dateOf text) text :=
    { name := rfl
      argument := ⟨_, _, rfl, fun _ => rfl⟩
      format := ⟨.text "YYYY-MM-DD[T]HH:mm:ss[Z]", ⟨_, rfl, fun _ => rfl⟩, rfl⟩
      timeago := rfl }
  rw [hfebruary, hmarch]
  constructor
  · exact (render_date (t := february) rfl ⟨by decide, by decide⟩).1 (hformats _) escaped
  · obtain ⟨u, hunique, hwrites⟩ :=
      (render_date (t := march) rfl ⟨by decide, by decide⟩).2 east (hformats _)
    obtain rfl : february = u := (hunique february).1 (by decide)
    exact hwrites ⟨by decide, by decide⟩ escaped

end Page

end BlogTheme
