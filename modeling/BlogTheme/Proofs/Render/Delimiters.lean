import BlogTheme.Proofs.Html.Escaped
import BlogTheme.Proofs.Render.Expressions
import BlogTheme.Proofs.Text.Decimal

/-!
# The delimiters of built-in markup

The menu, the links between pages, the tags of a post and the head of a page are written with
delimiters of their own only: the texts of a request are escaped, so no delimiter comes from them
(`Html.delimitersIn_escape`), and which delimiters there are follows from the shape of the markup
(`Markup.Shape.delimiters`). Two expressions that write markup of one shape write the same
delimiters, whatever the texts in it (`Occurrence.writes_delimiters`).
-/

namespace BlogTheme

open Template (Argument Invocation Node)

namespace Html

/-- The delimiters that occur in a text, in their order. -/
def delimitersIn (s : String) : List Char :=
  s.toList.filter (· ∈ delimiters)

@[simp] theorem delimitersIn_append (a b : String) :
    delimitersIn (a ++ b) = delimitersIn a ++ delimitersIn b := by
  simp [delimitersIn]

@[simp] theorem delimitersIn_escape (s : String) : delimitersIn (escape s) = [] :=
  List.filter_eq_nil_iff.2 fun c hc => by simpa using (isEscaped_escape s).1 c hc

@[simp] theorem delimitersIn_showInt (n : Nat) : delimitersIn (Text.showInt n) = [] := by
  rw [delimitersIn, List.filter_eq_nil_iff, Text.showInt, String.toList_ofList, Text.intDigits,
    if_neg (by omega)]
  intro c hc
  have hspecial := notMem_special_of_isDigit (Text.isDigit_of_mem_digits hc)
  rw [decide_eq_true_eq]
  exact fun hdelimiter => hspecial (delimiters_subset_special hdelimiter)

theorem delimitersIn_join (texts : List String) :
    delimitersIn (String.join texts) = texts.flatMap delimitersIn := by
  rw [delimitersIn, String.toList_join, List.filter_flatMap]
  rfl

theorem delimitersIn_intercalate {separator : String} (h : delimitersIn separator = [])
    (texts : List String) :
    delimitersIn (separator.intercalate texts) = texts.flatMap delimitersIn := by
  rw [delimitersIn, String.toList_intercalate]
  induction texts with
  | nil => rfl
  | cons text texts ih =>
    cases texts with
    | nil => simp [delimitersIn]
    | cons next texts =>
      rw [List.map_cons, List.map_cons, List.intercalate_cons_cons, List.filter_append,
        List.filter_append, ← List.map_cons, ih, show separator.toList.filter _ = [] from h,
        List.append_nil]
      rfl

theorem mem_delimitersIn {c : Char} (hc : c ∈ delimiters) {s : String} :
    c ∈ delimitersIn s ↔ c ∈ s.toList := by
  simp [delimitersIn, hc]

end Html

open Html (delimitersIn)

/-! ## Shapes -/

namespace Markup

/-- What built-in markup is when its texts are left out. -/
inductive Shape where
  /-- A menu of so many entries. -/
  | menu (entries : Nat)
  /-- Links to the pages before and after, if there are such pages. -/
  | pages (newer older : Bool)
  /-- So many tags, with links to their archives or without. -/
  | tags (count : Nat) (linked : Bool)
  /-- The head of a page, with a description or without. -/
  | head (described : Bool)

/-- The delimiters of a tag that opens an element with so many attributes. -/
def opening (attributes : Nat) : List Char :=
  '<' :: List.replicate (2 * attributes) '"' ++ ['>']

/-- The delimiters of a tag that closes an element. -/
def closing : List Char := ['<', '>']

/-- The delimiters of an entry of the menu: an item with a link in it. -/
def entryDelimiters : List Char :=
  opening 2 ++ opening 1 ++ closing ++ closing

/-- The delimiters of a link to another page, if it is there. -/
def linkDelimiters (there : Bool) : List Char :=
  if there then opening 2 ++ closing else []

/-- The delimiters of a tag of a post. -/
def tagDelimiters (linked : Bool) : List Char :=
  if linked then opening 1 ++ closing else []

/-- The delimiters of markup of this shape. A menu without entries is not written. -/
def Shape.delimiters : Shape → List Char
  | menu entries =>
    if entries = 0 then []
    else opening 1 ++ (List.replicate entries entryDelimiters).flatten ++ closing
  | pages newer older =>
    opening 2 ++ linkDelimiters newer ++ opening 1 ++ closing ++ linkDelimiters older ++ closing
  | tags count linked => (List.replicate count (tagDelimiters linked)).flatten
  | head described =>
    (if described then opening 2 else []) ++ opening 2 ++ opening 2 ++ opening 4

theorem Shape.apostrophe_notMem (shape : Shape) : '\'' ∉ shape.delimiters := by
  cases shape with
  | menu entries =>
    have hentry : '\'' ∉ entryDelimiters := by decide
    rw [delimiters]
    split
    · exact List.not_mem_nil
    · simp [hentry, opening, closing]
  | pages newer older => cases newer <;> cases older <;> decide
  | tags count linked =>
    have htag : '\'' ∉ tagDelimiters linked := by cases linked <;> decide
    simp [delimiters, htag]
  | head described => cases described <;> decide

theorem delimitersIn_navEntry (i : NavItem) : delimitersIn (navEntry i) = entryDelimiters := by
  have hcurrent : delimitersIn (if i.isCurrent then " nav-current" else "") = [] := by
    split <;> rfl
  unfold navEntry
  simp only [Html.delimitersIn_append, Html.delimitersIn_escape, hcurrent]
  rfl

theorem delimitersIn_navigation {items : List NavItem} (h : items ≠ []) :
    delimitersIn (navigation items) = (Shape.menu items.length).delimiters := by
  have hentries : (items.map navEntry).flatMap delimitersIn =
      (List.replicate items.length entryDelimiters).flatten := by
    rw [List.flatMap_map, List.flatMap_congr fun i _ => delimitersIn_navEntry i, List.flatMap_def,
      List.map_const']
  unfold navigation
  rw [Html.delimitersIn_append, Html.delimitersIn_append, Html.delimitersIn_join, hentries,
    Shape.delimiters, if_neg (mt List.length_eq_zero_iff.1 h)]
  rfl

theorem delimitersIn_pagination (p : Pagination) :
    delimitersIn (pagination p) = (Shape.pages p.hasPrev p.hasNext).delimiters := by
  unfold pagination Pagination.prevUrl? Pagination.nextUrl?
  cases p.hasPrev <;> cases p.hasNext <;>
    simp only [Bool.false_eq_true, if_true, if_false, Html.delimitersIn_append,
      Html.delimitersIn_escape, Html.delimitersIn_showInt] <;>
    rfl

theorem delimitersIn_tag (link : Bool) (t : Tag) :
    delimitersIn (tag link t) = tagDelimiters link := by
  unfold tag
  cases link with
  | false => exact Html.delimitersIn_escape _
  | true =>
    simp only [if_true, Html.delimitersIn_append, Html.delimitersIn_escape]
    rfl

theorem delimitersIn_tags (link : Bool) (before separator after : String) (ts : List Tag) :
    delimitersIn (tags link before separator after ts) =
      (Shape.tags ts.length link).delimiters := by
  unfold tags
  rw [Html.delimitersIn_append, Html.delimitersIn_append, Html.delimitersIn_escape,
    Html.delimitersIn_escape, Html.delimitersIn_intercalate (Html.delimitersIn_escape _),
    List.nil_append, List.append_nil, List.flatMap_map,
    List.flatMap_congr fun t _ => delimitersIn_tag link t, List.flatMap_def, List.map_const']
  rfl

theorem delimitersIn_head {r : Request} (h : r.blog.headInjection = "") (generator : String) :
    delimitersIn (head r generator) = (Shape.head !(description r).isEmpty).delimiters := by
  unfold head
  rw [h]
  cases (description r).isEmpty <;>
    simp only [Bool.false_eq_true, if_true, if_false, Html.delimitersIn_append,
      Html.delimitersIn_escape] <;>
    rfl

end Markup

open Markup (Shape)

/-! ## Expressions -/

/-- An expression that is come to when a page is rendered, escaped or not. -/
structure Occurrence where
  page : Page
  helpers_builtin : page.helpers = .builtin
  state : RenderState
  invocation : Invocation
  escaped : Bool

namespace Occurrence

/-- The expression writes this HTML and leaves the state as it is. -/
def Writes (o : Occurrence) (html : String) : Prop :=
  (o.page.render [.expression o.invocation o.escaped]).run o.state = .ok html o.state

/-- The tags of the post in focus, none if no post is in focus. -/
def tags (o : Occurrence) : List Tag :=
  ((Focus.post? o.page.request o.state.scopes).map Post.tags).getD []

/-- The expression is one for built-in markup of this shape. -/
def Shaped (o : Occurrence) : Shape → Prop
  | .menu entries =>
    o.invocation.name ∈ ["navigation", "@blog.navigation"] ∧
      o.page.theme.findPartial? "navigation" = none ∧
      o.page.request.navigation.length = entries
  | .pages newer older =>
    o.invocation.name = "pagination" ∧
      o.page.theme.findPartial? "pagination" = none ∧
      o.page.request.pagination.hasPrev = newer ∧ o.page.request.pagination.hasNext = older
  | .tags count linked =>
    o.invocation.name = "tags" ∧ o.tags.length = count ∧
      ∃ hash, o.page.Gives o.state o.invocation hash ∧
        ((hash.lookup "autolink").all fun v => v.toText != "false") = linked
  | .head described =>
    o.invocation.name = "ghost_head" ∧ o.page.request.blog.headInjection = "" ∧
      (!(Markup.description o.page.request).isEmpty) = described

variable {o o' : Occurrence} {shape : Shape}

/-- What is planned for the helper of a name. -/
theorem planExpression_reader {r : Reader}
    (h : Helpers.builtin.find? o.invocation.name = some (.reader r)) :
    o.page.planExpression o.state.toFrame o.invocation =
      o.page.planReader o.state.toFrame (o.page.callAt o.state.toFrame o.invocation) r :=
  Page.planExpression_reader o.helpers_builtin h o.state.toFrame

/-- Markup is written as it is, escaped or not. -/
theorem writes_markup {html : String}
    (h : o.page.planExpression o.state.toFrame o.invocation = .ok (.write (.markup html))) :
    o.Writes html := by
  rw [Writes, Page.run_render_write h, o.state.write_markup]

theorem writes_absent
    (h : o.page.planExpression o.state.toFrame o.invocation = .ok (.write .absent)) :
    o.Writes "" := by
  rw [Writes, Page.run_render_write h, o.state.write_absent]

/-- The line of tags that is written when all arguments have values. -/
theorem tagLine_eq {hash : List (String × Value)} (h : o.page.Gives o.state o.invocation hash)
    (htags : o.tags ≠ []) :
    ∃ before separator after,
      Reading.tagLine (o.page.callAt o.state.toFrame o.invocation) o.tags =
        .ok (.markup (Markup.tags ((hash.lookup "autolink").all fun v => v.toText != "false")
          before separator after o.tags)) := by
  refine ⟨((hash.lookup "prefix").map Value.toText).getD "",
    ((hash.lookup "separator").map Value.toText).getD ", ",
    ((hash.lookup "suffix").map Value.toText).getD "", ?_⟩
  have htext (key : String) : (o.page.callAt o.state.toFrame o.invocation).text? key =
      .ok ((hash.lookup key).map Value.toText) := by
    rw [Call.text?, h.keyed?]
    rfl
  rw [Reading.tagLine, if_neg (by simpa using htags), htext, htext, htext, h.keyed?]
  cases hash.lookup "autolink" <;> rfl

theorem writes_menu {entries : Nat} (h : o.Shaped (.menu entries)) :
    ∃ html, o.Writes html ∧ delimitersIn html = (Shape.menu entries).delimiters := by
  obtain ⟨hname, hpartial, rfl⟩ := h
  have hfind : Helpers.builtin.find? o.invocation.name = some (.reader .navigation) := by
    obtain hname | hname : o.invocation.name = "navigation" ∨
        o.invocation.name = "@blog.navigation" := by simpa using hname
    all_goals rw [hname]; rfl
  have hplan := planExpression_reader hfind
  rw [Page.planReader] at hplan
  by_cases hitems : o.page.request.navigation = []
  · rw [hitems] at hplan ⊢
    exact ⟨"", writes_absent hplan, rfl⟩
  · rw [if_neg (by simpa using hitems), hpartial] at hplan
    exact ⟨_, writes_markup hplan, Markup.delimitersIn_navigation hitems⟩

theorem writes_pages {newer older : Bool} (h : o.Shaped (.pages newer older)) :
    ∃ html, o.Writes html ∧ delimitersIn html = (Shape.pages newer older).delimiters := by
  obtain ⟨hname, hpartial, rfl, rfl⟩ := h
  have hplan := planExpression_reader (o := o) (r := .pagination) (by rw [hname]; rfl)
  rw [Page.planReader, hpartial] at hplan
  exact ⟨_, writes_markup hplan, Markup.delimitersIn_pagination _⟩

theorem writes_tags {count : Nat} {linked : Bool} (h : o.Shaped (.tags count linked)) :
    ∃ html, o.Writes html ∧ delimitersIn html = (Shape.tags count linked).delimiters := by
  obtain ⟨hname, rfl, hash, hgives, rfl⟩ := h
  have hplan : o.page.planExpression o.state.toFrame o.invocation =
      (Reading.tagLine (o.page.callAt o.state.toFrame o.invocation) o.tags).bind
        fun v => .ok (.write v) := by
    rw [planExpression_reader (r := .postTags) (by rw [hname]; rfl)]
    rfl
  by_cases htags : o.tags = []
  · rw [htags] at hplan ⊢
    exact ⟨"", writes_absent hplan, rfl⟩
  · obtain ⟨before, separator, after, htagLine⟩ := tagLine_eq hgives htags
    rw [htagLine] at hplan
    exact ⟨_, writes_markup hplan, Markup.delimitersIn_tags _ _ _ _ _⟩

theorem writes_head {described : Bool} (h : o.Shaped (.head described)) :
    ∃ html, o.Writes html ∧ delimitersIn html = (Shape.head described).delimiters := by
  obtain ⟨hname, hinjection, rfl⟩ := h
  have hplan := planExpression_reader (o := o) (r := .headMarkup) (by rw [hname]; rfl)
  exact ⟨_, writes_markup hplan, Markup.delimitersIn_head hinjection _⟩

/-- An expression for markup of some shape writes markup with the delimiters of this shape. -/
theorem Shaped.writes (h : o.Shaped shape) :
    ∃ html, o.Writes html ∧ delimitersIn html = shape.delimiters := by
  cases shape with
  | menu => exact writes_menu h
  | pages => exact writes_pages h
  | tags => exact writes_tags h
  | head => exact writes_head h

/-- Whatever two requests, two states and two sets of arguments are, expressions for built-in markup
of one shape write the same delimiters in the same order. No apostrophe is among them. -/
theorem writes_delimiters (h : o.Shaped shape) (h' : o'.Shaped shape) :
    ∃ html html', o.Writes html ∧ o'.Writes html' ∧ delimitersIn html = delimitersIn html' ∧
      '\'' ∉ html.toList ∧ '\'' ∉ html'.toList := by
  have hapostrophe {html : String} (hhtml : delimitersIn html = shape.delimiters) :
      '\'' ∉ html.toList := by
    rw [← Html.mem_delimitersIn (by decide), hhtml]
    exact shape.apostrophe_notMem
  obtain ⟨html, hwrites, hhtml⟩ := h.writes
  obtain ⟨html', hwrites', hhtml'⟩ := h'.writes
  exact ⟨html, html', hwrites, hwrites', hhtml.trans hhtml'.symm, hapostrophe hhtml,
    hapostrophe hhtml'⟩

/-- Tags whose names and separator are made of delimiters. -/
theorem writes_delimiters_tags :
    let tagsOf (names : List String) (hash : List (String × Argument)) : Occurrence :=
      { page := Page.bare
        helpers_builtin := rfl
        state := .start { subject := .post { tags := names.map fun name => { name } } }
        invocation := { name := "tags", params := [], hash, span := default }
        escaped := true }
    let plain := tagsOf ["a", "b"] []
    let hostile := tagsOf ["<b>", "\" onclick='"] [("separator", .string "'\">")]
    plain.Shaped (.tags 2 true) ∧ hostile.Shaped (.tags 2 true) ∧
      ∃ html html', plain.Writes html ∧ hostile.Writes html' ∧
        delimitersIn html = delimitersIn html' ∧ '\'' ∉ html.toList ∧ '\'' ∉ html'.toList := by
  intro tagsOf plain hostile
  have hplain : plain.Shaped (.tags 2 true) := ⟨rfl, rfl, [], .nil, rfl⟩
  have hhostile : hostile.Shaped (.tags 2 true) :=
    ⟨rfl, rfl, [("separator", .text "'\">")], .cons ⟨rfl, fun _ => rfl⟩ .nil, rfl⟩
  exact ⟨hplain, hhostile, writes_delimiters hplain hhostile⟩

end Occurrence

end BlogTheme
