import BlogTheme.Proofs.Html.Escaped
import BlogTheme.Render.Meaning

/-!
# Plain templates

A template is plain if it has no markup of its own and asks for none: no special
character in its texts, nothing written between three braces, and none of the helpers that
make markup out of data (`Template.trustedNames`) or, in running text, out of tags, menus
and pages (`Template.widgetNames`).

The names are right: no other name invokes one of these helpers
(`Helpers.isTrusted_of_find?`, `Helpers.isWidget_of_find?`).
-/

namespace BlogTheme

namespace Template

/-- Helpers that write data as markup. -/
def trustedNames : List String := ["encode", "content", "ghost_head", "ghost_foot"]

/-- Helpers that write markup of their own in running text. -/
def widgetNames : List String := ["tags", "navigation", "@blog.navigation", "pagination"]

/-- The argument names no helper that writes data as markup. -/
def Argument.isPlain : Argument → Bool
  | .path p => !trustedNames.contains p
  | _ => true

/-- Neither the invocation nor its arguments write data as markup. -/
def Invocation.isPlain (i : Invocation) : Bool :=
  !trustedNames.contains i.name && i.params.all Argument.isPlain &&
    i.hash.all fun entry => entry.2.isPlain

mutual

/-- The node has no markup and asks for none. -/
def Node.isPlain : Node → Bool
  | .text content => content.toList.all fun c => !('&' :: Html.delimiters).contains c
  | .expression i escaped => escaped && i.isPlain && !widgetNames.contains i.name
  | .block i body inverse => i.isPlain && allPlain body && inversePlain inverse

/-- No node of an inverse has markup or asks for it. -/
def inversePlain : Option (List Node) → Bool
  | none => true
  | some nodes => allPlain nodes

/-- None of the nodes has markup or asks for it. -/
def allPlain : List Node → Bool
  | [] => true
  | node :: nodes => node.isPlain && allPlain nodes

end

end Template

/-- No template of the theme has markup or asks for it. -/
def Theme.isPlain (theme : Theme) : Bool :=
  theme.items.all fun t => Template.allPlain t.body

theorem Theme.isPlain_of_find? {theme : Theme} (h : theme.isPlain) {name : String} {t : Template}
    (hfind : theme.find? name = some t) : Template.allPlain t.body :=
  List.all_eq_true.1 h t (List.mem_of_find?_eq_some hfind)

theorem Theme.isPlain_of_findPartial? {theme : Theme} (h : theme.isPlain) {name : String}
    {t : Template} (hfind : theme.findPartial? name = some t) : Template.allPlain t.body := by
  obtain hfolder | ⟨-, hname⟩ := Option.or_eq_some_iff.1 hfind
  · exact isPlain_of_find? h hfolder
  · exact isPlain_of_find? h hname

/-! ## The helpers of plain templates -/

/-- Helpers that write data as markup. -/
def Helper.isTrusted : Helper → Bool
  | .reader .unescaped | .reader .content | .reader .headMarkup | .reader .footMarkup => true
  | _ => false

/-- Helpers that write markup of their own in running text. -/
def Helper.isWidget : Helper → Bool
  | .reader .postTags | .reader .navigation | .reader .pagination => true
  | _ => false

/-- What is found under a key is one of the entries. -/
theorem mem_of_lookup {entries : List (String × α)} {key : String} {a : α}
    (h : entries.lookup key = some a) : (key, a) ∈ entries := by
  obtain ⟨before, after, rfl, -⟩ := List.lookup_eq_some_iff.1 h
  simp

namespace Helpers

theorem builtin_trusted :
    ∀ entry ∈ builtin, entry.2.isTrusted = true → entry.1 ∈ Template.trustedNames := by
  decide

theorem builtin_widget :
    ∀ entry ∈ builtin, entry.2.isWidget = true → entry.1 ∈ Template.widgetNames := by
  decide

theorem isTrusted_of_find? {name : String} {h : Helper} (hfind : builtin.find? name = some h)
    (hname : !Template.trustedNames.contains name) : h.isTrusted = false := by
  by_contra htrusted
  have hmem := builtin_trusted _ (mem_of_lookup hfind) (by simpa using htrusted)
  simp [hmem] at hname

theorem isWidget_of_find? {name : String} {h : Helper} (hfind : builtin.find? name = some h)
    (hname : !Template.widgetNames.contains name) : h.isWidget = false := by
  by_contra hwidget
  have hmem := builtin_widget _ (mem_of_lookup hfind) (by simpa using hwidget)
  simp [hmem] at hname

end Helpers

end BlogTheme
