import BlogTheme.Render.Nodes

/-!
# Rendering pages

A page is rendered along its layout chain: the template first, then the layout
it extends, and so on. Each layout sees the text of the template before it, and the
contents that the templates before it have kept, those of the earliest first.
-/

namespace BlogTheme

/-- A page that was rendered. -/
structure Output where
  html : String
  /-- The problems met on the way, in order. -/
  diagnostics : List Diagnostic
  deriving DecidableEq, Repr

namespace Page

/-- Renders the templates of a layout chain one after the other, the first with the
page so far. -/
def renderChain (page : Page) (text : String) : List Template → Rendering String
  | [] => pure text
  | t :: chain => do
    modify (·.beginTemplate t.name text)
    let text ← page.render t.body
    modify (·.handOver)
    page.renderChain text chain

/-- Renders a template with its layouts, from a scope. -/
def renderTemplate (page : Page) (root : Scope) (t : Template) : Except ThemeError Output := do
  let chain ← page.theme.layoutChain t page.config.maxDepth
  match (page.renderChain "" chain).run (.start root) with
  | .ok html st => return { html, diagnostics := st.diagnostics }
  | .error e _ => throw e

end Page

/-- The scope of a page that speaks about nothing. -/
def Scope.root : Scope := { subject := .absent }

end BlogTheme
