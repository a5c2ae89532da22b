import BlogTheme.Render.Invoke

/-!
# Rendering nodes

`Page.renderNodes` renders nodes, given an action that renders the partials they
include. `Page.render` supplies that action: partials are rendered like any nodes, one
level deeper, as long as there are levels left.

A fault in one invocation becomes a diagnostic in place of its text. Faults
that are fatal end the rendering.
-/

namespace BlogTheme.Page

open Template (Node Invocation)
open Rendering (inPartial)

/-- What is done about an error: it is recorded, unless it is fatal. Nothing is
written in either case. -/
def recover (line : Nat) (e : ThemeError) : Rendering String := do
  match e.diagnostic? (← get).template line with
  | some d =>
    modify (·.record d)
    return ""
  | none => throw e

/-- Writes the value that comes of an invocation, or deals with the error. -/
def writing (i : Invocation) (escaped : Bool) (x : Rendering Value) : Rendering String :=
  tryCatch
    (do
      let v ← x
      return (← get).write escaped v)
    (recover i.span.line)

mutual

/-- Renders a node. -/
def renderNode (page : Page) (inclusion : Inclusion) : Node → Rendering String
  | .text content => pure content
  | .expression i escaped => writing i escaped (page.invokeInline inclusion i)
  | .block i body inverse =>
    writing i true (page.invokeBlock inclusion i (renderNodes page inclusion body)
      (renderInverse page inclusion inverse))

/-- Renders an inverse, if there is one. -/
def renderInverse (page : Page) (inclusion : Inclusion) : Option (List Node) → Rendering String
  | none => pure ""
  | some nodes => renderNodes page inclusion nodes

/-- Renders nodes one after the other. -/
def renderNodes (page : Page) (inclusion : Inclusion) : List Node → Rendering String
  | [] => pure ""
  | node :: nodes => do
    let first ← renderNode page inclusion node
    let rest ← renderNodes page inclusion nodes
    return first ++ rest

end

/-- Renders a partial, when so many levels are left. -/
def renderPartial (page : Page) : (levels : Nat) → Inclusion
  | 0, t => throw (.recursionLimit t.name page.config.maxDepth)
  | levels + 1, t => inPartial t.name (page.renderNodes (page.renderPartial levels) t.body)

/-- Renders nodes. -/
def render (page : Page) (nodes : List Node) : Rendering String := do
  page.renderNodes (page.renderPartial (page.config.maxDepth - (← get).depth)) nodes

end BlogTheme.Page
