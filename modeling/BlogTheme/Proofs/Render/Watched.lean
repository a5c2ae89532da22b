import BlogTheme.Proofs.Render.Run
import BlogTheme.Render.Output

/-!
# Rendering under watch

A watch is done wherever the renderer is about to render nodes: before each node, and at
the end of nodes in sequence. The renderer under watch is the renderer with these stops
added, so that one which stops for nothing is the renderer itself
(`Page.watchedNodes_idle`).
-/

namespace BlogTheme

open Template (Node)
open Rendering (inPartial)

/-- What is done wherever nodes are about to be rendered, given those that are left of their
sequence. -/
abbrev Watch := List Node → Rendering Unit

namespace Watch

/-- A watch that does nothing. -/
def idle : Watch := fun _ => pure ()

/-- The watch does nothing in the states that satisfy `P`. -/
def IdleWhere (P : List Node → RenderState → Prop) (watch : Watch) : Prop :=
  ∀ nodes st, P nodes st → (watch nodes).run st = .ok () st

end Watch

namespace Page

mutual

/-- Renders a node under watch. -/
def watchedNode (page : Page) (watch : Watch) (inclusion : Inclusion) : Node → Rendering String
  | .text content => pure content
  | .expression i escaped => writing i escaped (page.invokeInline inclusion i)
  | .block i body inverse =>
    writing i true (page.invokeBlock inclusion i (watchedNodes page watch inclusion body)
      (watchedInverse page watch inclusion inverse))

/-- Renders an inverse under watch, if there is one. -/
def watchedInverse (page : Page) (watch : Watch) (inclusion : Inclusion) :
    Option (List Node) → Rendering String
  | none => pure ""
  | some nodes => watchedNodes page watch inclusion nodes

/-- Renders nodes one after the other under watch. -/
def watchedNodes (page : Page) (watch : Watch) (inclusion : Inclusion) :
    List Node → Rendering String
  | [] => do
    watch []
    return ""
  | node :: nodes => do
    watch (node :: nodes)
    let first ← watchedNode page watch inclusion node
    let rest ← watchedNodes page watch inclusion nodes
    return first ++ rest

end

/-- Renders a partial under watch, when so many levels are left. -/
def watchedPartial (page : Page) (watch : Watch) : (levels : Nat) → Inclusion
  | 0, t => throw (.recursionLimit t.name page.config.maxDepth)
  | levels + 1, t =>
    inPartial t.name (page.watchedNodes watch (page.watchedPartial watch levels) t.body)

/-- Renders nodes under watch. -/
def watched (page : Page) (watch : Watch) (nodes : List Node) : Rendering String := do
  page.watchedNodes watch (page.watchedPartial watch (page.config.maxDepth - (← get).depth)) nodes

/-- Renders the templates of a layout chain under watch. -/
def watchedChain (page : Page) (watch : Watch) (text : String) : List Template → Rendering String
  | [] => pure text
  | t :: chain => do
    modify (·.beginTemplate t.name text)
    let text ← page.watched watch t.body
    modify (·.handOver)
    page.watchedChain watch text chain

/-- Renders a template with its layouts under watch. -/
def watchedTemplate (page : Page) (watch : Watch) (root : Scope) (t : Template) :
    Except ThemeError Output := do
  let chain ← page.theme.layoutChain t page.config.maxDepth
  let (html, st) ← (page.watchedChain watch "" chain).outcome (.start root)
  return { html, diagnostics := st.diagnostics }

/-! ## The idle watch -/

variable (page : Page)

section

variable (inclusion : Inclusion)

mutual

theorem watchedNode_idle : (node : Node) →
    page.watchedNode .idle inclusion node = page.renderNode inclusion node
  | .text content => by rw [watchedNode, renderNode]
  | .expression i escaped => by rw [watchedNode, renderNode]
  | .block i body inverse => by
    rw [watchedNode, renderNode, watchedNodes_idle body, watchedInverse_idle inverse]

theorem watchedInverse_idle : (inverse : Option (List Node)) →
    page.watchedInverse .idle inclusion inverse = page.renderInverse inclusion inverse
  | none => by rw [watchedInverse, renderInverse]
  | some nodes => by rw [watchedInverse, renderInverse, watchedNodes_idle nodes]

/-- The renderer under a watch that does nothing is the renderer. -/
theorem watchedNodes_idle : (nodes : List Node) →
    page.watchedNodes .idle inclusion nodes = page.renderNodes inclusion nodes
  | [] => by
    rw [watchedNodes, renderNodes, Watch.idle, pure_bind]
  | node :: nodes => by
    rw [watchedNodes, renderNodes, Watch.idle, pure_bind]
    exact congr (congrArg _ (watchedNode_idle node))
      (funext fun _ => congrArg (· >>= _) (watchedNodes_idle nodes))

end

end

theorem watchedPartial_idle (levels : Nat) :
    page.watchedPartial .idle levels = page.renderPartial levels := by
  induction levels with
  | zero => rfl
  | succ levels ih =>
    funext t
    rw [watchedPartial, renderPartial, ih, watchedNodes_idle]

end Page

end BlogTheme
