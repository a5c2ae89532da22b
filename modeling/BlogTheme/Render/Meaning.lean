import BlogTheme.Render.Effects
import BlogTheme.Render.Output
import BlogTheme.Render.Plan

/-!
# What templates mean

Nodes have effects that depend only on the place at which they stand: the text
they write, the problems they meet, and the contents they keep. `Page.effects` gives
these without any state: what follows a node does not depend on what the node did.

Rendering with a state has the effects that nodes have at the place of that
state, and comes back to that place.
-/

namespace BlogTheme

/-- The effects of doing at a place what a plan says, given those of the body at any
place, of the inverse, and of partials. -/
def Plan.carryOut (f : Frame) (escaped : Bool) (body : Frame → Except ThemeError Effects)
    (inverse : Except ThemeError Effects) (partials : Template → Except ThemeError Effects) :
    Plan → Except ThemeError Effects
  | .write v => .ok (.ofHtml (f.write escaped v))
  | .body frames => do return .concat (← frames.mapM body)
  | .inverse => inverse
  | .keep name => do return (← body f).keep name
  | .insert t => partials t

namespace Page

open Template (Node Invocation)

/-- What is left behind by an invocation that failed: a diagnostic, unless the
error is fatal. -/
def faultEffects (f : Frame) (i : Invocation) (e : ThemeError) : Except ThemeError Effects :=
  match e.diagnostic? f.template i.span.line with
  | some d => .ok (.ofDiagnostic d)
  | none => .error e

/-- What is left behind by an invocation, given what its plan would leave. -/
def invocationEffects (f : Frame) (i : Invocation) (out : Plan → Except ThemeError Effects) :
    Except ThemeError Plan → Except ThemeError Effects
  | .error e => faultEffects f i e
  | .ok plan => out plan

/-- The effects of a partial that is included at a place. -/
abbrev PartialEffects := Frame → Template → Except ThemeError Effects

mutual

/-- The effects of a node at a place. -/
def nodeEffects (page : Page) (partials : PartialEffects) (f : Frame) :
    Node → Except ThemeError Effects
  | .text content => .ok (.ofHtml content)
  | .expression i escaped =>
    invocationEffects f i
      (Plan.carryOut f escaped (fun _ => .ok .empty) (.ok .empty) (partials f))
      (page.planExpression f i)
  | .block i body inverse =>
    let inside := f.enterBlock
    invocationEffects f i
      (Plan.carryOut inside true (fun place => nodesEffects page partials place body)
        (inverseEffects page partials inside inverse) (partials inside))
      (page.planBlock inside i)

/-- The effects of an inverse at a place, none if there is no inverse. -/
def inverseEffects (page : Page) (partials : PartialEffects) (f : Frame) :
    Option (List Node) → Except ThemeError Effects
  | none => .ok .empty
  | some nodes => nodesEffects page partials f nodes

/-- The effects of nodes at a place. -/
def nodesEffects (page : Page) (partials : PartialEffects) (f : Frame) :
    List Node → Except ThemeError Effects
  | [] => .ok .empty
  | node :: nodes => do
    let first ← nodeEffects page partials f node
    let rest ← nodesEffects page partials f nodes
    return first ++ rest

end

/-- The effects of a partial, when so many levels are left. -/
def partialEffects (page : Page) : (levels : Nat) → PartialEffects
  | 0, _, t => .error (.recursionLimit t.name page.config.maxDepth)
  | levels + 1, f, t =>
    page.nodesEffects (page.partialEffects levels) (f.enterPartial t.name) t.body

/-- The effects of nodes at a place. -/
def effects (page : Page) (f : Frame) (nodes : List Node) : Except ThemeError Effects :=
  page.nodesEffects (page.partialEffects (page.config.maxDepth - f.depth)) f nodes

end Page

/-- What the templates of a layout chain hand on to the next. -/
structure Handover where
  /-- The page so far. -/
  body : String := ""
  /-- Contents for the blocks of layouts; the first of a name counts. -/
  slots : List (String × String) := []
  diagnostics : List Diagnostic := []
  deriving Repr, Inhabited

/-- What the next layout finds after a template with these effects. -/
def Handover.next (h : Handover) (e : Effects) : Handover :=
  { body := e.html
    slots := h.slots ++ e.kept.reverse
    diagnostics := h.diagnostics ++ e.diagnostics }

namespace Page

/-- The place at which a template of a layout chain begins. -/
def topFrame (root : Scope) (h : Handover) (t : Template) : Frame :=
  { scopes := [root], template := t.name, body := h.body, slots := h.slots }

/-- What a layout chain hands on at its end. -/
def chainEffects (page : Page) (root : Scope) :
    Handover → List Template → Except ThemeError Handover
  | h, [] => .ok h
  | h, t :: chain => do
    let effects ← page.effects (topFrame root h t) t.body
    page.chainEffects root (h.next effects) chain

end Page

end BlogTheme
