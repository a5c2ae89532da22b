import BlogTheme.Render.Frame

/-!
# The state of a rendering

While a page is made, a `RenderState` holds the place that has been reached and
what has been recorded on the way. A `Rendering` is an action on that state; it may
fail, and then the state stays as it was when the error arose.

Blocks, scopes and partials change the place for the time of an action:
`Rendering.around` makes one change before the action and another after it,
whether or not the action fails.
-/

namespace BlogTheme

/-- The place that a rendering has reached, and what it has recorded. -/
structure RenderState extends Frame where
  /-- Contents kept for layouts, the latest first. The first of a name
  counts. -/
  kept : List (String × String) := []
  /-- The problems met so far, in order. -/
  diagnostics : List Diagnostic := []
  deriving Repr

namespace RenderState

/-- The state in which a page is begun. -/
def start (root : Scope) : RenderState :=
  { scopes := [root], template := "" }

/-- Opens a scope. -/
def openScope (s : Scope) (st : RenderState) : RenderState :=
  { st with scopes := s :: st.scopes }

/-- Closes the innermost scope. -/
def closeScope (st : RenderState) : RenderState :=
  { st with scopes := st.scopes.tail }

/-- Goes into a block. -/
def enterBlock (st : RenderState) : RenderState :=
  { st with blocks := st.blocks + 1 }

/-- Comes out of a block. -/
def leaveBlock (st : RenderState) : RenderState :=
  { st with blocks := st.blocks - 1 }

/-- Switches escaping on or off. -/
def setRaw (raw : Bool) (st : RenderState) : RenderState :=
  { st with raw }

/-- Goes into a partial. -/
def enterPartial (name : String) (st : RenderState) : RenderState :=
  { st with template := name, depth := st.depth + 1, blocks := 0 }

/-- Comes out of a partial into a template, at a place inside so many blocks of
it. -/
def leavePartial (template : String) (blocks : Nat) (st : RenderState) : RenderState :=
  { st with template, depth := st.depth - 1, blocks }

/-- Keeps a content for layouts. -/
def keep (name content : String) (st : RenderState) : RenderState :=
  { st with kept := (name, content) :: st.kept }

/-- Records a problem. -/
def record (d : Diagnostic) (st : RenderState) : RenderState :=
  { st with diagnostics := st.diagnostics ++ [d] }

/-- Begins a template of a layout chain, of which the templates before have made
this text. -/
def beginTemplate (name body : String) (st : RenderState) : RenderState :=
  { st with template := name, body, kept := [] }

/-- Leaves what was kept to the layouts that follow. What they have already
stays in front. -/
def handOver (st : RenderState) : RenderState :=
  { st with slots := st.slots ++ st.kept }

end RenderState

/-- An action of rendering. -/
abbrev Rendering := EStateM ThemeError RenderState

namespace Rendering

/-- An action between two changes of the state. The second is made also when the
action fails. -/
def around (enter leave : RenderState → RenderState) (x : Rendering α) : Rendering α := do
  modify enter
  try x finally modify leave

/-- An action inside a block. -/
def inBlock (x : Rendering α) : Rendering α :=
  around .enterBlock .leaveBlock x

/-- An action in a scope. -/
def inScope (s : Scope) (x : Rendering α) : Rendering α :=
  around (.openScope s) .closeScope x

/-- An action with escaping switched off. -/
def unescaped (x : Rendering α) : Rendering α := do
  let raw := (← get).raw
  around (.setRaw true) (.setRaw raw) x

/-- An action in a partial. -/
def inPartial (name : String) (x : Rendering α) : Rendering α := do
  let st ← get
  around (.enterPartial name) (.leavePartial st.template st.blocks) x

/-- The text that an action makes, as markup. -/
def markup (x : Rendering String) : Rendering Value := do
  return .markup (← x)

end Rendering

end BlogTheme
