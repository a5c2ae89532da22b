import BlogTheme.Html.Escape
import BlogTheme.Render.Config
import BlogTheme.Render.Focus
import BlogTheme.Render.Helper
import BlogTheme.Theme.Basic

/-!
# Where a node is rendered

A `Page` holds what stays the same while a page is made; a `Frame` holds what
depends on the place: the scopes, the template, how deep the place lies, and what the
templates before it have left for the layout.
-/

namespace BlogTheme

/-- What a page is made from. -/
structure Page where
  request : Request
  helpers : Helpers
  theme : Theme
  config : Config

/-- The place at which a node is rendered. -/
structure Frame where
  /-- The open scopes, innermost first. -/
  scopes : List Scope
  /-- The name of the template or partial that holds the node. -/
  template : String
  /-- Whether escaping is switched off. -/
  raw : Bool := false
  /-- How many partials are being included. -/
  depth : Nat := 0
  /-- How many blocks of the template surround the node. -/
  blocks : Nat := 0
  /-- The page so far, in a layout. -/
  body : String := ""
  /-- What was kept for the blocks of a layout; the first of a name counts. -/
  slots : List (String × String) := []
  deriving Repr

namespace Frame

/-- The place inside a block. -/
def enterBlock (f : Frame) : Frame :=
  { f with blocks := f.blocks + 1 }

/-- The place in a partial. -/
def enterPartial (f : Frame) (name : String) : Frame :=
  { f with template := name, depth := f.depth + 1, blocks := 0 }

/-- The place in a scope. -/
def enterScope (f : Frame) (s : Scope) : Frame :=
  { f with scopes := s :: f.scopes }

/-- The place with escaping switched off. -/
def unescaped (f : Frame) : Frame :=
  { f with raw := true }

/-- Whether the place is at the top of a page or layout. -/
def isTop (f : Frame) : Bool :=
  f.blocks == 0 && f.depth == 0

/-- What a value is written as: escaped, unless it is markup or escaping is
switched off, here or for this value. -/
def write (f : Frame) (escaped : Bool) (v : Value) : String :=
  if !escaped || f.raw || v.isMarkup then v.toText else Html.escape v.toText

end Frame

end BlogTheme
