import BlogTheme.Render.Config
import BlogTheme.Text.Decimal
import BlogTheme.Toml.Reader

/-!
# Settings

Settings are written in a TOML document with the sections `theme`, `assets` and
`render`, all of which may be left out. What else the document says is passed over.
`Overrides` go before what is written.
-/

namespace BlogTheme

/-- The settings of a site. -/
structure Settings where
  /-- The folder of the theme. -/
  themeDir : String := "theme"
  /-- The address in front of those of assets. -/
  baseUrl : String := "/assets/"
  /-- How deep partials may nest, and how many templates a layout chain may have. -/
  maxDepth : Nat := 32
  /-- How many parsed templates are kept. -/
  cacheCapacity : Nat := 100
  deriving DecidableEq, Repr

/-- Settings that go before those of the document. -/
structure Overrides where
  themeDir : Option String := none
  assetBase : Option String := none
  maxDepth : Option Nat := none
  deriving DecidableEq, Repr

namespace Settings

open Toml (Value Entries)

/-- What a section says about the field of a place and a name. A section is a table,
or an array with the values of its fields in order; a date has none of them. -/
def fields? : Option Value → Option (Nat → String → Option Value)
  | none => some fun _ _ => none
  | some (.table _ entries) => some fun _ name => Entries.get? entries name
  | some (.array items) => some fun place _ => items[place]?
  | some (.tables items) => some fun place _ => (items[place]?).map (.table .header)
  | some .moment => some fun _ _ => none
  | some _ => none

/-- A field that holds a text. -/
def text? (usual : String) : Option Value → Option String
  | none => some usual
  | some (.string s) => some s
  | some _ => none

/-- A field that holds a whole number from zero on. -/
def nat? (usual : Nat) : Option Value → Option Nat
  | none => some usual
  | some (.integer n) => if 0 ≤ n then some n.toNat else none
  | some _ => none

/-- The settings of a document that has been read. -/
def ofEntries? (entries : Entries) : Option Settings := do
  let usual : Settings := {}
  let theme ← fields? (entries.get? "theme")
  let assets ← fields? (entries.get? "assets")
  let render ← fields? (entries.get? "render")
  return {
    themeDir := ← text? usual.themeDir (theme 0 "dir")
    baseUrl := ← text? usual.baseUrl (assets 0 "base_url")
    maxDepth := ← nat? usual.maxDepth (render 0 "max_depth")
    cacheCapacity := ← nat? usual.cacheCapacity (render 1 "cache_capacity") }

/-- The settings that a text writes. -/
def read? (text : String) : Option Settings := do
  ofEntries? (← Toml.read text)

/-- Settings with the overrides in place of what they name. -/
def override (s : Settings) (o : Overrides) : Settings where
  themeDir := o.themeDir.getD s.themeDir
  baseUrl := o.assetBase.getD s.baseUrl
  maxDepth := o.maxDepth.getD s.maxDepth
  cacheCapacity := s.cacheCapacity

/-- The configuration of the engine of a site. -/
def config (s : Settings) : Config where
  assetBase := s.baseUrl
  maxDepth := s.maxDepth
  cacheCapacity := s.cacheCapacity

end Settings

end BlogTheme
