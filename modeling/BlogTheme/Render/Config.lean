/-!
# Configuration

What an engine can be told: where assets lie, how deep partials and layouts may
nest, how many parsed templates are kept, and the name it writes as generator of a
page.
-/

namespace BlogTheme

/-- The configuration of an engine. -/
structure Config where
  /-- The address in front of those of assets. -/
  assetBase : String := "/assets/"
  /-- How deep partials may nest, and how many templates a layout chain may
  have. -/
  maxDepth : Nat := 32
  /-- How many parsed templates are kept. -/
  cacheCapacity : Nat := 100
  /-- The generator named in the head of a page. -/
  generator : String := "plume 0.1.0"
  deriving DecidableEq, Repr, Inhabited

end BlogTheme
