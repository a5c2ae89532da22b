import BlogTheme.Engine.Basic

/-!
# Checking a theme

A check parses every template that there is and follows every layout chain. It
goes on after a fault, and reports all of them.
-/

namespace BlogTheme

/-- What a check finds: how many templates have a tree, and every fault. -/
structure Report where
  compiled : Nat
  faults : List ThemeError
  deriving Repr

/-- Whether nothing is wrong. -/
def Report.isOk (r : Report) : Bool :=
  r.faults.isEmpty

namespace Engine

/-- Adds the templates of these names to a theme and counts them; those that have
no tree are left out, each with a fault. -/
def gather (e : Engine) (theme : Theme) : List String → Theme × Report
  | [] => (theme, { compiled := 0, faults := [] })
  | name :: names =>
    match e.compile name with
    | (.error fault, e) =>
      let (theme, r) := e.gather theme names
      (theme, { r with faults := fault :: r.faults })
    | (.ok c, e) =>
      let (theme, r) := e.gather (theme.insert c.template) names
      (theme, { r with compiled := r.compiled + 1 })

/-- The faults of the layout chains of a theme, in the order of its templates. -/
def chainFaults (e : Engine) (theme : Theme) : List ThemeError :=
  theme.items.filterMap fun t =>
    match theme.layoutChain t e.config.maxDepth with
    | .error fault => some fault
    | .ok _ => none

/-- Checks all templates that the resolver lists. -/
def check (e : Engine) : Except ThemeError Report := do
  let names ← e.resolver.list
  let (theme, r) := e.gather .empty names
  return { r with faults := r.faults ++ e.chainFaults theme }

end Engine

end BlogTheme
