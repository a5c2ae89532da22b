import BlogTheme.Command.Arguments
import BlogTheme.Command.Site

/-!
# Running commands

A run takes the arguments and the tree of folders, and gives what is printed, the
status at the end, and the file that is written.
-/

namespace BlogTheme

open Folder (Tree)

/-- What a run of the program leaves behind. -/
structure Outcome where
  /-- Zero if all went well, two if the arguments are misused, one otherwise. -/
  status : Nat := 0
  /-- What is printed as result. -/
  printed : String := ""
  /-- What is printed as complaint. -/
  complaint : String := ""
  /-- The path and text of the file that is written. -/
  written : Option (String × String) := none

namespace Outcome

/-- A tree after a run. -/
def treeAfter (o : Outcome) (tree : Tree) : Tree :=
  match o.written with
  | none => tree
  | some (path, text) =>
    match tree.write path text.toUTF8 with
    | .ok tree => tree
    | .error _ => tree

/-- A run that fails, after what it has complained about before. -/
def failed (failure : CommandFailure) (complaint : String) : Outcome :=
  let cause := match failure.cause? with
    | none => ""
    | some error =>
      if error.message = failure.message then ""
      else "\nCaused by:\n    " ++ error.message ++ "\n"
  { status := 1, complaint := complaint ++ "Error: " ++ failure.message ++ "\n" ++ cause }

end Outcome

/-- How the program is used. -/
def usage : String :=
  "Usage: plume [--log-level <LEVEL>] [--config <FILE>] [--theme <DIR>] <COMMAND>\n\n" ++
  "Commands:\n" ++
  "  render  Render one page to stdout or a file\n" ++
  "  check   Compile every theme template and report errors\n"

/-- What the program prints about itself. -/
def versionLine : String := "plume 0.1.0\n"

/-- A run that ends with the reading of its arguments. -/
def Command.Stop.outcome : Command.Stop → Outcome
  | .misuse => { status := 2, complaint := usage }
  | .help => { printed := usage }
  | .version => { printed := versionLine }

namespace Command

/-- The overrides that a command gives. -/
def overrides (c : Command) : Overrides :=
  match c.task with
  | .check => { themeDir := c.theme }
  | .render _ _ _ assetBase maxDepth => { themeDir := c.theme, assetBase, maxDepth }

/-- The site of a command. -/
def site (c : Command) (tree : Tree) : Except CommandFailure Site := do
  let settings ← Settings.load tree c.config
  return { tree, settings := settings.override c.overrides }

/-- The files that a command reads or writes, apart from those of the theme. -/
def files (c : Command) : List String :=
  c.config :: match c.task with
  | .check => []
  | .render _ data output _ _ => data :: output.toList

/-- What a check gives. -/
def checked (s : Site) (r : Report) : Outcome :=
  if r.isOk then
    { printed := "  " ++ Text.showInt r.compiled ++ " template(s) in " ++ s.settings.themeDir ++
        " OK\n" }
  else
    .failed (.faults r.faults.length s.settings.themeDir)
      (String.join (r.faults.map fun fault => "  error: " ++ fault.message ++ "\n"))

/-- Carries out a command. -/
def perform (c : Command) (now : Date.Moment) (tree : Tree) : Except CommandFailure Outcome := do
  let site ← c.site tree
  match c.task with
  | .check => return checked site (← site.check)
  | .render template data none _ _ => return { printed := (← site.page now template data).html }
  | .render template data (some output) _ _ =>
    let page ← site.page now template data
    match tree.write output page.html.toUTF8 with
    | .ok _ => return { written := some (output, page.html) }
    | .error _ => throw (.pageUnwritable output)

/-- Runs the program with these arguments. -/
def run (args : List String) (now : Date.Moment) (tree : Tree) : Outcome :=
  match parse args with
  | .error stop => stop.outcome
  | .ok c =>
    match c.perform now tree with
    | .error failure => .failed failure ""
    | .ok outcome => outcome

end Command

end BlogTheme
