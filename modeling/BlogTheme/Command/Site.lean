import BlogTheme.Command.Failure
import BlogTheme.Command.Settings
import BlogTheme.Engine.Check
import BlogTheme.Folder.Theme
import BlogTheme.Request.Json

/-!
# Sites

A site is a tree of folders, with settings that say where in it the theme lies and
how pages are made. Its theme can be checked, and pages can be made of it for the
requests that files hold.
-/

namespace BlogTheme

open Folder (Tree)

/-- The settings that a file holds; the usual ones if there is no such file. -/
def Settings.load (tree : Tree) (path : String) : Except CommandFailure Settings :=
  if !tree.has path then .ok {}
  else match tree.readText? path with
    | none => .error (.settingsUnreadable path)
    | some text =>
      match Settings.read? text with
      | none => .error (.settingsMalformed path)
      | some settings => .ok settings

/-- A tree of folders with settings. -/
structure Site where
  tree : Tree
  settings : Settings

namespace Site

/-- The engine for the theme of a site. -/
def engine (s : Site) : Engine :=
  .ofConfig (s.tree.resolver s.settings.themeDir) s.settings.config

/-- Checks the theme. -/
def check (s : Site) : Except CommandFailure Report :=
  if (s.tree.folder? s.settings.themeDir).isNone then .error (.noThemeFolder s.settings.themeDir)
  else s.engine.check.mapError .listing

/-- The request that a file holds; one that does not give its time came at
`now`. -/
def request (s : Site) (now : Date.Moment) (path : String) : Except CommandFailure Request :=
  match s.tree.readText? path with
  | none => .error (.requestUnreadable path)
  | some text => (Request.read now text).mapError fun _ => .requestMalformed path

/-- The page of a template for the request that a file holds. -/
def page (s : Site) (now : Date.Moment) (template path : String) :
    Except CommandFailure Output := do
  let request ← s.request now path
  let (theme, engine) := s.engine.loadTheme
  let theme ← theme.mapError (.loading s.settings.themeDir)
  (engine.render theme template request).mapError (.rendering template)

end Site

end BlogTheme
