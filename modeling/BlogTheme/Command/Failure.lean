import BlogTheme.Theme.Error

/-!
# Failures of commands

What can keep a command from doing its work, outside of the theme or because of
an error of it.
-/

namespace BlogTheme

/-- Why a command fails. -/
inductive CommandFailure where
  | settingsUnreadable (path : String)
  | settingsMalformed (path : String)
  | noThemeFolder (path : String)
  /-- The templates of the theme cannot be listed. -/
  | listing (error : ThemeError)
  | requestUnreadable (path : String)
  | requestMalformed (path : String)
  /-- The theme of a folder cannot be loaded. -/
  | loading (folder : String) (error : ThemeError)
  /-- The page of a template cannot be made. -/
  | rendering (template : String) (error : ThemeError)
  | pageUnwritable (path : String)
  /-- A check found so many faults in the theme of a folder. -/
  | faults (count : Nat) (folder : String)
  deriving Repr

namespace CommandFailure

/-- The failure in words. -/
def message : CommandFailure → String
  | settingsUnreadable path => "failed to read " ++ path
  | settingsMalformed path => "failed to parse " ++ path
  | noThemeFolder path => "theme directory " ++ path ++ " does not exist"
  | listing error => error.message
  | requestUnreadable path => "failed to read " ++ path
  | requestMalformed path => "invalid request data in " ++ path
  | loading folder _ => "failed to load theme from " ++ folder
  | rendering template _ => "failed to render " ++ template
  | pageUnwritable path => "failed to write " ++ path
  | faults count folder => Text.showInt count ++ " problem(s) found in " ++ folder

/-- The error of the theme behind the failure, if there is one. -/
def cause? : CommandFailure → Option ThemeError
  | listing error => some error
  | loading _ error => some error
  | rendering _ error => some error
  | _ => none

end CommandFailure

end BlogTheme
