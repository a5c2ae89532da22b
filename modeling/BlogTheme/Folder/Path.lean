import BlogTheme.Template.Name

/-!
# Paths

A path names a file by the names of the folders on the way to it, with slashes
between them. One that starts with a slash starts at the top of all folders, any
other where the reader stands.
-/

namespace BlogTheme.Folder

open BlogTheme.Text

/-- Whether a path starts at the top of all folders. -/
def isAbsolute (path : String) : Bool :=
  path.toList.head? == some '/'

/-- The path of `path` as seen from the folder `base`. -/
def join (base path : String) : String :=
  if isAbsolute path then path
  else if base.isEmpty || base.toList.getLast? == some '/' then base ++ path
  else base ++ "/" ++ path

/-- The stretches of a path between its slashes. -/
def stretches : List Char → List (List Char)
  | [] => [[]]
  | c :: cs =>
    if c = '/' then [] :: stretches cs
    else match stretches cs with
      | name :: names => (c :: name) :: names
      | [] => [[c]]

/-- The steps that a path takes, one for each stretch between its slashes. -/
def steps (path : String) : List String :=
  (stretches path.toList).map String.ofList

/-- Whether its name hides a file or folder from listings. -/
def isHidden (name : String) : Bool :=
  name.toList.head? == some '.'

/-- Whether a file of this name holds a template: the name has the ending of template
files, and something before it. -/
def isTemplateFile (name : String) : Bool :=
  (dropAffix? Template.fileEnding.reverse name.toList.reverse).any fun stem => !stem.isEmpty

end BlogTheme.Folder
