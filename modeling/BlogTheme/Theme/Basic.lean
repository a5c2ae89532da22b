import BlogTheme.Template.Parse
import BlogTheme.Theme.Catalog

/-!
# Themes

A theme is a catalog of parsed templates. Pages and layouts are found under
their names, partials first among those in the folder for partials.
`Theme.layoutChain` follows the layouts that a page extends.
-/

namespace BlogTheme

/-- The parsed templates of a theme. -/
abbrev Theme := Catalog Template.name

namespace Theme

/-- A theme without templates. -/
def empty : Theme := Catalog.empty

/-- The folder for partials. -/
def partialsFolder : String := "partials"

/-- The partial of a name: in the folder for partials if it is there, else
under the name itself. -/
def findPartial? (theme : Theme) (name : String) : Option Template :=
  (theme.find? (partialsFolder ++ "/" ++ name)).or (theme.find? name)

/-- The message of a theme whose layouts extend one another in a circle. -/
def circleMessage (names : List String) (again : String) : String :=
  "layout cycle: " ++ " -> ".intercalate (names ++ [again])

/-- Follows layouts from `current` on, which comes after the templates `seen`.
There is room for so many layouts more. -/
def chainFrom (theme : Theme) (limit : Nat) :
    (room : Nat) → (seen : List String) → (current : Template) → Except ThemeError (List Template)
  | room, seen, current => do
    match ← current.layout with
    | none => return [current]
    | some parent =>
      match room with
      | 0 => throw (.recursionLimit parent limit)
      | room + 1 =>
        match theme.find? parent with
        | none =>
          throw (.structural current.name ("extends unknown layout '" ++ parent ++ "'"))
        | some layout =>
          let names := seen ++ [current.name]
          if names.contains layout.name then
            throw (.structural current.name (circleMessage names layout.name))
          else
            return current :: (← chainFrom theme limit room names layout)

/-- The templates that make a page: the template itself, the layout it
extends, and so on up to one that extends none. At most `limit` of them are followed,
but always the first. -/
def layoutChain (theme : Theme) (t : Template) (limit : Nat) : Except ThemeError (List Template) :=
  chainFrom theme limit (limit - 1) [] t

end Theme

end BlogTheme
