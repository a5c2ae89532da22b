import BlogTheme.Text.Blank

/-!
# Template names

A template is named by its path in the theme, with `/` between the parts and
without the ending `.hbs`. `canonicalName` takes the freedoms out of a name as
written, so that two spellings of one template become the same name.
-/

namespace BlogTheme.Template

open BlogTheme.Text

/-- The ending of template files. -/
def fileEnding : List Char := ['.', 'h', 'b', 's']

/-- A name without the steps `./` that it starts with. -/
def dropDotSlashes : List Char → List Char
  | '.' :: '/' :: cs => dropDotSlashes cs
  | cs => cs

/-- A text without the slashes that it starts with. -/
def dropSlashes (cs : List Char) : List Char :=
  cs.dropWhile (· == '/')

/-- A name without the ending of template files, if it has that ending. -/
def dropEnding (cs : List Char) : List Char :=
  match dropAffix? fileEnding.reverse cs.reverse with
  | some rest => rest.reverse
  | none => cs

/-- A name without the blanks around it, the `./` and then the slashes in
front, one ending, and with every backslash turned. -/
def canonicalChars (cs : List Char) : List Char :=
  (dropEnding (dropSlashes (dropDotSlashes (trim cs)))).map fun c => if c = '\\' then '/' else c

/-- The name under which a template is found. -/
def canonicalName (name : String) : String :=
  String.ofList (canonicalChars name.toList)

end BlogTheme.Template
