import BlogTheme.Template.Name
import BlogTheme.Theme.Catalog
import BlogTheme.Theme.Error

/-!
# Where sources come from

A resolver lists the names of the templates that there are and finds the
source of each. `Store` holds sources in memory.
-/

namespace BlogTheme

/-- A source, and the place where it was found. -/
structure Located where
  path : String
  text : String
  deriving DecidableEq, Repr

/-- What finds the sources of templates. -/
structure Resolver where
  /-- The names of all templates, in order. -/
  list : Except ThemeError (List String)
  /-- The source of a template. -/
  resolve : String → Except ThemeError Located

/-- A source with the name of its template. -/
structure Source where
  name : String
  text : String
  deriving DecidableEq, Repr

/-- Sources held in memory. -/
abbrev Store := Catalog Source.name

namespace Store

/-- A store without sources. -/
def empty : Store := Catalog.empty

/-- Adds a source, in place of an earlier one of its name. -/
def add (s : Store) (name text : String) : Store :=
  s.insert { name := Template.canonicalName name, text }

/-- Takes out the source of a name. -/
def remove (s : Store) (name : String) : Store :=
  s.erase (Template.canonicalName name)

/-- Takes out all sources. -/
def clear (_ : Store) : Store :=
  empty

/-- A store with these sources, added in order. -/
def ofList (sources : List (String × String)) : Store :=
  sources.foldl (fun s source => s.add source.1 source.2) empty

/-- Finds the sources of a store. -/
def resolver (s : Store) : Resolver where
  list := .ok s.names
  resolve name :=
    let name := Template.canonicalName name
    match s.find? name with
    | some source => .ok { path := "memory:" ++ name, text := source.text }
    | none => .error (.templateNotFound name)

end Store

end BlogTheme
