import BlogTheme.Template.Nesting

/-!
# Parsing templates

`Template.parse` reads a source into a tree. Either the whole source is a
sequence of segments and these nest, or the error tells what is wrong and where.
-/

namespace BlogTheme.Template

/-- The tree of a source, or its first fault. -/
def parseBody (source : List Char) : Except FaultAt (List Node) :=
  let (segments, stuck) := Segment.sequence source
  if stuck.rest.isEmpty then nest segments
  else
    let attempts := Segment.vainAttempts stuck
    .error (attempts.furthest.fault (.expected attempts.expected))

/-- The error of a fault in the source of a template. -/
def FaultAt.error (f : FaultAt) (source name : String) : ThemeError :=
  .parse {
    file := name
    fault := f.fault
    line := f.line
    column := f.column
    snippet := .of source f.line f.column }

/-- Reads a source as the template `name`. -/
def parse (source name : String) : Except ThemeError Template :=
  match parseBody source.toList with
  | .ok body => .ok { name, body }
  | .error fault => .error (fault.error source name)

/-- The layout that a template extends: the name that its only directive at the
top level gives. -/
def layout (t : Template) : Except ThemeError (Option String) :=
  let directives := t.body.filterMap fun
    | .expression i _ => if i.name = extendsName then some i else none
    | _ => none
  match directives with
  | [] => .ok none
  | [i] =>
    match i.params with
    | [] => .error (.structural t.name "extends directive is missing a layout name")
    | name :: _ => .ok (some name.literalText)
  | _ => .error (.structural t.name "a template may extend only one layout")

end BlogTheme.Template
