import BlogTheme.Text.Decimal
import BlogTheme.Text.Lines
import BlogTheme.Text.Quoted
import BlogTheme.Template.Rule

/-!
# Errors and diagnostics

`ThemeError` is everything that can go wrong between a template's source and a
page. Four of its kinds concern one tag only: they become diagnostics, and the
tag writes nothing. All others are fatal.
-/

namespace BlogTheme

open Template (Rule)

/-! ## Faults of a source -/

namespace Template

/-- What is wrong with a source. -/
inductive ParseFault where
  /-- None of these rules fits. -/
  | expected (rules : List Rule)
  | inverseOutside
  | secondInverse (block : String)
  | unexpectedClose (name : String)
  | mismatchedClose (opened closed : String)
  | unclosed (block : String)
  | numberRange (literal : String)
  deriving DecidableEq, Repr

/-- Words as a list in running text, with `or` before the last. -/
def alternatives : List String → String
  | [] => ""
  | [a] => a
  | [a, b] => a ++ " or " ++ b
  | names => ", ".intercalate names.dropLast ++ ", or " ++ names.getLast?.getD ""

/-- A tag that closes the block `name`. -/
def closingTag (name : String) : String :=
  "\x7b\x7b/" ++ name ++ "\x7d\x7d"

/-- The tag that begins an inverse. -/
def inverseTagText : String :=
  "\x7b\x7belse\x7d\x7d"

/-- The fault in words. -/
def ParseFault.message : ParseFault → String
  | expected rules => "expected " ++ alternatives (rules.map Rule.name)
  | inverseOutside => inverseTagText ++ " outside of a block"
  | secondInverse block => "second " ++ inverseTagText ++ " in block '" ++ block ++ "'"
  | unexpectedClose name => "unexpected " ++ closingTag name
  | mismatchedClose opened closed =>
    "expected " ++ closingTag opened ++ " but found " ++ closingTag closed
  | unclosed block => "unclosed block '" ++ block ++ "'"
  | numberRange literal => "number out of range: " ++ literal

end Template

/-! ## Excerpts of a source -/

/-- The lines of a source around one of its places. -/
structure Snippet where
  lines : List String
  line : Nat
  column : Nat
  deriving DecidableEq, Repr

namespace Snippet

/-- The lines around a place of a source. -/
def of (source : String) (line column : Nat) : Snippet :=
  { lines := (Text.lines source.toList).map String.ofList, line, column }

/-- The number of the first line shown: three lines before the place. -/
def first (s : Snippet) : Nat :=
  max 1 (s.line - 3)

/-- The number of the last line shown: three lines after the place. -/
def last (s : Snippet) : Nat :=
  min (s.line + 3) s.lines.length

/-- A line with its number in front. -/
def numbered (number : Nat) (line : String) : String :=
  let ds := Text.digits number
  String.ofList (List.replicate (4 - ds.length) ' ' ++ ds) ++ " | " ++ line ++ "\n"

/-- The line that points at a column of the line above it. -/
def pointer (column : Nat) : String :=
  "     | " ++ String.ofList (List.replicate (column - 1) ' ') ++ "^\n"

/-- The rows of the excerpt: each line shown, and the pointer after the line of
the place. -/
def rows (s : Snippet) : List String :=
  ((s.lines.zipIdx 1).filter fun (_, n) => s.first ≤ n && n ≤ s.last).flatMap fun (line, n) =>
    numbered n line :: (if n = s.line then [pointer s.column] else [])

/-- The excerpt as a text. -/
def text (s : Snippet) : String :=
  String.join s.rows

end Snippet

/-! ## Errors -/

/-- Why a source is no template: the fault, its place, the template's name and an
excerpt of the source. -/
structure ParseError where
  file : String
  fault : Template.ParseFault
  line : Nat
  column : Nat
  snippet : Snippet
  deriving Repr

/-- What can go wrong between a template's source and a page. -/
inductive ThemeError where
  | parse (error : ParseError)
  /-- A name with arguments that no helper has. -/
  | unknownHelper (name : String)
  /-- A bare name that stands for nothing. -/
  | unresolvedPath (path : String)
  /-- An inclusion of a partial that the theme has not. -/
  | missingPartial (name : String)
  /-- A helper that refuses its arguments. -/
  | helperFailed (helper message : String)
  /-- Partials or layouts nested too deeply. -/
  | recursionLimit (template : String) (limit : Nat)
  /-- Layouts that do not fit together. -/
  | structural (template message : String)
  | templateNotFound (name : String)
  | resolution (message : String)
  | cache (message : String)
  | io (message : String)
  deriving Repr

namespace ThemeError

/-- The error in words. -/
def message : ThemeError → String
  | parse e =>
    "Parse error in Some(" ++ Text.quoted e.file ++ "): " ++ e.fault.message ++ " at line " ++
      Text.showInt e.line ++ ", column " ++ Text.showInt e.column ++ "\n" ++ e.snippet.text
  | unknownHelper name => "Unknown helper: " ++ name
  | unresolvedPath path => "Unresolved path: " ++ path
  | missingPartial name => "Missing partial: " ++ name
  | helperFailed helper message => "Helper '" ++ helper ++ "' failed: " ++ message
  | recursionLimit template limit =>
    "Recursion limit of " ++ Text.showInt limit ++ " exceeded while rendering " ++ template
  | structural template message =>
    "Template structure error in " ++ template ++ ": " ++ message
  | templateNotFound name => "Template not found: " ++ name
  | resolution message => "Resolution error: " ++ message
  | cache message => "Cache error: " ++ message
  | io message => "IO error: " ++ message

end ThemeError

/-! ## Diagnostics -/

/-- The kinds of problems that do not abort a page. -/
inductive DiagnosticKind where
  | unknownHelper
  | unresolvedPath
  | missingPartial
  | helperFailed
  deriving DecidableEq, Repr

/-- A problem met while a page was rendered; its tag wrote nothing. -/
structure Diagnostic where
  kind : DiagnosticKind
  template : String
  message : String
  line : Nat
  deriving DecidableEq, Repr

/-- The diagnostic on one line. -/
def Diagnostic.display (d : Diagnostic) : String :=
  d.template ++ ":" ++ Text.showInt d.line ++ ": " ++ d.message

namespace ThemeError

/-- The kind of diagnostic that an error of one tag becomes. -/
def diagnosticKind? : ThemeError → Option DiagnosticKind
  | unknownHelper _ => some .unknownHelper
  | unresolvedPath _ => some .unresolvedPath
  | missingPartial _ => some .missingPartial
  | helperFailed _ _ => some .helperFailed
  | _ => none

/-- Whether an error aborts the page. -/
def isFatal (e : ThemeError) : Bool :=
  e.diagnosticKind?.isNone

/-- The diagnostic of an error that does not abort the page. -/
def diagnostic? (e : ThemeError) (template : String) (line : Nat) : Option Diagnostic :=
  e.diagnosticKind?.map fun kind => { kind, template, message := e.message, line }

end ThemeError

end BlogTheme
