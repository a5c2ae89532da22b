/-!
# Lines of a text

A line ends with a line feed, or with a carriage return and a line feed. What
follows the last line feed is a line of its own only if it is not empty.
-/

namespace BlogTheme.Text

/-- `line` without the carriage return it ends with, if it does. -/
def dropReturn (line : List Char) : List Char :=
  if line.getLast? = some '\r' then line.dropLast else line

/-- The stretches between line feeds, the last one as it stands. -/
def rawLines : List Char → List (List Char)
  | [] => [[]]
  | c :: cs =>
    if c = '\n' then [] :: rawLines cs
    else match rawLines cs with
      | l :: ls => (c :: l) :: ls
      | [] => [[c]]

/-- The lines of a text, without their ends. -/
def lines (cs : List Char) : List (List Char) :=
  match (rawLines cs).reverse with
  | [] => []
  | last :: closed =>
    (closed.reverse.map dropReturn) ++ (if last.isEmpty then [] else [last])

end BlogTheme.Text
