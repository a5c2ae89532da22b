import BlogTheme.Template.Nesting

/-!
# Writing templates

`write` spells a tree as a source: one blank before each word of a tag and one before its
end, strings in double quotes unless they contain one, and an empty comment between texts
that follow one another. Not every tree has a spelling. `isWritable` tells which do.

Spans say where a tag stands in a source, so they have no spelling; `unplacedAll` takes them
out of a tree.
-/

namespace BlogTheme.Template

/-! ## Spelling -/

/-- An argument as it is written. -/
def Argument.chars : Argument → List Char
  | .path p => p.toList
  | .string s =>
    if s.toList.contains '"' then '\'' :: (s.toList ++ ['\'']) else '"' :: (s.toList ++ ['"'])
  | .number n => Text.intDigits n.toInt
  | .boolean b => if b then "true".toList else "false".toList

namespace Invocation

/-- The arguments, with their keys if they have one. -/
def arguments (i : Invocation) : List (Option String × Argument) :=
  i.params.map (none, ·) ++ i.hash.map fun entry => (some entry.1, entry.2)

end Invocation

/-- An argument with its key. -/
def argumentChars : Option String × Argument → List Char
  | (none, a) => a.chars
  | (some key, a) => key.toList ++ '=' :: a.chars

/-- Arguments, each after a blank. -/
def argumentsChars (arguments : List (Option String × Argument)) : List Char :=
  arguments.flatMap fun argument => ' ' :: argumentChars argument

/-- A name and the arguments after it. -/
def Invocation.chars (i : Invocation) : List Char :=
  i.name.toList ++ argumentsChars i.arguments

/-- A tag. -/
def tagChars (opening : String) (inner : List Char) (closing : String) : List Char :=
  opening.toList ++ (inner ++ ' ' :: closing.toList)

/-- The tag of a layout. -/
def layoutChars (arguments : List (Option String × Argument)) : List Char :=
  tagChars "\x7b\x7b!<" (argumentsChars arguments) "\x7d\x7d"

/-- The tag of a partial. -/
def inclusionChars (arguments : List (Option String × Argument)) : List Char :=
  tagChars "\x7b\x7b>" (argumentsChars arguments) "\x7d\x7d"

/-- The tag of an expression that is escaped. -/
def escapedChars (i : Invocation) : List Char :=
  tagChars "\x7b\x7b" (' ' :: i.chars) "\x7d\x7d"

/-- The tag of an expression that is not. -/
def rawChars (i : Invocation) : List Char :=
  tagChars "\x7b\x7b\x7b" (' ' :: i.chars) "\x7d\x7d\x7d"

/-- The tag that opens a block. -/
def openChars (i : Invocation) : List Char :=
  tagChars "\x7b\x7b#" (' ' :: i.chars) "\x7d\x7d"

/-- The tag that closes a block. -/
def closeChars (name : String) : List Char :=
  tagChars "\x7b\x7b/" (' ' :: name.toList) "\x7d\x7d"

/-- The tag of an expression. -/
def expressionChars (i : Invocation) (escaped : Bool) : List Char :=
  if i.name = extendsName then layoutChars i.arguments
  else if i.name = includeName then inclusionChars i.arguments
  else if escaped then escapedChars i
  else rawChars i

/-- What stands between texts that follow one another. -/
def separator : List Char :=
  "\x7b\x7b!\x7d\x7d".toList

/-- Whether the node is a text. -/
def Node.isText : Node → Bool
  | .text _ => true
  | _ => false

/-- Whether the first of the nodes is a text. -/
def startsWithText (nodes : List Node) : Bool :=
  nodes.head?.any Node.isText

/-- What stands between a node and those behind it. -/
def separatorAfter (node : Node) (nodes : List Node) : List Char :=
  if node.isText && startsWithText nodes then separator else []

mutual

/-- A node as it is written. -/
def Node.chars : Node → List Char
  | .text content => content.toList
  | .expression i escaped => expressionChars i escaped
  | .block i body inverse =>
    openChars i ++ (nodesChars body ++ (inverseChars inverse ++ closeChars i.name))

/-- An inverse as it is written, after the tag that begins it. -/
def inverseChars : Option (List Node) → List Char
  | none => []
  | some nodes => inverseTagText.toList ++ nodesChars nodes

/-- Nodes as they are written. -/
def nodesChars : List Node → List Char
  | [] => []
  | node :: nodes =>
    node.chars ++ (separatorAfter node nodes ++ nodesChars nodes)

end

/-- The source of a tree. -/
def write (nodes : List Node) : String :=
  String.ofList (nodesChars nodes)

/-! ## What can be written -/

/-- A name or a path. -/
def isPathText (s : String) : Bool :=
  !s.toList.isEmpty && s.toList.all isPathChar

/-- A key. -/
def isKeyText (s : String) : Bool :=
  !s.toList.isEmpty && s.toList.all isKeyChar

/-- Digits, perhaps after a minus sign. -/
def isNumeral : List Char → Bool
  | '-' :: ds => !ds.isEmpty && ds.all Text.isDigit
  | ds => !ds.isEmpty && ds.all Text.isDigit

/-- Two braces stand somewhere in the text. -/
def hasBraces : List Char → Bool
  | [] => false
  | c :: cs => ['\x7b', '\x7b'].isPrefixOf (c :: cs) || hasBraces cs

/-- Whether an argument can be written: a path must not look like a number or a truth value,
and a string must do without one of the quotes. -/
def Argument.isWritable : Argument → Bool
  | .path p => isPathText p && !isNumeral p.toList && p != "true" && p != "false"
  | .string s => !s.toList.contains '"' || !s.toList.contains '\''
  | .number _ => true
  | .boolean _ => true

namespace Invocation

/-- Whether the arguments can be written: no two of them have the same key. -/
def hasWritableArguments (i : Invocation) : Bool :=
  i.params.all Argument.isWritable &&
    i.hash.all (fun entry => isKeyText entry.1 && entry.2.isWritable) &&
    decide (i.hash.map Prod.fst).Nodup

/-- Whether the expression can be written: a partial has its name as a string, a layout has one
argument, and both are escaped; `else` is no escaped expression by itself. -/
def isWritableExpression (i : Invocation) (escaped : Bool) : Bool :=
  i.hasWritableArguments &&
    if i.name = includeName then
      escaped && match i.params with
        | .string _ :: _ => true
        | _ => false
    else if i.name = extendsName then escaped && i.arguments.length == 1
    else isPathText i.name && !(escaped && i.name == "else" && i.arguments.isEmpty)

end Invocation

/-- Whether the node is a text that ends with a brace. -/
def Node.endsWithBrace : Node → Bool
  | .text content => content.toList.getLast? == some '\x7b'
  | _ => false

mutual

/-- Whether the node can be written. -/
def Node.isWritable : Node → Bool
  | .text content => !content.toList.isEmpty && !hasBraces content.toList
  | .expression i escaped => i.isWritableExpression escaped
  | .block i body inverse =>
    isPathText i.name && i.hasWritableArguments && allWritable body && inverseWritable inverse

/-- Whether the inverse can be written. -/
def inverseWritable : Option (List Node) → Bool
  | none => true
  | some nodes => allWritable nodes

/-- Whether the nodes can be written in front of a tag. -/
def allWritable : List Node → Bool
  | [] => true
  | node :: nodes => node.isWritable && !node.endsWithBrace && allWritable nodes

end

/-- Whether the tree can be written: at its end there may be a text that ends with a brace. -/
def isWritable (nodes : List Node) : Bool :=
  nodes.all Node.isWritable && nodes.dropLast.all fun node => !node.endsWithBrace

theorem isWritable_iff {nodes : List Node} : isWritable nodes ↔
    (∀ node ∈ nodes, node.isWritable) ∧ ∀ node ∈ nodes.dropLast, node.endsWithBrace = false := by
  simp [isWritable]

theorem Node.isWritable_text {content : String} : (Node.text content).isWritable ↔
    content.toList ≠ [] ∧ hasBraces content.toList = false := by
  simp [Node.isWritable]

/-! ## Trees without places -/

/-- The invocation without its place. -/
def Invocation.unplaced (i : Invocation) : Invocation :=
  { i with span := default }

mutual

/-- The node without the places of its tags. -/
def Node.unplaced : Node → Node
  | .text content => .text content
  | .expression i escaped => .expression i.unplaced escaped
  | .block i body inverse => .block i.unplaced (unplacedAll body) (unplacedInverse inverse)

/-- The inverse without the places of its tags. -/
def unplacedInverse : Option (List Node) → Option (List Node)
  | none => none
  | some nodes => some (unplacedAll nodes)

/-- The nodes without the places of their tags. -/
def unplacedAll : List Node → List Node
  | [] => []
  | node :: nodes => node.unplaced :: unplacedAll nodes

end

end BlogTheme.Template
