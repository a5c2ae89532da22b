import BlogTheme.Json.Codec
import BlogTheme.Template.Node

/-!
# Trees as JSON documents

A node is an object with one member, whose key tells what kind of node it is
and whose value is the object of its fields; so is an argument, but for the
fields. `Node.toJson` writes a node and `Node.ofJson?` reads it back. Invocations and spans
may also be written as arrays of their fields in order. All fields are needed, except that
a block may leave out its inverse.
-/

namespace BlogTheme.Template

/-! ## Writing -/

/-- An argument as a document. -/
def Argument.toJson : Argument → Json
  | path p => .ofMembers [("Path", .ofString p)]
  | string s => .ofMembers [("String", .ofString s)]
  | number n => .ofMembers [("Number", .ofInt n.toInt)]
  | boolean b => .ofMembers [("Boolean", .bool b)]

/-- A span as a document. -/
def Span.toJson (s : Span) : Json :=
  .ofMembers [("start", .ofInt s.start), ("end", .ofInt s.stop), ("line", .ofInt s.line),
    ("column", .ofInt s.column)]

/-- An argument with a key as a document. -/
def hashEntryToJson (entry : String × Argument) : Json :=
  .ofList [.ofString entry.1, entry.2.toJson]

/-- An invocation as a document. -/
def Invocation.toJson (i : Invocation) : Json :=
  .ofMembers [("name", .ofString i.name), ("params", .ofList (i.params.map Argument.toJson)),
    ("hash", .ofList (i.hash.map hashEntryToJson)), ("span", i.span.toJson)]

mutual

/-- A node as a document. -/
def Node.toJson : Node → Json
  | .text content => .ofMembers [("Text", .ofMembers [("content", .ofString content)])]
  | .expression i escaped =>
    .ofMembers [("Expression", .ofMembers [("invocation", i.toJson), ("escaped", .bool escaped)])]
  | .block i body inverse =>
    .ofMembers [("Block", .ofMembers [
      ("invocation", i.toJson),
      ("body", .ofList (nodesToJson body)),
      ("inverse",
        match inverse with
        | none => .null
        | some nodes => .ofList (nodesToJson nodes))])]

@[inherit_doc Node.toJson]
def nodesToJson : List Node → List Json
  | [] => []
  | node :: nodes => node.toJson :: nodesToJson nodes

end

/-! ## Reading -/

/-- The value of the only member of an object that has a given key, among
members whose keys are known. -/
def memberOnce? (members : List (Option String × Json)) (key : String) : Option Json :=
  match members.filter (fun m => m.1 == some key) with
  | [(_, value)] => some value
  | _ => none

/-- The values of the fields of an object, all of which are needed. -/
def memberValues? (names : List String) : Json → Option (List Json)
  | .object members none => names.mapM (memberOnce? members)
  | _ => none

/-- The values of the fields of a structure, which may be written as an array. -/
def fieldValues? (names : List String) : Json → Option (List Json)
  | .array items none => if items.length = names.length then some items else none
  | j => memberValues? names j

/-- A string. -/
def stringOf? : Json → Option String
  | .string s => s
  | _ => none

/-- A truth value. -/
def boolOf? : Json → Option Bool
  | .bool b => some b
  | _ => none

/-- A whole number of 64 bits. -/
def natOf? : Json → Option Nat
  | .number (.integer n) =>
    if 0 ≤ n ∧ n ≤ 18446744073709551615 then some n.toNat else none
  | _ => none

/-- An integer of 64 bits with a sign. -/
def int64Of? : Json → Option Int64
  | .number (.integer n) =>
    if Int64.minValue.toInt ≤ n ∧ n ≤ Int64.maxValue.toInt then some (Int64.ofInt n) else none
  | _ => none

/-- An argument, from a document. -/
def Argument.ofJson? : Json → Option Argument
  | .object [(some key, value)] none =>
    match key with
    | "Path" => (stringOf? value).map .path
    | "String" => (stringOf? value).map .string
    | "Number" => (int64Of? value).map .number
    | "Boolean" => (boolOf? value).map .boolean
    | _ => none
  | _ => none

/-- The items of an array. -/
def listOf? (item : Json → Option α) : Json → Option (List α)
  | .array items none => items.mapM item
  | _ => none

/-- A span, from a document. -/
def Span.ofJson? (j : Json) : Option Span := do
  match ← fieldValues? ["start", "end", "line", "column"] j with
  | [start, stop, line, column] =>
    return { start := ← natOf? start, stop := ← natOf? stop, line := ← natOf? line,
             column := ← natOf? column }
  | _ => none

/-- An argument with a key, from a document. -/
def hashEntryOfJson? : Json → Option (String × Argument)
  | .array [key, value] none => do return (← stringOf? key, ← Argument.ofJson? value)
  | _ => none

/-- An invocation, from a document. -/
def Invocation.ofJson? (j : Json) : Option Invocation := do
  match ← fieldValues? ["name", "params", "hash", "span"] j with
  | [name, params, hash, span] =>
    return { name := ← stringOf? name, params := ← listOf? Argument.ofJson? params,
             hash := ← listOf? hashEntryOfJson? hash, span := ← Span.ofJson? span }
  | _ => none

/-- A text node, from the document of its fields. -/
def textOfJson? (j : Json) : Option Node := do
  match ← memberValues? ["content"] j with
  | [content] => return .text (← stringOf? content)
  | _ => none

/-- An expression, from the document of its fields. -/
def expressionOfJson? (j : Json) : Option Node := do
  match ← memberValues? ["invocation", "escaped"] j with
  | [i, escaped] => return .expression (← Invocation.ofJson? i) (← boolOf? escaped)
  | _ => none

/-- The fields of a block that have been read. -/
structure BlockDraft where
  invocation : Option Invocation := none
  body : Option (List Node) := none
  inverse : Option (Option (List Node)) := none

/-- The block, if the fields that it needs have been read. -/
def BlockDraft.node? (d : BlockDraft) : Option Node := do
  return .block (← d.invocation) (← d.body) (d.inverse.getD none)

mutual

/-- A node, from a document. -/
def Node.ofJson? : Json → Option Node
  | .object [(some key, value)] none =>
    match key with
    | "Text" => textOfJson? value
    | "Expression" => expressionOfJson? value
    | "Block" => blockOfJson? value
    | _ => none
  | _ => none

/-- A block, from the document of its fields. -/
def blockOfJson? : Json → Option Node
  | .object members none => (blockOfMembers? {} members).bind BlockDraft.node?
  | _ => none

/-- The fields of a block, from the members of an object. None may come twice. -/
def blockOfMembers? (d : BlockDraft) : List (Option String × Json) → Option BlockDraft
  | [] => some d
  | (key, value) :: members =>
    match key with
    | some "invocation" =>
      if d.invocation.isSome then none
      else (Invocation.ofJson? value).bind fun i =>
        blockOfMembers? { d with invocation := some i } members
    | some "body" =>
      if d.body.isSome then none
      else
        (nodesOfJson? value).bind fun body => blockOfMembers? { d with body := some body } members
    | some "inverse" =>
      if d.inverse.isSome then none
      else (inverseOfJson? value).bind fun inverse =>
        blockOfMembers? { d with inverse := some inverse } members
    | some _ => blockOfMembers? d members
    | none => none

/-- An inverse, from a document: `null` for none. -/
def inverseOfJson? : Json → Option (Option (List Node))
  | .null => some none
  | .array items none => (nodeListOfJson? items).map some
  | _ => none

/-- Nodes, from an array. -/
def nodesOfJson? : Json → Option (List Node)
  | .array items none => nodeListOfJson? items
  | _ => none

/-- Nodes, from documents. -/
def nodeListOfJson? : List Json → Option (List Node)
  | [] => some []
  | j :: js => do return (← Node.ofJson? j) :: (← nodeListOfJson? js)

end

end BlogTheme.Template
