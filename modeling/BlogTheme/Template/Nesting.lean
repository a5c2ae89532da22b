import BlogTheme.Template.Node
import BlogTheme.Template.Segment
import BlogTheme.Theme.Error

/-!
# Nesting tags into blocks

`Nesting` takes the segments of a source one after another and keeps the blocks
that are open, innermost first. A tag that does not fit is refused at its own
place, so the first one in the source is the one reported.
-/

namespace BlogTheme.Template

/-- A fault of a source, and the line and column of what causes it. -/
structure FaultAt where
  fault : ParseFault
  line : Nat
  column : Nat
  deriving DecidableEq, Repr

/-- A fault at a position. -/
def Position.fault (p : Position) (fault : ParseFault) : FaultAt :=
  { fault, line := p.line, column := p.column }

/-- An argument value; a number must fit in 64 bits. -/
def Word.argument : Word → Except FaultAt Argument
  | .string s => .ok (.string s)
  | .number literal place =>
    match Text.readInt64? literal.toList with
    | some n => .ok (.number (Int64.ofInt n))
    | none => .error (place.fault (.numberRange literal))
  | .boolean b => .ok (.boolean b)
  | .path p => .ok (.path p)

/-- Adds an argument of a tag to an invocation. -/
def Invocation.addArg (i : Invocation) (arg : Arg) : Except FaultAt Invocation := do
  let a ← arg.word.argument
  match arg.key with
  | some key => return i.addHash key a
  | none => return i.addParam a

/-- Adds arguments of a tag to an invocation, in order. -/
def Invocation.addArgs (i : Invocation) : List Arg → Except FaultAt Invocation
  | [] => .ok i
  | arg :: args => do
    let i ← i.addArg arg
    i.addArgs args

namespace Placed

/-- Where a segment stands. -/
def span (p : Placed) : Span :=
  { start := p.start.byte, stop := p.stop.byte, line := p.start.line, column := p.start.column }

/-- The invocation of a tag, still without arguments. -/
def bare (p : Placed) (name : String) : Invocation :=
  { name, params := [], hash := [], span := p.span }

end Placed

/-- A block that is not closed yet. Of its parts the latest node comes first. -/
structure OpenBlock where
  invocation : Invocation
  body : List Node
  inverse : Option (List Node)
  deriving Repr

/-- Adds a node to the part of a block that is being read. -/
def OpenBlock.add (b : OpenBlock) (n : Node) : OpenBlock :=
  match b.inverse with
  | some inverse => { b with inverse := some (n :: inverse) }
  | none => { b with body := n :: b.body }

/-- The block as a node, once it is closed. -/
def OpenBlock.close (b : OpenBlock) : Node :=
  .block b.invocation b.body.reverse (b.inverse.map List.reverse)

/-- The nodes outside of all blocks, latest first, and the blocks that are open,
innermost first. -/
structure Nesting where
  root : List Node
  opened : List OpenBlock
  deriving Repr

namespace Nesting

/-- Nothing read yet. -/
def empty : Nesting :=
  { root := [], opened := [] }

/-- Adds a node where it belongs. -/
def add (s : Nesting) (n : Node) : Nesting :=
  match s.opened with
  | [] => { s with root := n :: s.root }
  | b :: outer => { s with opened := b.add n :: outer }

/-- Takes one segment. -/
def step (s : Nesting) (p : Placed) : Except FaultAt Nesting :=
  match p.segment with
  | .comment => .ok s
  | .text content => .ok (s.add (.text content))
  | .expression name args escaped => do
    let i ← (p.bare name).addArgs args
    return s.add (.expression i escaped)
  | .inclusion word args => do
    let name ← word.argument
    let i ← ((p.bare includeName).addParam (.string name.literalText)).addArgs args
    return s.add (.expression i true)
  | .layout arg => do
    let i ← (p.bare extendsName).addArg arg
    return s.add (.expression i true)
  | .blockOpen name args => do
    let i ← (p.bare name).addArgs args
    return { s with opened := { invocation := i, body := [], inverse := none } :: s.opened }
  | .inverse =>
    match s.opened with
    | [] => .error (p.start.fault .inverseOutside)
    | b :: outer =>
      match b.inverse with
      | some _ => .error (p.start.fault (.secondInverse b.invocation.name))
      | none => .ok { s with opened := { b with inverse := some [] } :: outer }
  | .blockClose name =>
    match s.opened with
    | [] => .error (p.start.fault (.unexpectedClose name))
    | b :: outer =>
      if b.invocation.name = name then .ok (add { s with opened := outer } b.close)
      else .error (p.start.fault (.mismatchedClose b.invocation.name name))

/-- Takes segments in order. -/
def steps (s : Nesting) : List Placed → Except FaultAt Nesting
  | [] => .ok s
  | p :: ps => do
    let s ← s.step p
    s.steps ps

/-- The tree, once all segments are taken and no block is open. -/
def finish (s : Nesting) : Except FaultAt (List Node) :=
  match s.opened with
  | [] => .ok s.root.reverse
  | b :: _ =>
    .error { fault := .unclosed b.invocation.name
             line := b.invocation.span.line
             column := b.invocation.span.column }

end Nesting

/-- The tree that a sequence of segments makes. -/
def nest (segments : List Placed) : Except FaultAt (List Node) := do
  let s ← Nesting.empty.steps segments
  s.finish

end BlogTheme.Template
