import BlogTheme.Template.Position

/-!
# Grammar rules and vain attempts

When a source does not match the grammar, the message names the rules that were
tried in vain at the furthest place that any rule was tried at in vain.
`Attempts` keeps that place and those rules while a text is read.

A rule stands for the rules it is made of: when it fails where it began, and
not exactly one of them was noted there since, it replaces them.
-/

namespace BlogTheme.Template

/-- The rules that messages name. -/
inductive Rule where
  | endOfInput
  | template
  | longComment
  | extendsTag
  | shortComment
  | rawTag
  | blockOpen
  | inverseTag
  | blockClose
  | partialTag
  | exprTag
  | text
  | invocation
  | partialName
  | hashPair
  | hashKey
  | string
  | number
  | boolean
  | path
  deriving DecidableEq, Repr

namespace Rule

/-- The rule as a message names it. -/
def name : Rule → String
  | endOfInput => "EOI"
  | template => "template"
  | longComment => "long_comment"
  | extendsTag => "extends_tag"
  | shortComment => "short_comment"
  | rawTag => "raw_tag"
  | blockOpen => "block_open"
  | inverseTag => "inverse_tag"
  | blockClose => "block_close"
  | partialTag => "partial_tag"
  | exprTag => "expr_tag"
  | text => "text"
  | invocation => "invocation"
  | partialName => "partial_name"
  | hashPair => "hash_pair"
  | hashKey => "hash_key"
  | string => "string"
  | number => "number"
  | boolean => "boolean"
  | path => "path"

/-- All rules, in the order in which messages list them. -/
def all : List Rule :=
  [endOfInput, template, longComment, extendsTag, shortComment, rawTag, blockOpen, inverseTag,
   blockClose, partialTag, exprTag, text, invocation, partialName, hashPair, hashKey, string,
   number, boolean, path]

end Rule

/-- The furthest place at which rules were tried in vain, and those rules. -/
structure Attempts where
  furthest : Position
  rules : List Rule
  deriving Repr

namespace Attempts

/-- Nothing was tried yet. -/
def none : Attempts :=
  { furthest := .start, rules := [] }

/-- How many rules are noted at a place. -/
def countAt (t : Attempts) (p : Position) : Nat :=
  if p.byte = t.furthest.byte then t.rules.length else 0

/-- Notes that `rule` failed at `p`, where `before` rules had been noted when it
was tried. -/
def fail (t : Attempts) (rule : Rule) (p : Position) (before : Nat) : Attempts :=
  if t.countAt p = before + 1 then t
  else if p.byte = t.furthest.byte then { t with rules := t.rules.take before ++ [rule] }
  else if t.furthest.byte < p.byte then { furthest := p, rules := [rule] }
  else t

/-- The rules noted, each once, in the order of messages. -/
def expected (t : Attempts) : List Rule :=
  Rule.all.filter fun rule => t.rules.contains rule

end Attempts

end BlogTheme.Template
