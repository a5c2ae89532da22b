import BlogTheme.Render.Reading
import BlogTheme.Render.State

/-!
# Invoking helpers

A helper is invoked in running text, with a body, or as an argument of another
helper. A reader yields what it finds, but with a body it decides by it: a flag
chooses between body and inverse, an entity opens a scope for the body, a list repeats
the body for its items. A builder renders its body or a partial.

Bodies and partials come as actions that render them.
-/

namespace BlogTheme

/-- Where a helper is invoked. -/
inductive Position where
  /-- In running text. -/
  | inline
  /-- With a body. -/
  | block
  /-- As an argument of another helper. -/
  | argument
  deriving DecidableEq, Repr

/-- A call at a position, with what renders its body and its inverse. -/
structure PlacedCall extends Call Rendering where
  position : Position
  body : Rendering String := pure ""
  inverse : Rendering String := pure ""

namespace PlacedCall

open Rendering (markup inScope)

variable (c : PlacedCall)

/-- Renders the body if a condition holds, else the inverse. -/
def branch (holds : Bool) : Rendering Value :=
  if holds then markup c.body else markup c.inverse

/-- Renders the body with the subject of a new scope, the inverse if there is no
subject. -/
def about (subject : Value) : Rendering Value :=
  if subject.isAbsent then markup c.inverse
  else do
    let hash ← c.givens
    markup (inScope { subject, hash } c.body)

/-- Renders the body for each of the items, for at most `limit` of them if the
call says so, and the inverse if there are none. -/
def each (items : List Value) : Rendering Value := do
  let items ← c.limited items
  if items.isEmpty then markup c.inverse
  else
    let hash ← c.givens
    let texts ← (Scope.loop hash items).mapM fun s => inScope s c.body
    return .markup (String.join texts)

/-- What comes of a reading: itself, or the body decided by it. -/
def present : Reading → Rendering Value
  | .value v => pure v
  | .flag b => if c.position = .block then c.branch b else pure (.bool b)
  | .entity v => if c.position = .block then c.about v else pure v
  | .list v => if c.position = .block then c.each (v.items?.getD []) else pure v

end PlacedCall

/-- What renders partials. -/
abbrev Inclusion := Template → Rendering String

section

open Rendering (markup)

/-- Renders a partial, if the theme has it. -/
def includePartial (page : Page) (inclusion : Inclusion) (name : String) : Rendering Value :=
  match page.theme.findPartial? name with
  | some t => markup (inclusion t)
  | none => throw (.missingPartial name)

/-- Invokes a reader. -/
def Reader.run (page : Page) (inclusion : Inclusion) (c : PlacedCall) (r : Reader) :
    Rendering Value := do
  let f := (← get).toFrame
  match r, c.position with
  | .unescaped, .block => markup (Rendering.unescaped c.body)
  | .postTags, .inline =>
    Reading.tagLine c.toCall (((Focus.post? page.request f.scopes).map Post.tags).getD [])
  | .navigation, .inline =>
    if page.request.navigation.isEmpty then return .absent
    else match page.theme.findPartial? "navigation" with
      | some t => markup (inclusion t)
      | none => return .markup (Markup.navigation page.request.navigation)
  | .pagination, .inline =>
    match page.theme.findPartial? "pagination" with
    | some t => markup (inclusion t)
    | none => return .markup (Markup.pagination page.request.pagination)
  | r, _ => c.present (← r.read page f c.toCall)

/-- Invokes a builder. -/
def Builder.run (page : Page) (inclusion : Inclusion) (c : PlacedCall) (b : Builder) :
    Rendering Value := do
  match b, c.position with
  | .forEach, .block => c.each (← c.loopItems)
  | .forEach, _ => throw (c.refuse "must be used as a block")
  | .contentFor, .block =>
    let name ← c.nameArgument
    let content ← c.body
    modify (·.keep name content)
    return .absent
  | .contentFor, _ => throw (c.refuse "must be used as a block")
  | .block, _ =>
    let name ← c.nameArgument
    match (← get).slots.lookup name with
    | some content => return .markup content
    | none => markup c.body
  | .partialOf, _ => includePartial page inclusion (← c.nameArgument)

end

/-- Invokes a helper. -/
def Helper.run (page : Page) (inclusion : Inclusion) (c : PlacedCall) : Helper → Rendering Value
  | .reader r => r.run page inclusion c
  | .builder b => b.run page inclusion c

namespace Page

open Template (Argument Invocation)

/-- The value of an argument: a literal stands for itself, the name of a helper for
what the helper yields without arguments, and anything else is a path. -/
def evaluate (page : Page) (inclusion : Inclusion) : Argument → Rendering Value
  | .string s => pure (.text s)
  | .number n => pure (.int n.toInt)
  | .boolean b => pure (.bool b)
  | .path p =>
    match page.helpers.find? p with
    | some h => h.run page inclusion { name := p, position := .argument }
    | none => do return Path.resolve page.request (← get).scopes p

/-- An argument with what evaluates it. -/
def give (page : Page) (inclusion : Inclusion) (a : Argument) : Given Rendering :=
  { written := a, value := page.evaluate inclusion a }

/-- The call that an invocation makes. -/
def call (page : Page) (inclusion : Inclusion) (i : Invocation) : Call Rendering :=
  { name := i.name
    params := i.params.map (page.give inclusion)
    hash := i.hash.map fun entry => (entry.1, page.give inclusion entry.2) }

/-- Makes a call. In running text a name that no helper has is a path if it comes
without arguments. -/
def invoke (page : Page) (inclusion : Inclusion) (c : PlacedCall) : Rendering Value :=
  match page.helpers.find? c.name with
  | some h => h.run page inclusion c
  | none => do
    if c.position = .block || !c.params.isEmpty || !c.hash.isEmpty then
      throw (.unknownHelper c.name)
    let v := Path.resolve page.request (← get).scopes c.name
    if v.isAbsent then throw (.unresolvedPath c.name)
    return v

/-- Makes the call of an invocation in running text. -/
def invokeInline (page : Page) (inclusion : Inclusion) (i : Invocation) : Rendering Value :=
  page.invoke inclusion { page.call inclusion i with position := .inline }

/-- Makes the call of an invocation with a body and an inverse, which lie inside a
block. -/
def invokeBlock (page : Page) (inclusion : Inclusion) (i : Invocation)
    (body inverse : Rendering String) : Rendering Value :=
  Rendering.inBlock <|
    page.invoke inclusion { page.call inclusion i with position := .block, body, inverse }

end Page

end BlogTheme
