import BlogTheme.Render.Reading

/-!
# Plans

What is to be done for an invocation depends only on the place, and is decided
before anything is rendered. A plan says what that is: write a value, render the body at
one or several places, render the inverse, keep the body for a layout, or write a
partial. If there is no plan, nothing has been rendered yet.

Plans are the meaning of invocations; they are not made when a page is rendered.
-/

namespace BlogTheme

/-- What is to be done for an invocation. -/
inductive Plan where
  /-- Write a value. -/
  | write (v : Value)
  /-- Render the body at these places, one after the other. -/
  | body (frames : List Frame)
  /-- Render the inverse. -/
  | inverse
  /-- Keep the body under a name. -/
  | keep (name : String)
  /-- Render a partial. -/
  | insert (partialTemplate : Template)

/-- A call whose arguments have values, or errors in their place. -/
abbrev ValuedCall := Call (Except ThemeError)

/-- Why a builder is no argument: two of them need a body, two a name. -/
def Builder.misuse (name : String) : Builder → ThemeError
  | forEach => .helperFailed name "must be used as a block"
  | contentFor => .helperFailed name "must be used as a block"
  | block => .helperFailed name "expects a name argument"
  | partialOf => .helperFailed name "expects a name argument"

namespace Page

open Template (Argument Invocation)

/-- The value of an argument at a place of a page. -/
def valueAt (page : Page) (f : Frame) : Argument → Except ThemeError Value
  | .string s => .ok (.text s)
  | .number n => .ok (.int n.toInt)
  | .boolean b => .ok (.bool b)
  | .path p =>
    match page.helpers.find? p with
    | some (.reader r) => do return (← r.read page f ({ name := p } : ValuedCall)).toValue
    | some (.builder b) => .error (b.misuse p)
    | none => .ok (Path.resolve page.request f.scopes p)

/-- An argument with its value at a place. -/
def givenAt (page : Page) (f : Frame) (a : Argument) : Given (Except ThemeError) :=
  { written := a, value := page.valueAt f a }

/-- The call that an invocation makes at a place, with the values of its
arguments. -/
def callAt (page : Page) (f : Frame) (i : Invocation) : ValuedCall :=
  { name := i.name
    params := i.params.map (page.givenAt f)
    hash := i.hash.map fun entry => (entry.1, page.givenAt f entry.2) }

variable (page : Page) (f : Frame) (c : ValuedCall)

/-- Renders the body with the subject of a new scope, the inverse if there is no
subject. -/
def planEntity (subject : Value) : Except ThemeError Plan :=
  if subject.isAbsent then .ok .inverse
  else do return .body [f.enterScope { subject, hash := ← c.givens }]

/-- Renders the body for each of the items, for at most `limit` of them if the
call says so, and the inverse if there are none. -/
def planItems (items : List Value) : Except ThemeError Plan := do
  let items ← c.limited items
  if items.isEmpty then return .inverse
  let hash ← c.givens
  return .body ((Scope.loop hash items).map f.enterScope)

/-- Renders a partial, if the theme has it. -/
def planPartial (name : String) : Except ThemeError Plan :=
  match page.theme.findPartial? name with
  | some t => .ok (.insert t)
  | none => .error (.missingPartial name)

/-- What a reader does in running text. -/
def planReader : Reader → Except ThemeError Plan
  | .postTags => do
    let ts := ((Focus.post? page.request f.scopes).map Post.tags).getD []
    return .write (← Reading.tagLine c ts)
  | .navigation =>
    if page.request.navigation.isEmpty then .ok (.write .absent)
    else match page.theme.findPartial? "navigation" with
      | some t => .ok (.insert t)
      | none => .ok (.write (.markup (Markup.navigation page.request.navigation)))
  | .pagination =>
    match page.theme.findPartial? "pagination" with
    | some t => .ok (.insert t)
    | none => .ok (.write (.markup (Markup.pagination page.request.pagination)))
  | r => do return .write (← r.read page f c).toValue

/-- What a reading decides about a body. -/
def planReading : Reading → Except ThemeError Plan
  | .value v => .ok (.write v)
  | .flag b => .ok (if b then .body [f] else .inverse)
  | .entity v => planEntity f c v
  | .list v => planItems f c (v.items?.getD [])

/-- What a reader does with a body. -/
def planReaderBlock : Reader → Except ThemeError Plan
  | .unescaped => .ok (.body [f.unescaped])
  | r => do planReading f c (← r.read page f c)

/-- What a builder does without a body. -/
def planBuilder : Builder → Except ThemeError Plan
  | .forEach => .error (c.refuse "must be used as a block")
  | .contentFor => .error (c.refuse "must be used as a block")
  | .block => do return .write (.markup ((f.slots.lookup (← c.nameArgument)).getD ""))
  | .partialOf => do page.planPartial (← c.nameArgument)

/-- What a builder does with a body. -/
def planBuilderBlock : Builder → Except ThemeError Plan
  | .forEach => do planItems f c (← c.loopItems)
  | .contentFor => do return .keep (← c.nameArgument)
  | .block => do
    match f.slots.lookup (← c.nameArgument) with
    | some content => return .write (.markup content)
    | none => return .body [f]
  | .partialOf => do page.planPartial (← c.nameArgument)

/-- What is to be done for an invocation in running text. A name that no helper
has is a path if it comes without arguments. -/
def planExpression (i : Invocation) : Except ThemeError Plan :=
  match page.helpers.find? i.name with
  | some (.reader r) => page.planReader f (page.callAt f i) r
  | some (.builder b) => page.planBuilder f (page.callAt f i) b
  | none =>
    if !i.params.isEmpty || !i.hash.isEmpty then .error (.unknownHelper i.name)
    else
      let v := Path.resolve page.request f.scopes i.name
      if v.isAbsent then .error (.unresolvedPath i.name) else .ok (.write v)

/-- What is to be done for an invocation with a body, seen from inside the
block. -/
def planBlock (i : Invocation) : Except ThemeError Plan :=
  match page.helpers.find? i.name with
  | some (.reader r) => page.planReaderBlock f (page.callAt f i) r
  | some (.builder b) => page.planBuilderBlock f (page.callAt f i) b
  | none => .error (.unknownHelper i.name)

end Page

end BlogTheme
