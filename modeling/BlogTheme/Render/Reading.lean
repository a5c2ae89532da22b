import BlogTheme.Date.Format
import BlogTheme.Date.Reading
import BlogTheme.Date.Relative
import BlogTheme.Html.PlainText
import BlogTheme.Render.Call
import BlogTheme.Render.Markup

/-!
# What helpers read

`Reader.read` gives what a reader finds. Most readers find the same in all
three positions: a flag, an entity or a list stands for itself as an argument
and in running text, and decides about the body of a block.

Reading asks for the values of arguments, in whatever monad these are evaluated,
and fails with a refusal of the helper; it does nothing else.
-/

namespace BlogTheme

/-- What a reader finds. -/
inductive Reading where
  | value (v : Value)
  /-- A flag: a block has its body when it holds. -/
  | flag (b : Bool)
  /-- An entity, if it is there: a block speaks about it. -/
  | entity (v : Value)
  /-- A list: a block is repeated for its items. -/
  | list (v : Value)
  deriving Repr

/-- The reading as a value. -/
def Reading.toValue : Reading → Value
  | value v => v
  | flag b => .bool b
  | entity v => v
  | list v => v

namespace Reading

open Template (Argument)

/-- The number of words of an excerpt when no number is given. -/
def excerptLength : Nat := 50

/-- A text with a number in place of each percent sign. -/
def fillNumber (n : Int) (s : String) : String :=
  String.ofList (s.toList.flatMap fun c => if c = '%' then Text.intDigits n else [c])

variable {m : Type → Type} [Monad m] [MonadExcept ThemeError m]

/-- A number of things in words: one text for none, one for one, one for
more. -/
def plural (c : Call m) : m Value := do
  match (← c.first).toInt? with
  | none => throw (c.refuse "expects a number")
  | some n =>
    let key := if n = 0 then "empty" else if n = 1 then "singular" else "plural"
    return .text (fillNumber n ((← c.text? key).getD ""))

/-- The moment that a value stands for, none if there is no value. -/
def moment? (c : Call m) : Value → m (Option Date.Moment)
  | .absent => pure none
  | .date m => pure (some m)
  | .text s =>
    match Date.Moment.readStrict s with
    | .ok m => pure (some m)
    | .error fault => throw (c.refuse ("invalid date '" ++ s ++ "': " ++ fault.message))
  | v => throw (c.refuse ("'" ++ v.toText ++ "' is not a date"))

/-- The moment that a value stands for, as told from the time of the request or in
the format that the call asks for. -/
def tell (page : Page) (c : Call m) (v : Value) : m Value := do
  match ← moment? c v with
  | none => return .absent
  | some m =>
    if ← c.flag "timeago" then return .text (m.relativeTo page.request.now)
    return .text (m.format ((← c.text? "format").getD Date.defaultFormat))

/-- A date: the argument, else the date of the post in focus, else the time of
the request. -/
def date (page : Page) (f : Frame) (c : Call m) : m Value := do
  if c.params.isEmpty then
    let published := (Focus.post? page.request f.scopes).bind Post.publishedAt
    tell page c (.date (published.getD page.request.now))
  else tell page c (← c.first)

/-- The plain text of a post cut to a number of characters or words, if the
call gives one of these. -/
def cut? (p : Post) (c : Call m) : m (Option String) := do
  match ← c.count? "characters" with
  | some n => return some (Html.firstChars n (Html.plainText p.html))
  | none => return (← c.count? "words").map fun n => Html.firstWords n (Html.plainText p.html)

/-- The beginning of the plain text of the post in focus. -/
def excerpt (page : Page) (f : Frame) (c : Call m) : m Value := do
  match Focus.post? page.request f.scopes with
  | none => return .absent
  | some p =>
    return .text ((← cut? p c).getD (Html.firstWords excerptLength (Html.plainText p.html)))

/-- The HTML of the post in focus, or the beginning of its plain text when the
call says how much. -/
def content (page : Page) (f : Frame) (c : Call m) : m Value := do
  match Focus.post? page.request f.scopes with
  | none => return .absent
  | some p =>
    match ← cut? p c with
    | some text => return .text text
    | none => return .markup p.html

/-- An address, with the address of the blog in front if the call asks for
it. -/
def address (page : Page) (absolute : Bool) (path : String) : Value :=
  .text (if absolute then Markup.absoluteUrl page.request.blog.url path else path)

/-- The address of the innermost subject, else of the post in focus, else of
the blog. -/
def url (page : Page) (f : Frame) (absolute : Bool) : Value :=
  match Path.subject f.scopes with
  | .post p => address page absolute p.url
  | .tag t => address page absolute t.url
  | .author a => address page absolute a.url
  | .navItem i => address page absolute i.url
  | _ =>
    match Focus.post? page.request f.scopes with
    | some p => address page absolute p.url
    | none => .text page.request.blog.url

/-- The image of the innermost subject if that is an author, else of the post
in focus. -/
def image (page : Page) (f : Frame) (absolute : Bool) : Value :=
  let image := match Path.subject f.scopes with
    | .author a => a.image
    | _ => ((Focus.post? page.request f.scopes).map Post.image).getD ""
  if image.isEmpty then .absent else address page absolute image

/-- The name of the innermost subject if that is a tag or an author, else of the
tag in focus, else of the author in focus. -/
def entityName (page : Page) (f : Frame) : Value :=
  match Path.subject f.scopes with
  | .tag t => .text t.name
  | .author a => .text a.name
  | _ =>
    match Focus.tag? page.request f.scopes, Focus.author? page.request f.scopes with
    | some t, _ => .text t.name
    | none, some a => .text a.name
    | none, none => .absent

/-- The slug of the innermost subject, else of the entry of the menu in
focus. -/
def entitySlug (f : Frame) : Value :=
  ((Path.subject f.scopes).field "slug").orElse
    (.ofOption (fun i => .text (NavItem.slug i)) (Focus.navItem? f.scopes))

/-- The word that an argument is, if it is one. -/
def word : Argument → String
  | .path w => w
  | .string w => w
  | _ => ""

/-- The address of a page of the listing: of the one before, of the one after,
or of the one with a number. -/
def pageUrl (page : Page) (c : Call m) : m Value := do
  let pagination := page.request.pagination
  match c.params with
  | [] => throw (c.refuse "expects a page")
  | g :: _ =>
    if word g.written = "prev" then return .ofOption .text pagination.prevUrl?
    if word g.written = "next" then return .ofOption .text pagination.nextUrl?
    match (← g.value).toInt? with
    | none => throw (c.refuse "expects \"prev\", \"next\" or a page number")
    | some n => return .text (pagination.pageUrl (UInt32.ofNat (min n.toNat 4294967295)))

/-- Tags in running text: links to their archives unless the call says
otherwise, and texts of the call around and between them. -/
def tagLine (c : Call m) (ts : List Tag) : m Value := do
  if ts.isEmpty then return .absent
  let separator := (← c.text? "separator").getD ", "
  let before := (← c.text? "prefix").getD ""
  let after := (← c.text? "suffix").getD ""
  let link := match ← c.keyed? "autolink" with
    | some v => v.toText != "false"
    | none => true
  return .markup (Markup.tags link before separator after ts)

end Reading

/-- What a reader finds when it is called at a place of a page. -/
def Reader.read {m : Type → Type} [Monad m] [MonadExcept ThemeError m] (page : Page) (f : Frame)
    (c : Call m) (r : Reader) : m Reading :=
  let request := page.request
  let post? := Focus.post? request f.scopes
  let ofPost (get : Post → Value) : m Reading := pure (.value (.ofOption get post?))
  match r with
  | .nothing => pure (.value .absent)
  | .condition holds =>
    if c.params.isEmpty then throw (c.refuse "expects a condition")
    else do return .flag ((← c.first).isTruthy == holds)
  | .pseudo n =>
    let v := (Focus.iteration? f.scopes).bind fun i => i.pseudo? n
    pure (.flag ((v.map Value.isTruthy).getD false))
  | .layoutDirective =>
    if f.isTop then pure (.value .absent)
    else throw (.structural f.template "extends must appear at the top level of a template")
  | .pageBody => pure (.value (.markup f.body))
  | .asset => do
    let path := (← c.first).toText
    if path.isEmpty then throw (c.refuse "expects an asset path")
    else return .value (.text (Markup.assetUrl page.config.assetBase path))
  | .unescaped => do return .value (.markup (← c.first).toText)
  | .metaTitle => pure (.value (.text ((post?.map Post.title).getD request.blog.title)))
  | .metaDescription =>
    pure (.value (.text ((post?.map Post.metaDescription).getD request.blog.description)))
  | .headMarkup => pure (.value (.markup (Markup.head request page.config.generator)))
  | .footMarkup => pure (.value (.markup request.blog.footInjection))
  | .bodyClass => pure (.value (.text (Markup.bodyClass request)))
  | .postClass => pure (.value (.text (Markup.postClass post?)))
  | .plural => do return .value (← Reading.plural c)
  | .image => do return .value (Reading.image page f (← c.flag "absolute"))
  | .url => do return .value (Reading.url page f (← c.flag "absolute"))
  | .date => do return .value (← Reading.date page f c)
  | .blogField field => pure (.value (request.blog.field field))
  | .posts => pure (.list (.posts request.posts))
  | .recommends => pure (.list (.posts request.recommends))
  | .allTags => pure (.list (.tags request.allTags))
  | .postTags => pure (.list (.tags ((post?.map Post.tags).getD [])))
  | .tagName =>
    pure (.value (.ofOption (fun t => .text (Tag.name t)) (Focus.tag? request f.scopes)))
  | .tagSlug =>
    pure (.value (.ofOption (fun t => .text (Tag.slug t)) (Focus.tag? request f.scopes)))
  | .tagUrl => do
    let absolute ← c.flag "absolute"
    let tag? := Focus.tag? request f.scopes
    return .value (.ofOption (fun t => Reading.address page absolute (Tag.url t)) tag?)
  | .name => pure (.value (Reading.entityName page f))
  | .post => pure (.entity (.ofOption .post post?))
  | .excerpt => do return .value (← Reading.excerpt page f c)
  | .title => ofPost fun p => .text p.title
  | .content => do return .value (← Reading.content page f c)
  | .featured => pure (.flag ((post?.map Post.isFeatured).getD false))
  | .postId => ofPost fun p => .int p.id.toInt
  | .hits => ofPost fun p => .int p.hits.toInt
  | .prevPost => pure (.entity (.ofOption .post request.prevPost))
  | .nextPost => pure (.entity (.ofOption .post request.nextPost))
  | .prevPostField field => pure (.value (.ofOption (fun p => Post.field p field) request.prevPost))
  | .nextPostField field => pure (.value (.ofOption (fun p => Post.field p field) request.nextPost))
  | .author => pure (.entity (.ofOption .author (Focus.author? request f.scopes)))
  | .authorField field =>
    pure (.value (.ofOption (fun a => Author.field a field) (Focus.author? request f.scopes)))
  | .navigation => pure (.list (.navigation request.navigation))
  | .navLabel =>
    pure (.value (.ofOption (fun i => .text (NavItem.label i)) (Focus.navItem? f.scopes)))
  | .navCurrent => pure (.flag (((Focus.navItem? f.scopes).map NavItem.isCurrent).getD false))
  | .slug => pure (.value (Reading.entitySlug f))
  | .pagination => pure (.entity (.pagination request.pagination))
  | .hasPrev => pure (.flag request.pagination.hasPrev)
  | .hasNext => pure (.flag request.pagination.hasNext)
  | .pageNumber => pure (.value (.int request.pagination.page.toNat))
  | .pageCount => pure (.value (.int request.pagination.pages.toNat))
  | .pageUrl => do return .value (← Reading.pageUrl page c)
  | .path p => pure (.value (Path.resolve request f.scopes p))

end BlogTheme
