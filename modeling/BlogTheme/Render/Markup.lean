import BlogTheme.Html.Escape
import BlogTheme.Request.Basic

/-!
# Built-in markup

The markup that helpers write by themselves: the menu, the links between the
pages of a listing, the head of a page, links to tags, and the classes of elements.
Every text of the request is escaped, except for the HTML that the blog injects.
-/

namespace BlogTheme.Markup

open Html (escape)

/-- An address without the slashes at its end. -/
def trimEndSlashes (s : String) : String :=
  String.ofList (s.toList.reverse.dropWhile (· == '/')).reverse

/-- An address without the slashes in front. -/
def trimStartSlashes (s : String) : String :=
  String.ofList (s.toList.dropWhile (· == '/'))

/-- An address with the address of the blog in front, unless it has a host of
its own. -/
def absoluteUrl (blogUrl path : String) : String :=
  if path.toList.head? = some '/' then trimEndSlashes blogUrl ++ path else path

/-- The address of an asset. -/
def assetUrl (base path : String) : String :=
  trimEndSlashes base ++ "/" ++ trimStartSlashes path

/-- An entry of the menu. -/
def navEntry (i : NavItem) : String :=
  "<li class=\"nav-" ++ escape i.slug ++ (if i.isCurrent then " nav-current" else "") ++
    "\" role=\"presentation\"><a href=\"" ++ escape i.url ++ "\">" ++ escape i.label ++ "</a></li>"

/-- The menu. -/
def navigation (items : List NavItem) : String :=
  "<ul class=\"nav\">" ++ String.join (items.map navEntry) ++ "</ul>"

/-- The links to the pages before and after. -/
def pagination (p : Pagination) : String :=
  let newer := match p.prevUrl? with
    | some url => "<a class=\"newer-posts\" href=\"" ++ escape url ++ "\">&larr; Newer Posts</a>"
    | none => ""
  let older := match p.nextUrl? with
    | some url => "<a class=\"older-posts\" href=\"" ++ escape url ++ "\">Older Posts &rarr;</a>"
    | none => ""
  "<nav class=\"pagination\" role=\"navigation\">" ++ newer ++
    "<span class=\"page-number\">Page " ++ Text.showInt p.page.toNat ++ " of " ++
    Text.showInt p.pages.toNat ++ "</span>" ++ older ++ "</nav>"

/-- The description of the page that a request asks for. -/
def description (r : Request) : String :=
  match r.post with
  | some p => p.metaDescription
  | none => r.blog.description

/-- The address under which the page that a request asks for is known. -/
def canonicalUrl (r : Request) : String :=
  match r.post with
  | some p => absoluteUrl r.blog.url p.url
  | none => absoluteUrl r.blog.url (r.pagination.pageUrl r.pagination.page)

/-- The part of the head of a page that describes it. -/
def head (r : Request) (generator : String) : String :=
  let about :=
    if (description r).isEmpty then ""
    else "<meta name=\"description\" content=\"" ++ escape (description r) ++ "\" />\n"
  about ++ "<link rel=\"canonical\" href=\"" ++ escape (canonicalUrl r) ++ "\" />\n" ++
    "<meta name=\"generator\" content=\"" ++ escape generator ++ "\" />\n" ++
    "<link rel=\"alternate\" type=\"application/rss+xml\" title=\"" ++ escape r.blog.title ++
    "\" href=\"" ++ escape (absoluteUrl r.blog.url "/rss/") ++ "\" />\n" ++ r.blog.headInjection

/-- A tag by its name, with a link to its archive if `link` is set. -/
def tag (link : Bool) (t : Tag) : String :=
  if link then "<a href=\"" ++ escape t.url ++ "\">" ++ escape t.name ++ "</a>" else escape t.name

/-- Tags with a separator between them and texts around them. -/
def tags (link : Bool) (before separator after : String) (ts : List Tag) : String :=
  escape before ++ (escape separator).intercalate (ts.map (tag link)) ++ escape after

/-- The classes for the kind of page that a request asks for. -/
def bodyClass (r : Request) : String :=
  let kind := match r.kind with
    | .index => "home-template"
    | .post => "post-template"
    | .page => "page-template page-" ++ (r.post.map Post.slug).getD ""
    | .tag => "tag-template tag-" ++ (r.tag.map Tag.slug).getD ""
    | .author => "author-template author-" ++ (r.author.map Author.slug).getD ""
  if 1 < r.pagination.page then kind ++ " paged archive-template" else kind

/-- The classes of a post, of no post if there is none in focus. -/
def postClass : Option Post → String
  | none => "post"
  | some p =>
    "post" ++ (if p.isFeatured then " featured" else "") ++ (if p.isPage then " page" else "") ++
      String.join (p.tags.map fun t => " tag-" ++ t.slug)

end BlogTheme.Markup
