/-!
# Helpers

The names that templates can invoke. A reader yields a value; a builder makes
a part of the page from its body or from another template, and is no argument of
other helpers.

Names are matched as they are written: a dotted name such as `author.name` is
a name of its own and no path.
-/

namespace BlogTheme

/-- Helpers that yield a value. -/
inductive Reader where
  /-- Nothing. -/
  | nothing
  /-- Whether the argument is truthy, or is not when `holds` is false. -/
  | condition (holds : Bool)
  /-- A flag that tells the place in the innermost loop. -/
  | pseudo (name : String)
  /-- The directive that names a layout. -/
  | layoutDirective
  /-- The page so far, in a layout. -/
  | pageBody
  | asset
  /-- The argument without escaping, or a body in which nothing is escaped. -/
  | unescaped
  | metaTitle
  | metaDescription
  | headMarkup
  | footMarkup
  | bodyClass
  | postClass
  | plural
  | image
  | url
  | date
  | blogField (field : String)
  | posts
  | recommends
  | allTags
  /-- The tags of the post in focus. -/
  | postTags
  | tagName
  | tagSlug
  | tagUrl
  /-- The name of the tag or author in focus. -/
  | name
  | post
  | excerpt
  | title
  | content
  | featured
  | postId
  | hits
  | prevPost
  | nextPost
  | prevPostField (field : String)
  | nextPostField (field : String)
  | author
  | authorField (field : String)
  | navigation
  | navLabel
  | navCurrent
  | slug
  | pagination
  | hasPrev
  | hasNext
  | pageNumber
  | pageCount
  | pageUrl
  /-- The value of a path. -/
  | path (path : String)
  deriving DecidableEq, Repr

/-- Helpers that make a part of the page. -/
inductive Builder where
  /-- Repeats its body for the items of its argument. -/
  | forEach
  /-- Keeps its body for a layout. -/
  | contentFor
  /-- Writes what was kept for it, else its body. -/
  | block
  /-- Writes a partial. -/
  | partialOf
  deriving DecidableEq, Repr

/-- A helper. -/
inductive Helper where
  | reader (r : Reader)
  | builder (b : Builder)
  deriving DecidableEq, Repr

/-- Helpers under the names that invoke them. -/
abbrev Helpers := List (String × Helper)

namespace Helpers

/-- The helper that a name invokes. -/
def find? (helpers : Helpers) (name : String) : Option Helper :=
  helpers.lookup name

/-- The helpers that every theme can use. -/
def builtin : Helpers := [
  ("null", .reader .nothing),
  ("if", .reader (.condition true)),
  ("unless", .reader (.condition false)),
  ("foreach", .builder .forEach),
  ("@first", .reader (.pseudo "@first")),
  ("@last", .reader (.pseudo "@last")),
  ("@even", .reader (.pseudo "@even")),
  ("@odd", .reader (.pseudo "@odd")),
  ("!<", .reader .layoutDirective),
  ("body", .reader .pageBody),
  ("contentFor", .builder .contentFor),
  ("block", .builder .block),
  (">", .builder .partialOf),
  ("asset", .reader .asset),
  ("encode", .reader .unescaped),
  ("meta_title", .reader .metaTitle),
  ("meta_description", .reader .metaDescription),
  ("ghost_head", .reader .headMarkup),
  ("ghost_foot", .reader .footMarkup),
  ("body_class", .reader .bodyClass),
  ("post_class", .reader .postClass),
  ("plural", .reader .plural),
  ("image", .reader .image),
  ("url", .reader .url),
  ("date", .reader .date),
  ("@blog.title", .reader (.blogField "title")),
  ("@blog.url", .reader (.blogField "url")),
  ("@blog.logo", .reader (.blogField "logo")),
  ("@blog.cover", .reader (.blogField "cover")),
  ("@blog.description", .reader (.blogField "description")),
  ("@blog.PoweredByText", .reader (.blogField "PoweredByText")),
  ("@blog.PoweredByLink", .reader (.blogField "PoweredByLink")),
  ("@blog.navigation", .reader .navigation),
  ("posts", .reader .posts),
  ("recommends", .reader .recommends),
  ("all_tags", .reader .allTags),
  ("tags", .reader .postTags),
  ("tag_name", .reader .tagName),
  ("tag.name", .reader .tagName),
  ("tag.slug", .reader .tagSlug),
  ("tag_url", .reader .tagUrl),
  ("name", .reader .name),
  ("post", .reader .post),
  ("excerpt", .reader .excerpt),
  ("title", .reader .title),
  ("content", .reader .content),
  ("featured", .reader .featured),
  ("id", .reader .postId),
  ("post.id", .reader .postId),
  ("hits", .reader .hits),
  ("prev_post", .reader .prevPost),
  ("prev_post.title", .reader (.prevPostField "title")),
  ("prev_post.url", .reader (.prevPostField "url")),
  ("next_post", .reader .nextPost),
  ("next_post.title", .reader (.nextPostField "title")),
  ("next_post.url", .reader (.nextPostField "url")),
  ("author", .reader .author),
  ("bio", .reader (.authorField "bio")),
  ("email", .reader (.authorField "email")),
  ("website", .reader (.authorField "website")),
  ("cover", .reader (.authorField "cover")),
  ("location", .reader (.authorField "location")),
  ("author.name", .reader (.authorField "name")),
  ("author.bio", .reader (.authorField "bio")),
  ("author.email", .reader (.authorField "email")),
  ("author.website", .reader (.authorField "website")),
  ("author.image", .reader (.authorField "image")),
  ("author.cover", .reader (.authorField "cover")),
  ("author.location", .reader (.authorField "location")),
  ("navigation", .reader .navigation),
  ("label", .reader .navLabel),
  ("current", .reader .navCurrent),
  ("slug", .reader .slug),
  ("pagination", .reader .pagination),
  ("prev", .reader .hasPrev),
  ("pagination.prev", .reader .hasPrev),
  ("next", .reader .hasNext),
  ("pagination.next", .reader .hasNext),
  ("page", .reader .pageNumber),
  ("pages", .reader .pageCount),
  ("page_url", .reader .pageUrl),
  ("pageUrl", .reader .pageUrl),
  ("pagination.total", .reader (.path "pagination.total")),
  ("../pagination.total", .reader (.path "../pagination.total"))]

/-- No helpers at all. -/
def none : Helpers := []

/-- The names that invoke helpers, in order. -/
def names (helpers : Helpers) : List String :=
  (helpers.map Prod.fst).mergeSort fun a b => !(b < a)

end Helpers

end BlogTheme
