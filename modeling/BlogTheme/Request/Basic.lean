import BlogTheme.Request.Entity
import BlogTheme.Request.Pagination

/-!
# Requests

A request is all that a page can read: the blog, what the page is about, and
the time at which it was asked for.
-/

namespace BlogTheme

/-- What kind of page is asked for. -/
inductive PageKind where
  | index
  | post
  | page
  | tag
  | author
  deriving DecidableEq, Repr, Inhabited

/-- Everything that a page can read. -/
structure Request where
  blog : Blog := {}
  /-- The post of a page about one post. -/
  post : Option Post := none
  /-- The posts of a listing, in order. -/
  posts : List Post := []
  /-- The tag of a tag archive. -/
  tag : Option Tag := none
  /-- The author of an author archive. -/
  author : Option Author := none
  navigation : List NavItem := []
  pagination : Pagination := {}
  /-- All tags of the blog. -/
  allTags : List Tag := []
  /-- Posts suggested beside the post of the page. -/
  recommends : List Post := []
  prevPost : Option Post := none
  nextPost : Option Post := none
  kind : PageKind := .index
  /-- The time of the request. -/
  now : Date.Moment
  deriving DecidableEq, Repr, Inhabited

end BlogTheme
