import BlogTheme.Value.Basic

/-!
# Fields of values

`Value.field` reads a named field. Things that a blog consists of have fields
under the names that templates use, some under two names; lists have a length;
all other values have no fields.
-/

namespace BlogTheme

/-- A field of a post. -/
def Post.field (p : Post) (name : String) : Value :=
  match name with
  | "id" => .int p.id.toInt
  | "uuid" => .text p.uuid
  | "title" => .text p.title
  | "slug" => .text p.slug
  | "html" => .text p.html
  | "content" => .text p.html
  | "image" => .text p.image
  | "meta_description" => .text p.metaDescription
  | "featured" => .bool p.isFeatured
  | "is_featured" => .bool p.isFeatured
  | "page" => .bool p.isPage
  | "is_page" => .bool p.isPage
  | "published_at" => .ofOption .date p.publishedAt
  | "date" => .ofOption .date p.publishedAt
  | "hits" => .int p.hits.toInt
  | "tags" => .tags p.tags
  | "author" => .ofOption .author p.author
  | "url" => .text p.url
  | _ => .absent

/-- A field of a tag. -/
def Tag.field (t : Tag) (name : String) : Value :=
  match name with
  | "id" => .int t.id.toInt
  | "name" => .text t.name
  | "slug" => .text t.slug
  | "url" => .text t.url
  | _ => .absent

/-- A field of an author. -/
def Author.field (a : Author) (name : String) : Value :=
  match name with
  | "id" => .int a.id.toInt
  | "name" => .text a.name
  | "slug" => .text a.slug
  | "email" => .text a.email
  | "image" => .text a.image
  | "cover" => .text a.cover
  | "bio" => .text a.bio
  | "website" => .text a.website
  | "location" => .text a.location
  | "url" => .text a.url
  | _ => .absent

/-- A field of an entry of the menu. -/
def NavItem.field (i : NavItem) (name : String) : Value :=
  match name with
  | "label" => .text i.label
  | "url" => .text i.url
  | "current" => .bool i.isCurrent
  | "is_current" => .bool i.isCurrent
  | "slug" => .text i.slug
  | _ => .absent

/-- A field of a pagination. -/
def Pagination.field (p : Pagination) (name : String) : Value :=
  match name with
  | "page" => .int p.page.toNat
  | "pages" => .int p.pages.toNat
  | "total" => .int p.pages.toNat
  | "prev" => .bool p.hasPrev
  | "next" => .bool p.hasNext
  | "prev_url" => .ofOption .text p.prevUrl?
  | "next_url" => .ofOption .text p.nextUrl?
  | _ => .absent

/-- A field of a blog. -/
def Blog.field (b : Blog) (name : String) : Value :=
  match name with
  | "title" => .text b.title
  | "url" => .text b.url
  | "logo" => .text b.logo
  | "cover" => .text b.cover
  | "description" => .text b.description
  | "PoweredByText" => .text b.poweredByText
  | "powered_by_text" => .text b.poweredByText
  | "PoweredByLink" => .text b.poweredByLink
  | "powered_by_link" => .text b.poweredByLink
  | _ => .absent

namespace Value

/-- A field of a list of so many items. -/
def listField (length : Nat) (name : String) : Value :=
  if name = "length" then .int length else .absent

/-- The field of a value with a given name, nothing if it has no such field. -/
def field (v : Value) (name : String) : Value :=
  match v with
  | post p => p.field name
  | tag t => t.field name
  | author a => a.field name
  | navItem i => i.field name
  | pagination p => p.field name
  | blog b => b.field name
  | posts ps => listField ps.length name
  | tags ts => listField ts.length name
  | navigation is => listField is.length name
  | _ => absent

end Value

end BlogTheme
