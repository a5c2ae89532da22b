import BlogTheme.Date.Calendar
import BlogTheme.Text.Slug

/-!
# What a blog consists of

The blog itself, its posts, tags and authors, and the entries of its menu, as
the request for a page carries them.
-/

namespace BlogTheme

/-- Settings of the whole blog. -/
structure Blog where
  title : String := ""
  /-- The address of the blog, without a slash at its end. -/
  url : String := ""
  logo : String := ""
  cover : String := ""
  description : String := ""
  poweredByText : String := ""
  poweredByLink : String := ""
  /-- HTML for the head of every page. -/
  headInjection : String := ""
  /-- HTML for the end of every page. -/
  footInjection : String := ""
  deriving DecidableEq, Repr, Inhabited

/-- A tag of posts. -/
structure Tag where
  id : Int64 := 0
  name : String := ""
  slug : String := ""
  deriving DecidableEq, Repr, Inhabited

/-- The address of a tag's archive. -/
def Tag.url (t : Tag) : String :=
  "/tag/" ++ t.slug ++ "/"

/-- An author of posts. -/
structure Author where
  id : Int64 := 0
  name : String := ""
  slug : String := ""
  email : String := ""
  image : String := ""
  cover : String := ""
  bio : String := ""
  website : String := ""
  location : String := ""
  deriving DecidableEq, Repr, Inhabited

/-- The address of an author's archive. -/
def Author.url (a : Author) : String :=
  "/author/" ++ a.slug ++ "/"

/-- A post or a static page. -/
structure Post where
  id : Int64 := 0
  uuid : String := ""
  title : String := ""
  slug : String := ""
  html : String := ""
  image : String := ""
  metaDescription : String := ""
  isFeatured : Bool := false
  isPage : Bool := false
  /-- Drafts have no date. -/
  publishedAt : Option Date.Moment := none
  hits : Int64 := 0
  tags : List Tag := []
  author : Option Author := none
  deriving DecidableEq, Repr, Inhabited

/-- The address of a post. -/
def Post.url (p : Post) : String :=
  "/" ++ p.slug ++ "/"

/-- An entry of the menu. -/
structure NavItem where
  label : String := ""
  url : String := ""
  /-- Whether the entry leads to the page being shown. -/
  isCurrent : Bool := false
  deriving DecidableEq, Repr, Inhabited

/-- The slug of an entry, made from its label. -/
def NavItem.slug (i : NavItem) : String :=
  Text.slugify i.label

end BlogTheme
