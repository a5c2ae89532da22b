import BlogTheme.Date.Reading
import BlogTheme.Date.Stamp
import BlogTheme.Json.Codec
import BlogTheme.Json.Reader
import BlogTheme.Request.Basic

/-!
# Requests as JSON documents

Every field of a request may be left out; it then has its usual value. Times
are written as stamps and read with the looser grammar for dates.
-/

namespace BlogTheme

open Json (Codec Member Refusal)

namespace Date

/-- Moments, as strings. -/
def Moment.codec : Codec Moment where
  encode m := Json.ofString m.stamp
  decode j := do
    let text ← Json.Decode.string j
    match Moment.read? text with
    | some m => return m
    | none => throw .unfit

end Date

/-- The fields of a blog. -/
def Blog.fields : List (Member Blog) := [
  Codec.string.field "title" Blog.title fun v b => { b with title := v },
  Codec.string.field "url" Blog.url fun v b => { b with url := v },
  Codec.string.field "logo" Blog.logo fun v b => { b with logo := v },
  Codec.string.field "cover" Blog.cover fun v b => { b with cover := v },
  Codec.string.field "description" Blog.description fun v b => { b with description := v },
  Codec.string.field "powered_by_text" Blog.poweredByText fun v b => { b with poweredByText := v },
  Codec.string.field "powered_by_link" Blog.poweredByLink fun v b => { b with poweredByLink := v },
  Codec.string.field "code_injection_head" Blog.headInjection
    fun v b => { b with headInjection := v },
  Codec.string.field "code_injection_foot" Blog.footInjection
    fun v b => { b with footInjection := v }]

/-- Blogs. -/
def Blog.codec : Codec Blog :=
  .record Blog.fields {}

/-- The fields of a tag. -/
def Tag.fields : List (Member Tag) := [
  Codec.int64.field "id" Tag.id fun v t => { t with id := v },
  Codec.string.field "name" Tag.name fun v t => { t with name := v },
  Codec.string.field "slug" Tag.slug fun v t => { t with slug := v }]

/-- Tags. -/
def Tag.codec : Codec Tag :=
  .record Tag.fields {}

/-- The fields of an author. -/
def Author.fields : List (Member Author) := [
  Codec.int64.field "id" Author.id fun v a => { a with id := v },
  Codec.string.field "name" Author.name fun v a => { a with name := v },
  Codec.string.field "slug" Author.slug fun v a => { a with slug := v },
  Codec.string.field "email" Author.email fun v a => { a with email := v },
  Codec.string.field "image" Author.image fun v a => { a with image := v },
  Codec.string.field "cover" Author.cover fun v a => { a with cover := v },
  Codec.string.field "bio" Author.bio fun v a => { a with bio := v },
  Codec.string.field "website" Author.website fun v a => { a with website := v },
  Codec.string.field "location" Author.location fun v a => { a with location := v }]

/-- Authors. -/
def Author.codec : Codec Author :=
  .record Author.fields {}

/-- The fields of a post. -/
def Post.fields : List (Member Post) := [
  Codec.int64.field "id" Post.id fun v p => { p with id := v },
  Codec.string.field "uuid" Post.uuid fun v p => { p with uuid := v },
  Codec.string.field "title" Post.title fun v p => { p with title := v },
  Codec.string.field "slug" Post.slug fun v p => { p with slug := v },
  Codec.string.field "html" Post.html fun v p => { p with html := v },
  Codec.string.field "image" Post.image fun v p => { p with image := v },
  Codec.string.field "meta_description" Post.metaDescription
    fun v p => { p with metaDescription := v },
  Codec.bool.field "is_featured" Post.isFeatured fun v p => { p with isFeatured := v },
  Codec.bool.field "is_page" Post.isPage fun v p => { p with isPage := v },
  Date.Moment.codec.option.field "published_at" Post.publishedAt
    fun v p => { p with publishedAt := v },
  Codec.int64.field "hits" Post.hits fun v p => { p with hits := v },
  Tag.codec.list.field "tags" Post.tags fun v p => { p with tags := v },
  Author.codec.option.field "author" Post.author fun v p => { p with author := v }]

/-- Posts. -/
def Post.codec : Codec Post :=
  .record Post.fields {}

/-- The fields of an entry of the menu. -/
def NavItem.fields : List (Member NavItem) := [
  Codec.string.field "label" NavItem.label fun v i => { i with label := v },
  Codec.string.field "url" NavItem.url fun v i => { i with url := v },
  Codec.bool.field "is_current" NavItem.isCurrent fun v i => { i with isCurrent := v }]

/-- Entries of the menu. -/
def NavItem.codec : Codec NavItem :=
  .record NavItem.fields {}

/-- The fields of a pagination. -/
def Pagination.fields : List (Member Pagination) := [
  Codec.uint32.field "page" Pagination.page fun v p => { p with page := v },
  Codec.uint32.field "pages" Pagination.pages fun v p => { p with pages := v },
  Codec.string.field "base_url" Pagination.baseUrl fun v p => { p with baseUrl := v }]

/-- Paginations. -/
def Pagination.codec : Codec Pagination :=
  .record Pagination.fields {}

namespace PageKind

/-- The word for a kind of page. -/
def word : PageKind → String
  | index => "index"
  | post => "post"
  | page => "page"
  | tag => "tag"
  | author => "author"

/-- The kind of page that a word stands for. -/
def ofWord? (w : String) : Option PageKind :=
  [index, post, page, tag, author].find? (·.word == w)

/-- Kinds of pages, as words. -/
def codec : Codec PageKind where
  encode k := Json.ofString k.word
  decode := Json.Decode.word ofWord?

end PageKind

namespace Request

/-- The fields of a request. -/
def fields : List (Member Request) := [
  Blog.codec.field "blog" Request.blog fun v r => { r with blog := v },
  Post.codec.option.field "post" Request.post fun v r => { r with post := v },
  Post.codec.list.field "posts" Request.posts fun v r => { r with posts := v },
  Tag.codec.option.field "tag" Request.tag fun v r => { r with tag := v },
  Author.codec.option.field "author" Request.author fun v r => { r with author := v },
  NavItem.codec.list.field "navigation" Request.navigation fun v r => { r with navigation := v },
  Pagination.codec.field "pagination" Request.pagination fun v r => { r with pagination := v },
  Tag.codec.list.field "all_tags" Request.allTags fun v r => { r with allTags := v },
  Post.codec.list.field "recommends" Request.recommends fun v r => { r with recommends := v },
  Post.codec.option.field "prev_post" Request.prevPost fun v r => { r with prevPost := v },
  Post.codec.option.field "next_post" Request.nextPost fun v r => { r with nextPost := v },
  PageKind.codec.field "kind" Request.kind fun v r => { r with kind := v },
  Date.Moment.codec.field "now" Request.now fun v r => { r with now := v }]

/-- Requests; one that does not give its time came at `now`. -/
def codec (now : Date.Moment) : Codec Request :=
  .record fields { now }

/-- Reads a request from the text of a document. -/
def read (now : Date.Moment) (text : String) : Except Refusal Request :=
  Json.decode (codec now).decode text

end Request

end BlogTheme
