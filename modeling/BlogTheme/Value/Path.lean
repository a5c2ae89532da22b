import BlogTheme.Value.Scope

/-!
# Paths

A path names a value: `../` steps out of the innermost scope, `./` asks the
innermost subject, and fields are separated by points. The first part is looked up from the
innermost scope outwards, then in the request, then in the blog.

Scopes are listed innermost first.
-/

namespace BlogTheme

/-- What a name stands for outside of all scopes: a part of the request. -/
def Request.field (r : Request) (name : String) : Value :=
  match name with
  | "post" => .ofOption .post r.post
  | "posts" => .posts r.posts
  | "tag" => .ofOption .tag r.tag
  | "author" => .ofOption .author r.author
  | "navigation" => .navigation r.navigation
  | "pagination" => .pagination r.pagination
  | "blog" => .blog r.blog
  | "@blog" => .blog r.blog
  | "all_tags" => .tags r.allTags
  | "recommends" => .posts r.recommends
  | "prev_post" => .ofOption .post r.prevPost
  | "next_post" => .ofOption .post r.nextPost
  | "now" => .date r.now
  | _ => .absent

/-- The first of two values that is there. -/
def Value.orElse (v : Value) (other : Value) : Value :=
  if v.isAbsent then other else v

namespace Path

open BlogTheme.Text

/-- The number of `../` that a path starts with, and the rest of it. A rest of
`..` counts as one more. -/
def splitParents : List Char → Nat × List Char
  | '.' :: '.' :: '/' :: cs =>
    let (depth, rest) := splitParents cs
    (depth + 1, rest)
  | ['.', '.'] => (1, [])
  | cs => (0, cs)

/-- The parts of a text between points. -/
def segments : List Char → List (List Char)
  | [] => [[]]
  | c :: cs =>
    if c = '.' then [] :: segments cs
    else match segments cs with
      | s :: ss => (c :: s) :: ss
      | [] => [[c]]

/-- The subject of the innermost scope. -/
def subject : List Scope → Value
  | [] => .absent
  | s :: _ => s.subject

/-- What a name stands for: looked up from the innermost scope outwards, then
in the request, then in the blog. -/
def lookup (request : Request) (name : String) : List Scope → Value
  | [] => (request.field name).orElse (request.blog.field name)
  | s :: scopes => (s.lookup name).orElse (lookup request name scopes)

/-- The value reached by reading fields one after the other. -/
def follow (v : Value) (fields : List String) : Value :=
  fields.foldl Value.field v

/-- The fields that a text names after the start of a path; an empty text names
none. -/
def fieldNames (cs : List Char) : List String :=
  if cs.isEmpty then [] else (segments cs).map String.ofList

/-- The value of a path without `../` in front. -/
def resolveHere (request : Request) (scopes : List Scope) (cs : List Char) : Value :=
  match cs with
  | [] => subject scopes
  | ['.'] => subject scopes
  | '.' :: '/' :: cs => follow (subject scopes) (fieldNames cs)
  | cs =>
    let first := cs.takeWhile (· != '.')
    let rest := (cs.dropWhile (· != '.')).drop 1
    follow (lookup request (String.ofList first) scopes) (fieldNames rest)

/-- The value of a path. Blanks around it do not count; a path that steps out
of more scopes than there are has none. -/
def resolveChars (request : Request) (scopes : List Scope) (cs : List Char) : Value :=
  let (depth, rest) := splitParents (trim cs)
  if depth ≤ scopes.length then resolveHere request (scopes.drop depth) rest else .absent

/-- The value of a path. -/
def resolve (request : Request) (scopes : List Scope) (path : String) : Value :=
  resolveChars request scopes path.toList

end Path

end BlogTheme
