import BlogTheme.Value.Path

/-!
# What is in focus

Helpers speak about the post, tag, author or entry of the menu in focus: the
innermost subject of that kind, or else the one that the request is about.
-/

namespace BlogTheme.Focus

/-- A post, if the value is one. -/
def asPost? : Value → Option Post
  | .post p => some p
  | _ => none

/-- A tag, if the value is one. -/
def asTag? : Value → Option Tag
  | .tag t => some t
  | _ => none

/-- An author, if the value is one or is a post that has one. -/
def asAuthor? : Value → Option Author
  | .author a => some a
  | .post p => p.author
  | _ => none

/-- An entry of the menu, if the value is one. -/
def asNavItem? : Value → Option NavItem
  | .navItem i => some i
  | _ => none

/-- The innermost subject of a kind. -/
def innermost? (kind : Value → Option α) (scopes : List Scope) : Option α :=
  scopes.findSome? fun s => kind s.subject

/-- The post in focus. -/
def post? (request : Request) (scopes : List Scope) : Option Post :=
  (innermost? asPost? scopes).or request.post

/-- The tag in focus. -/
def tag? (request : Request) (scopes : List Scope) : Option Tag :=
  (innermost? asTag? scopes).or request.tag

/-- The author in focus: of an author or a post among the subjects, else of the
post that the request is about, else the author that it is about. -/
def author? (request : Request) (scopes : List Scope) : Option Author :=
  ((innermost? asAuthor? scopes).or (request.post.bind Post.author)).or request.author

/-- The entry of the menu in focus. -/
def navItem? (scopes : List Scope) : Option NavItem :=
  innermost? asNavItem? scopes

/-- The place in the innermost loop. -/
def iteration? (scopes : List Scope) : Option Iteration :=
  scopes.findSome? Scope.iteration

end BlogTheme.Focus
