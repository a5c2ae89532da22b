import BlogTheme.Engine.Cache
import BlogTheme.Engine.Resolver
import BlogTheme.Render.Output

/-!
# The engine

An engine finds templates, parses them, keeps the trees for later, gathers them
into themes, and renders pages. A tree is used again only for a source with the digest of
the one that it was parsed from.
-/

namespace BlogTheme

/-- A parsed template, with the digest of the source it was parsed from and a number
that tells it from every other tree that the engine has made. -/
structure Compiled where
  template : Template
  digest : UInt64
  serial : Nat
  deriving Repr

/-- What finds, parses, keeps and renders templates. -/
structure Engine where
  resolver : Resolver
  cache : Cache Compiled
  /-- What tells an edited source from the one that a tree was parsed from. -/
  digest : String → UInt64 := hash
  /-- How many trees have been made. -/
  made : Nat := 0
  helpers : Helpers := .builtin
  config : Config := {}

namespace Engine

/-- An engine whose cache has the capacity that the configuration gives. -/
def ofConfig (resolver : Resolver) (config : Config) : Engine :=
  { resolver, config, cache := .ofCapacity config.cacheCapacity }

/-- The tree of a template: the one that is kept, if it has the digest of the source
that there is now. -/
def compile (e : Engine) (name : String) : Except ThemeError Compiled × Engine :=
  let name := Template.canonicalName name
  match e.resolver.resolve name with
  | .error fault => (.error fault, e)
  | .ok located =>
    let digest := e.digest located.text
    let (kept, cache) := e.cache.getFresh? (fun c => c.digest == digest) name
    match kept with
    | some c => (.ok c, { e with cache })
    | none =>
      match Template.parse located.text name with
      | .error fault => (.error fault, { e with cache })
      | .ok template =>
        let c := { template, digest, serial := e.made }
        (.ok c, { e with cache := cache.set name c, made := e.made + 1 })

/-- Adds the templates of these names to a theme, up to the first that has no
tree. -/
def loadNames (e : Engine) (theme : Theme) : List String → Except ThemeError Theme × Engine
  | [] => (.ok theme, e)
  | name :: names =>
    match e.compile name with
    | (.error fault, e) => (.error fault, e)
    | (.ok c, e) => e.loadNames (theme.insert c.template) names

/-- The theme of all templates that the resolver lists. -/
def loadTheme (e : Engine) : Except ThemeError Theme × Engine :=
  match e.resolver.list with
  | .error fault => (.error fault, e)
  | .ok names => e.loadNames .empty names

/-- The page that an engine makes of a theme for a request. -/
def page (e : Engine) (theme : Theme) (request : Request) : Page :=
  { request, theme, helpers := e.helpers, config := e.config }

/-- Renders a template that has been parsed, against a theme. -/
def renderTemplate (e : Engine) (theme : Theme) (t : Template) (request : Request) :
    Except ThemeError Output :=
  (e.page theme request).renderTemplate .root t

/-- Renders the template of a name from a scope. -/
def renderFrom (e : Engine) (theme : Theme) (name : String) (request : Request) (root : Scope) :
    Except ThemeError Output :=
  let name := Template.canonicalName name
  match theme.find? name with
  | none => .error (.templateNotFound name)
  | some t => (e.page theme request).renderTemplate root t

/-- Renders the template of a name. -/
def render (e : Engine) (theme : Theme) (name : String) (request : Request) :
    Except ThemeError Output :=
  e.renderFrom theme name request .root

/-- Whether the tree of a template is kept. -/
def isCached (e : Engine) (name : String) : Bool :=
  e.cache.contains (Template.canonicalName name)

/-- Forgets all trees. -/
def clearCache (e : Engine) : Engine :=
  { e with cache := e.cache.clear }

end Engine

end BlogTheme
