import BlogTheme.Proofs.Html.Escaped
import BlogTheme.Proofs.Outcome
import BlogTheme.Proofs.Render.Plain

/-!
# Values without markup

A value is escaped if it is no markup, or is markup that is escaped; a place is
escaped if escaping is switched on there and everything that can be reached from it is
escaped. Paths stand for escaped values at such places (`Path.isEscaped_resolve`), and
readers find them, apart from those that write data as markup (`Reader.read_yields`).
-/

namespace BlogTheme

open Template (Argument)

/-! ## Values and places -/

/-- The value is no markup, or is markup that is escaped. -/
def Value.IsEscaped : Value → Prop
  | .markup s => Html.IsEscaped s
  | _ => True

/-- What a scope holds is escaped. -/
structure Scope.IsEscaped (s : Scope) : Prop where
  subject : s.subject.IsEscaped
  hash : ∀ entry ∈ s.hash, entry.2.IsEscaped

/-- Values are escaped where they are written, and what the place holds is escaped
already. -/
structure Frame.IsEscaped (f : Frame) : Prop where
  raw : f.raw = false
  body : Html.IsEscaped f.body
  slots : ∀ entry ∈ f.slots, Html.IsEscaped entry.2
  scopes : ∀ s ∈ f.scopes, s.IsEscaped

namespace Value

theorem isEscaped_ofOption {make : α → Value} {a? : Option α} (h : ∀ a, (make a).IsEscaped) :
    (ofOption make a?).IsEscaped := by
  cases a? with
  | none => trivial
  | some a => exact h a

theorem isEscaped_orElse {v other : Value} (hv : v.IsEscaped) (ho : other.IsEscaped) :
    (v.orElse other).IsEscaped := by
  unfold orElse
  split
  · exact ho
  · exact hv

end Value

theorem Post.isEscaped_field (p : Post) (name : String) : (p.field name).IsEscaped := by
  unfold Post.field
  split <;> first | trivial | exact Value.isEscaped_ofOption fun _ => trivial

theorem Author.isEscaped_field (a : Author) (name : String) : (a.field name).IsEscaped := by
  unfold Author.field
  split <;> trivial

theorem Blog.isEscaped_field (b : Blog) (name : String) : (b.field name).IsEscaped := by
  unfold Blog.field
  split <;> trivial

/-- No field of anything is markup. -/
theorem Value.isEscaped_field (v : Value) (name : String) : (v.field name).IsEscaped := by
  have listField (length : Nat) : (listField length name).IsEscaped := by
    unfold listField
    split <;> trivial
  cases v with
  | post p => exact p.isEscaped_field name
  | author a => exact a.isEscaped_field name
  | blog b => exact b.isEscaped_field name
  | tag t =>
    simp only [field, Tag.field]
    split <;> trivial
  | navItem i =>
    simp only [field, NavItem.field]
    split <;> trivial
  | pagination p =>
    simp only [field, Pagination.field]
    split <;> first | trivial | exact isEscaped_ofOption fun _ => trivial
  | posts ps => exact listField _
  | tags ts => exact listField _
  | navigation is => exact listField _
  | _ => trivial

theorem Request.isEscaped_field (r : Request) (name : String) : (r.field name).IsEscaped := by
  unfold Request.field
  split <;> first | trivial | exact Value.isEscaped_ofOption fun _ => trivial

/-! ## Paths -/

namespace Scope

variable {s : Scope}

theorem IsEscaped.given (hs : s.IsEscaped) (key : String) : (s.given key).IsEscaped := by
  unfold Scope.given
  cases hlookup : s.hash.lookup key with
  | none => trivial
  | some v => exact hs.hash (key, v) (mem_of_lookup hlookup)

theorem IsEscaped.lookup (hs : s.IsEscaped) (name : String) : (s.lookup name).IsEscaped := by
  unfold Scope.lookup
  split_ifs
  · cases s.iteration with
    | none => trivial
    | some i =>
      simp only [Option.bind_some, Iteration.pseudo?]
      split <;> trivial
  · exact hs.subject
  · simp only
    split
    · exact hs.given name
    · exact s.subject.isEscaped_field name

end Scope

namespace Path

variable {scopes : List Scope} (hs : ∀ s ∈ scopes, s.IsEscaped)
include hs

theorem isEscaped_subject : (subject scopes).IsEscaped := by
  cases scopes with
  | nil => trivial
  | cons s scopes => exact (hs s List.mem_cons_self).subject

theorem isEscaped_lookup (request : Request) (name : String) :
    (lookup request name scopes).IsEscaped := by
  induction scopes with
  | nil =>
    exact Value.isEscaped_orElse (request.isEscaped_field name) (request.blog.isEscaped_field name)
  | cons s scopes ih =>
    exact Value.isEscaped_orElse ((hs s List.mem_cons_self).lookup name)
      (ih fun s' hs' => hs s' (List.mem_cons_of_mem _ hs'))

omit hs in
theorem isEscaped_follow {v : Value} (hv : v.IsEscaped) (fields : List String) :
    (follow v fields).IsEscaped := by
  induction fields generalizing v with
  | nil => exact hv
  | cons name fields ih => exact ih (v.isEscaped_field name)

theorem isEscaped_resolveHere (request : Request) (cs : List Char) :
    (resolveHere request scopes cs).IsEscaped := by
  unfold resolveHere
  split
  · exact isEscaped_subject hs
  · exact isEscaped_subject hs
  · exact isEscaped_follow (isEscaped_subject hs) _
  · exact isEscaped_follow (isEscaped_lookup hs request _) _

/-- Paths stand for escaped values. -/
theorem isEscaped_resolve (request : Request) (path : String) :
    (resolve request scopes path).IsEscaped := by
  simp only [resolve, resolveChars]
  split
  · exact isEscaped_resolveHere (fun s hmem => hs s (List.mem_of_mem_drop hmem)) request _
  · trivial

end Path

/-! ## Readers -/

/-- What was read is escaped. -/
def Reading.IsEscaped (r : Reading) : Prop :=
  r.toValue.IsEscaped

namespace Reading

variable (page : Page) (f : Frame) (c : ValuedCall)

theorem plural_yields : Yields Value.IsEscaped (plural c) := by
  refine .of_bind fun v => ?_
  cases v.toInt? with
  | none => exact .error trivial
  | some n => exact .of_bind fun _ => .ok trivial

theorem tell_yields (v : Value) : Yields Value.IsEscaped (tell page c v) := by
  refine .of_bind fun m? => ?_
  cases m? with
  | none => exact .ok trivial
  | some m =>
    refine .of_bind fun ago => ?_
    split
    · exact .ok trivial
    · exact .of_bind fun _ => .ok trivial

theorem date_yields : Yields Value.IsEscaped (date page f c) := by
  unfold date
  split
  · exact tell_yields page c _
  · exact .of_bind (tell_yields page c)

theorem excerpt_yields : Yields Value.IsEscaped (excerpt page f c) := by
  unfold excerpt
  cases Focus.post? page.request f.scopes with
  | none => exact .ok trivial
  | some p => exact .of_bind fun _ => .ok trivial

theorem pageUrl_yields : Yields Value.IsEscaped (pageUrl page c) := by
  unfold pageUrl
  cases c.params with
  | nil => exact .error trivial
  | cons g params =>
    simp only
    split
    · exact .ok (Value.isEscaped_ofOption fun _ => trivial)
    · split
      · exact .ok (Value.isEscaped_ofOption fun _ => trivial)
      · refine .of_bind fun v => ?_
        cases v.toInt? with
        | none => exact .error trivial
        | some n => exact .ok trivial

theorem isEscaped_url (absolute : Bool) : (url page f absolute).IsEscaped := by
  unfold url
  cases Path.subject f.scopes with
  | post p | tag t | author a | navItem i => trivial
  | _ => cases Focus.post? page.request f.scopes <;> trivial

theorem isEscaped_image (absolute : Bool) : (image page f absolute).IsEscaped := by
  simp only [image]
  split <;> split <;> trivial

theorem isEscaped_entityName : (entityName page f).IsEscaped := by
  unfold entityName
  cases Path.subject f.scopes with
  | tag t | author a => trivial
  | _ =>
    cases Focus.tag? page.request f.scopes with
    | some t => trivial
    | none => cases Focus.author? page.request f.scopes <;> trivial

theorem isEscaped_entitySlug : (entitySlug f).IsEscaped :=
  Value.isEscaped_orElse (Value.isEscaped_field _ _) (Value.isEscaped_ofOption fun _ => trivial)

end Reading

/-- Readers find escaped values, apart from those that write data as markup. -/
theorem Reader.read_yields (page : Page) {f : Frame} (hf : f.IsEscaped) (c : ValuedCall)
    {r : Reader} (hr : (Helper.reader r).isTrusted = false) :
    Yields Reading.IsEscaped (r.read page f c) := by
  cases r with
  | unescaped | content | headMarkup | footMarkup => cases hr
  | condition holds =>
    simp only [Reader.read]
    split
    · exact .error trivial
    · exact .of_bind fun _ => .ok trivial
  | layoutDirective =>
    simp only [Reader.read]
    split
    · exact .ok trivial
    · exact .error trivial
  | pageBody => exact .ok hf.body
  | asset =>
    refine .of_bind fun v => ?_
    simp only
    split
    · exact .error trivial
    · exact .ok trivial
  | plural => exact (Reading.plural_yields c).bind fun _ h => .ok h
  | image => exact .of_bind fun absolute => .ok (Reading.isEscaped_image page f absolute)
  | url => exact .of_bind fun absolute => .ok (Reading.isEscaped_url page f absolute)
  | date => exact (Reading.date_yields page f c).bind fun _ h => .ok h
  | blogField field => exact .ok (page.request.blog.isEscaped_field field)
  | tagUrl => exact .of_bind fun _ => .ok (Value.isEscaped_ofOption fun _ => trivial)
  | name => exact .ok (Reading.isEscaped_entityName page f)
  | excerpt => exact (Reading.excerpt_yields page f c).bind fun _ h => .ok h
  | prevPostField field => exact .ok (Value.isEscaped_ofOption fun p => p.isEscaped_field field)
  | nextPostField field => exact .ok (Value.isEscaped_ofOption fun p => p.isEscaped_field field)
  | authorField field => exact .ok (Value.isEscaped_ofOption fun a => a.isEscaped_field field)
  | slug => exact .ok (Reading.isEscaped_entitySlug f)
  | pageUrl => exact (Reading.pageUrl_yields page c).bind fun _ h => .ok h
  | path p => exact .ok (Path.isEscaped_resolve hf.scopes page.request p)
  | tagName | tagSlug | post | title | postId | hits | prevPost | nextPost | author | navLabel =>
    exact .ok (Value.isEscaped_ofOption fun _ => trivial)
  | _ => exact .ok trivial

end BlogTheme
