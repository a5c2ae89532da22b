import BlogTheme.Proofs.Render.Expressions
import BlogTheme.Proofs.Render.Reaching
import BlogTheme.Proofs.Value.Names

/-!
# Flags of loops

`@first`, `@last`, `@even` and `@odd` can be asked for in two ways. The helpers of these names look
for the innermost scope that tells a place in a loop; as paths the names are looked up from the
innermost scope outwards, then in the request and in the blog. Both find the same flag
(`Path.resolve_loopFlag`, by induction on the scopes), only that outside of loops the path stands
for nothing where the helper finds `false`. So the helper yields whether the path is truthy, and a
block of that name renders its body exactly then (`Page.loopFlag_readings`).
-/

namespace BlogTheme

open Template (Argument Invocation Node)
open Rendering (inBlock markup)
open BlogTheme.Path (resolve)

/-! ## The flags -/

/-- The names of the flags of a loop. -/
def Helpers.loopFlags : List String :=
  ["@first", "@last", "@even", "@odd"]

section

variable {name : String} (hname : name ∈ Helpers.loopFlags)
include hname

theorem Helpers.loopFlag_cases :
    name = "@first" ∨ name = "@last" ∨ name = "@even" ∨ name = "@odd" := by
  simpa [loopFlags] using hname

/-- Each place in a loop has the flag. -/
theorem Iteration.exists_flag (place : Iteration) : ∃ b, place.pseudo? name = some (.bool b) := by
  obtain rfl | rfl | rfl | rfl := Helpers.loopFlag_cases hname <;> exact ⟨_, rfl⟩

theorem Helpers.find?_loopFlag : builtin.find? name = some (.reader (.pseudo name)) := by
  obtain rfl | rfl | rfl | rfl := loopFlag_cases hname <;> rfl

theorem Scope.lookup_loopFlag (s : Scope) :
    s.lookup name = (s.iteration.bind fun place => place.pseudo? name).getD .absent := by
  obtain rfl | rfl | rfl | rfl := Helpers.loopFlag_cases hname <;> rfl

namespace Path

/-- Outside of all scopes a flag stands for nothing. -/
theorem lookup_loopFlag_nil (request : Request) : lookup request name [] = .absent := by
  obtain rfl | rfl | rfl | rfl := Helpers.loopFlag_cases hname <;> rfl

/-- Looked up outwards, a flag is that of the innermost place in a loop. -/
theorem lookup_loopFlag (request : Request) (scopes : List Scope) :
    lookup request name scopes =
      ((Focus.iteration? scopes).bind fun place => place.pseudo? name).getD .absent := by
  induction scopes with
  | nil => exact lookup_loopFlag_nil hname request
  | cons s scopes ih =>
    rw [lookup, s.lookup_loopFlag hname, Focus.iteration?, List.findSome?_cons]
    cases s.iteration with
    | none => exact ih
    | some place =>
      obtain ⟨b, hb⟩ := place.exists_flag hname
      simp [hb, Value.orElse, Value.isAbsent]

/-- The path of a flag is that of the innermost place in a loop. -/
theorem resolve_loopFlag (request : Request) (scopes : List Scope) :
    resolve request scopes name =
      ((Focus.iteration? scopes).bind fun place => place.pseudo? name).getD .absent := by
  have hnames : ∀ s ∈ [name], IsName s := by
    obtain rfl | rfl | rfl | rfl := Helpers.loopFlag_cases hname <;> decide
  have hpath : ofNames [name] = name := String.intercalate_singleton
  have hresolve := resolve_ofNames request scopes hnames
  rw [hpath] at hresolve
  exact hresolve.trans (lookup_loopFlag hname request scopes)

/-- Behind scopes that belong to no loop, the innermost place in a loop tells the flag. -/
theorem pseudo?_of_innermost (request : Request) {inner outer : List Scope} {s : Scope}
    {place : Iteration} (hinner : ∀ c ∈ inner, c.iteration = none)
    (hs : s.iteration = some place) :
    place.pseudo? name = some (resolve request (inner ++ s :: outer) name) := by
  obtain ⟨b, hb⟩ := place.exists_flag hname
  rw [resolve_loopFlag hname, Page.iteration?_of_opened hinner hs, Option.bind_some, hb]
  rfl

/-- A scope that belongs to no loop does not hide the flag. -/
theorem resolve_loopFlag_cons (request : Request) {s : Scope} (hs : s.iteration = none)
    (scopes : List Scope) : resolve request (s :: scopes) name = resolve request scopes name := by
  rw [resolve_loopFlag hname, resolve_loopFlag hname, Focus.iteration?, List.findSome?_cons, hs]
  rfl

end Path

/-- The helper finds whether the path is truthy. -/
theorem Reader.read_loopFlag {m : Type → Type} [Monad m] [MonadExcept ThemeError m] (page : Page)
    (f : Frame) (c : Call m) :
    Reader.read page f c (.pseudo name) =
      pure (.flag (resolve page.request f.scopes name).isTruthy) := by
  rw [Path.resolve_loopFlag hname, Reader.read]
  cases (Focus.iteration? f.scopes).bind fun place => place.pseudo? name <;> rfl

end

/-- A flag is written as a word, in which there is nothing to escape. -/
theorem Frame.write_bool (f : Frame) (escaped b : Bool) :
    f.write escaped (.bool b) = if b then "true" else "false" := by
  have hescape : Html.escape (Value.bool b).toText = (Value.bool b).toText := by
    cases b <;> rfl
  rw [write, hescape, ite_self]
  rfl

namespace Page

/-- In the state `st` the helper of this name yields the flag `b`, whatever its arguments are: as an
argument and in running text it is the flag itself, and with a body it renders the body if the flag
holds, else the inverse. -/
structure YieldsFlag (page : Page) (st : RenderState) (name : String) (b : Bool) : Prop where
  argument : page.Evaluates st (.path name) (.bool b)
  inline : ∀ inclusion (i : Invocation), i.name = name →
    (page.invokeInline inclusion i).run st = .ok (.bool b) st
  block : ∀ inclusion (i : Invocation) body inverse, i.name = name →
    (page.invokeBlock inclusion i body inverse).run st =
      (inBlock (markup (if b then body else inverse))).run st
  written : ∀ (i : Invocation) escaped, i.name = name →
    (page.render [.expression i escaped]).run st = .ok (if b then "true" else "false") st
  rendered : ∀ (i : Invocation) body inverse, i.name = name →
    (page.render [.block i body inverse]).outcome st =
      (inBlock (page.render (if b then body else inverse.getD []))).outcome st

section

variable {page : Page} {st : RenderState} {name : String} (hhelpers : page.helpers = .builtin)
  (hname : name ∈ Helpers.loopFlags)
include hhelpers hname

theorem find?_loopFlag : page.helpers.find? name = some (.reader (.pseudo name)) := by
  rw [hhelpers]
  exact Helpers.find?_loopFlag hname

/-- In any position the helper comes to what its flag decides there. -/
theorem invoke_loopFlag (inclusion : Inclusion) {c : PlacedCall} (hc : c.name = name) :
    (page.invoke inclusion c).run st =
      (c.present (.flag (resolve page.request st.scopes name).isTruthy)).run st := by
  subst hc
  rw [invoke, find?_loopFlag hhelpers hname]
  simp only [Helper.run, Reader.run]
  rw [Rendering.run_get_bind, Reader.read_loopFlag hname, pure_bind]

theorem evaluates_loopFlag :
    page.Evaluates st (.path name) (.bool (resolve page.request st.scopes name).isTruthy) := by
  intro inclusion
  let c : PlacedCall := { name, position := .argument }
  have hinvoke : (page.invoke inclusion c).run st =
      (c.present (.flag (resolve page.request st.scopes name).isTruthy)).run st :=
    invoke_loopFlag hhelpers hname inclusion rfl
  rw [invoke, find?_loopFlag hhelpers hname] at hinvoke
  rw [evaluate, find?_loopFlag hhelpers hname]
  exact hinvoke

variable {i : Invocation} (hi : i.name = name)
include hi

theorem invokeBlock_loopFlag (inclusion : Inclusion) (body inverse : Rendering String) :
    (page.invokeBlock inclusion i body inverse).run st =
      (inBlock (markup (if (resolve page.request st.scopes name).isTruthy then body
        else inverse))).run st := by
  refine Rendering.run_around_congr ?_
  rw [invoke_loopFlag hhelpers hname inclusion hi]
  show (PlacedCall.branch _ _).run _ = _
  rw [PlacedCall.branch, apply_ite markup]
  rfl

theorem planExpression_loopFlag (f : Frame) : page.planExpression f i =
    .ok (.write (.bool (resolve page.request f.scopes name).isTruthy)) := by
  subst hi
  rw [planExpression_reader hhelpers (Helpers.find?_loopFlag hname)]
  show (do return Plan.write (← Reader.read page f _ (.pseudo i.name)).toValue) = _
  rw [Reader.read_loopFlag hname]
  rfl

theorem planBlock_loopFlag (f : Frame) : page.planBlock f i =
    .ok (if (resolve page.request f.scopes name).isTruthy then .body [f] else .inverse) := by
  subst hi
  have hne : Reader.pseudo i.name ≠ .unescaped := nofun
  rw [planBlock, find?_loopFlag hhelpers hname]
  simp only [planReaderBlock_eq hne, Reader.read_loopFlag hname]
  rfl

omit hi

/-- The helper yields whether the path is truthy. -/
theorem yieldsFlag :
    page.YieldsFlag st name (resolve page.request st.scopes name).isTruthy where
  argument := evaluates_loopFlag hhelpers hname
  inline inclusion i hi := invoke_loopFlag hhelpers hname inclusion hi
  block inclusion i body inverse hi := invokeBlock_loopFlag hhelpers hname hi inclusion body inverse
  written i escaped hi := by
    rw [run_render_write (planExpression_loopFlag hhelpers hname hi st.toFrame)]
    exact congrArg (EStateM.Result.ok · st) (st.write_bool escaped _)
  rendered i body inverse hi := by
    have hplan := planBlock_loopFlag hhelpers hname hi st.toFrame.enterBlock
    have hblock := page.render_leaves st.toFrame [.block i body inverse]
    rw [effects_choice hplan] at hblock
    exact hblock.outcome_eq (page.render_leaves st.enterBlock.toFrame _).inBlock

end

/-- The helper of a flag yields whether the path of that name is truthy. Both read the innermost
scope that tells a place in a loop, and where no scope does the path stands for nothing. So the
scope that a helper opens for a block hides the flag exactly if the helper goes over items. -/
theorem loopFlag_readings {page : Page} (hhelpers : page.helpers = .builtin) (st : RenderState)
    {name : String} (hname : name ∈ Helpers.loopFlags) :
    let told := resolve page.request st.scopes name
    page.YieldsFlag st name told.isTruthy ∧
      (∀ inner s outer place, st.scopes = inner ++ s :: outer →
        (∀ c ∈ inner, c.iteration = none) → s.iteration = some place →
          Focus.iteration? st.scopes = some place ∧ place.pseudo? name = some told) ∧
      ((∀ s ∈ st.scopes, s.iteration = none) →
        Focus.iteration? st.scopes = none ∧ told = .absent) ∧
      ∀ h s, s.OpenedBy h →
        let within := resolve page.request (s :: st.scopes) name
        page.YieldsFlag (st.openScope s) name within.isTruthy ∧
          (h.iterates = false → within = told) ∧
          (h.iterates = true →
            ∃ place, s.iteration = some place ∧ place.pseudo? name = some within) := by
  intro told
  refine ⟨yieldsFlag hhelpers hname, fun inner s outer place hscopes hinner hs => ?_,
    fun hnone => ?_, fun h s hopened => ⟨yieldsFlag hhelpers hname, fun hh => ?_, fun hh => ?_⟩⟩
  · have hpseudo : place.pseudo? name = some (resolve page.request (inner ++ s :: outer) name) :=
      Path.pseudo?_of_innermost hname page.request hinner hs
    rw [← hscopes] at hpseudo
    exact ⟨hscopes ▸ iteration?_of_opened hinner hs, hpseudo⟩
  · have hiteration : Focus.iteration? st.scopes = none := List.findSome?_eq_none_iff.2 hnone
    refine ⟨hiteration, ?_⟩
    show resolve page.request st.scopes name = .absent
    rw [Path.resolve_loopFlag hname, hiteration]
    rfl
  · have hs : s.iteration = none :=
      Option.isNone_iff_eq_none.1 (Option.isSome_eq_false_iff.1 (hopened.iteration_iff.trans hh))
    exact Path.resolve_loopFlag_cons hname page.request hs st.scopes
  · obtain ⟨place, hs⟩ := Option.isSome_iff_exists.1 (hopened.iteration_iff.trans hh)
    exact ⟨place, hs, Path.pseudo?_of_innermost hname page.request (List.forall_mem_nil _) hs⟩

/-- In a block about a post, at the second of two tags, in a loop that is at its first item. -/
theorem loopFlag_readings_nested :
    let post : Scope := { subject := .post default }
    let tag : Scope := { subject := .tag default, iteration := some { index := 1, length := 2 } }
    let item : Scope := { subject := .post default, iteration := some { index := 0, length := 3 } }
    let st : RenderState := { RenderState.start .root with scopes := [post, tag, item, .root] }
    let first : Invocation := { name := "@first", params := [], hash := [], span := default }
    "@first" ∈ Helpers.loopFlags ∧
      resolve bare.request st.scopes "@first" = .bool false ∧
      bare.Evaluates st (.path "@first") (.bool false) ∧
      (bare.render [.expression first true]).run st = .ok "false" st ∧
      (bare.render [.block first [.text "first"] (some [.text "later"])]).outcome st =
        .ok ("later", st) := by
  intro post tag item st first
  have hname : "@first" ∈ Helpers.loopFlags := by decide
  have hhelpers : bare.helpers = .builtin := rfl
  obtain ⟨hyields, hinnermost, -, -⟩ := loopFlag_readings hhelpers st hname
  have hpost : ∀ c ∈ [post], c.iteration = none := List.forall_mem_singleton.2 rfl
  have htold : resolve bare.request st.scopes "@first" = .bool false :=
    (Option.some.inj (hinnermost [post] tag [item, .root] _ rfl hpost rfl).2).symm
  rw [htold] at hyields
  exact ⟨hname, htold, hyields.argument, hyields.written first true rfl,
    hyields.rendered first _ _ rfl⟩

end Page

end BlogTheme
