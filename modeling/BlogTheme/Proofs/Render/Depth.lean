import BlogTheme.Proofs.Render.Plain
import BlogTheme.Proofs.Render.Throughout

/-!
# How deep partials include one another

Rendering ends for every theme: `Page.render` counts down the levels that are left, and
that comes to the same as asking at each inclusion whether the depth reached allows it
(`Page.render_limited`). So the depth never exceeds the limit, also where partials include
one another in a circle (`Page.throughoutPage_depth`).

The limit is reached only if the theme says so. `Theme.Includes` relates a template to the
partials that its tree includes. Where no way along it has more steps than the limit allows,
no inclusion is refused (`Page.nodesEffects_unlimited`, by induction on the nodes, and
`Page.partialEffects_unlimited`, by induction on the levels).
-/

namespace BlogTheme

open Template (Argument Invocation Node)
open Rendering (inPartial)

namespace Template

/-- The partials that an invocation names in order to include them. -/
def Invocation.inclusions (i : Invocation) : List String :=
  if i.name = includeName then (i.params.head?.map Argument.literalText).toList else []

/-- The partials that an expression includes instead of markup of its own. -/
def Invocation.widgetInclusions (i : Invocation) : List String :=
  if i.name = "navigation" ∨ i.name = "@blog.navigation" then ["navigation"]
  else if i.name = "pagination" then ["pagination"]
  else []

mutual

/-- The partials that a node includes, also inside of it. -/
def Node.inclusions : Node → List String
  | .text _ => []
  | .expression i _ => i.inclusions ++ i.widgetInclusions
  | .block i body inverse => i.inclusions ++ (allInclusions body ++ inverseInclusions inverse)

/-- The partials that an inverse includes. -/
def inverseInclusions : Option (List Node) → List String
  | none => []
  | some nodes => allInclusions nodes

/-- The partials that nodes include. -/
def allInclusions : List Node → List String
  | [] => []
  | node :: nodes => node.inclusions ++ allInclusions nodes

end

end Template

namespace Theme

/-- The template includes the other, somewhere in its tree. -/
def Includes (theme : Theme) (t t' : Template) : Prop :=
  ∃ name ∈ Template.allInclusions t.body, theme.findPartial? name = some t'

/-- No way along inclusions that begins at the template has more than so many steps. -/
def NestsWithin (theme : Theme) (limit : Nat) (t : Template) : Prop :=
  ∀ path, List.IsChain theme.Includes (t :: path) → path.length ≤ limit

theorem nestsWithin_zero {theme : Theme} {t : Template} :
    theme.NestsWithin 0 t ↔ ∀ t', ¬ theme.Includes t t' := by
  constructor
  · intro h t' hincludes
    have hlength := h [t'] (.cons_cons hincludes (.singleton t'))
    cases hlength
  · rintro h path (_ | _ | ⟨hincludes, _⟩)
    · exact Nat.le_refl 0
    · exact absurd hincludes (h _)

theorem nestsWithin_succ {theme : Theme} {limit : Nat} {t : Template} :
    theme.NestsWithin (limit + 1) t ↔ ∀ t', theme.Includes t t' → theme.NestsWithin limit t' := by
  constructor
  · intro h t' hincludes path hpath
    have hlength := h (t' :: path) (.cons_cons hincludes hpath)
    exact Nat.le_of_succ_le_succ hlength
  · rintro h path (_ | _ | ⟨hincludes, hpath⟩)
    · exact Nat.zero_le _
    · exact Nat.succ_le_succ (h _ hincludes _ hpath)

end Theme

/-- A plan that inserts partials of these names only. -/
def Plan.InsertsFrom (theme : Theme) (names : List String) : Plan → Prop
  | .insert t => ∃ name ∈ names, theme.findPartial? name = some t
  | _ => True

/-- The error is that partials or layouts are nested too deeply. -/
def ThemeError.IsOfDepth : ThemeError → Prop
  | recursionLimit _ _ => True
  | _ => False

namespace Helpers

theorem name_of_navigation {name : String} (h : builtin.find? name = some (.reader .navigation)) :
    name = "navigation" ∨ name = "@blog.navigation" := by
  have hnames : ∀ entry ∈ builtin, entry.2 = .reader .navigation →
      entry.1 = "navigation" ∨ entry.1 = "@blog.navigation" := by decide
  exact hnames _ (mem_of_lookup h) rfl

theorem name_of_pagination {name : String} (h : builtin.find? name = some (.reader .pagination)) :
    name = "pagination" := by
  have hnames : ∀ entry ∈ builtin, entry.2 = .reader .pagination → entry.1 = "pagination" := by
    decide
  exact hnames _ (mem_of_lookup h) rfl

theorem name_of_partialOf {name : String} (h : builtin.find? name = some (.builder .partialOf)) :
    name = Template.includeName := by
  have hnames : ∀ entry ∈ builtin, entry.2 = .builder .partialOf →
      entry.1 = Template.includeName := by decide
  exact hnames _ (mem_of_lookup h) rfl

end Helpers

/-- Places at which the depth and the levels left come to the same number. -/
theorem Region.ofDepth (n : Nat) : Region fun levels f => f.depth + levels = n where
  surrounds := by
    rintro levels f _ hf ⟨scopes, raw, rfl⟩
    exact hf
  enterBlock hf := hf
  enterPartial {levels f} hf name := by
    show f.depth + 1 + levels = n
    omega

namespace Page

variable {page : Page}

/-! ## Which partials are inserted -/

section

variable {f : Frame} {i : Invocation} {names : List String}

theorem planPartial_inserts {name : String} (hname : name ∈ names) :
    Yields (Plan.InsertsFrom page.theme names) (page.planPartial name) := by
  unfold planPartial
  cases hfind : page.theme.findPartial? name with
  | none => exact .error trivial
  | some t => exact .ok ⟨name, hname, hfind⟩

theorem nameArgument_mem (page : Page) (f : Frame) (i : Invocation) :
    Yields (· ∈ (i.params.head?.map Argument.literalText).toList)
      (page.callAt f i).nameArgument := by
  unfold Call.nameArgument callAt
  cases i.params with
  | nil => exact .error trivial
  | cons a params =>
    simp only [List.map_cons, givenAt]
    split
    · exact .error trivial
    · exact .ok (by simp)

theorem planReader_inserts (c : ValuedCall) (r : Reader)
    (hnavigation : r = .navigation → "navigation" ∈ names)
    (hpagination : r = .pagination → "pagination" ∈ names) :
    Yields (Plan.InsertsFrom page.theme names) (page.planReader f c r) := by
  cases r with
  | navigation =>
    simp only [planReader]
    split
    · exact .ok trivial
    · cases hfind : page.theme.findPartial? "navigation" with
      | none => exact .ok trivial
      | some t => exact .ok ⟨_, hnavigation rfl, hfind⟩
  | pagination =>
    simp only [planReader]
    cases hfind : page.theme.findPartial? "pagination" with
    | none => exact .ok trivial
    | some t => exact .ok ⟨_, hpagination rfl, hfind⟩
  | _ => exact .of_bind fun _ => .ok trivial

theorem planItems_inserts (c : ValuedCall) (items : List Value) :
    Yields (Plan.InsertsFrom page.theme names) (planItems f c items) := by
  refine .of_bind fun items => ?_
  split
  · exact .ok trivial
  · exact .of_bind fun _ => .ok trivial

theorem planReading_inserts (c : ValuedCall) (r : Reading) :
    Yields (Plan.InsertsFrom page.theme names) (planReading f c r) := by
  cases r with
  | value v => exact .ok trivial
  | flag b => cases b <;> exact .ok trivial
  | entity v =>
    simp only [planReading, planEntity]
    split
    · exact .ok trivial
    · exact .of_bind fun _ => .ok trivial
  | list v => exact planItems_inserts c _

theorem planReaderBlock_inserts (c : ValuedCall) (r : Reader) :
    Yields (Plan.InsertsFrom page.theme names) (page.planReaderBlock f c r) := by
  by_cases hr : r = .unescaped
  · subst hr
    exact .ok trivial
  · rw [planReaderBlock_eq hr]
    exact .of_bind fun reading => planReading_inserts c reading

/-- A partial that is asked for by name is one that the first argument names. -/
theorem planPartial_argument_inserts
    (hnames : (i.params.head?.map Argument.literalText).toList ⊆ names) :
    Yields (Plan.InsertsFrom page.theme names)
      (do page.planPartial (← (page.callAt f i).nameArgument)) :=
  (nameArgument_mem page f i).bind fun _ hmem => planPartial_inserts (hnames hmem)

/-- An expression inserts a partial that its first argument names, or the one instead of its own
markup. -/
theorem planExpression_insertsFrom
    (hnavigation : page.helpers.find? i.name = some (.reader .navigation) → "navigation" ∈ names)
    (hpagination : page.helpers.find? i.name = some (.reader .pagination) → "pagination" ∈ names)
    (hpartial : page.helpers.find? i.name = some (.builder .partialOf) →
      (i.params.head?.map Argument.literalText).toList ⊆ names) :
    Yields (Plan.InsertsFrom page.theme names) (page.planExpression f i) := by
  unfold planExpression
  cases hfind : page.helpers.find? i.name with
  | none =>
    simp only
    split
    · exact .error trivial
    · split
      · exact .error trivial
      · exact .ok trivial
  | some h =>
    cases h with
    | reader r =>
      refine planReader_inserts _ r (fun hr => ?_) fun hr => ?_
      · exact hnavigation (hr ▸ hfind)
      · exact hpagination (hr ▸ hfind)
    | builder b =>
      cases b with
      | partialOf => exact planPartial_argument_inserts (hpartial hfind)
      | block => exact .of_bind fun _ => .ok trivial
      | _ => exact .error trivial

/-- A block inserts a partial only if its first argument names it. -/
theorem planBlock_insertsFrom
    (hpartial : page.helpers.find? i.name = some (.builder .partialOf) →
      (i.params.head?.map Argument.literalText).toList ⊆ names) :
    Yields (Plan.InsertsFrom page.theme names) (page.planBlock f i) := by
  unfold planBlock
  cases hfind : page.helpers.find? i.name with
  | none => exact .error trivial
  | some h =>
    cases h with
    | reader r => exact planReaderBlock_inserts _ r
    | builder b =>
      cases b with
      | partialOf => exact planPartial_argument_inserts (hpartial hfind)
      | forEach => exact .of_bind fun items => planItems_inserts _ items
      | contentFor => exact .of_bind fun _ => .ok trivial
      | block =>
        refine .of_bind fun name => ?_
        cases f.slots.lookup name <;> exact .ok trivial

variable (hhelpers : page.helpers = .builtin)
include hhelpers

theorem literal_subset_inclusions
    (hfind : page.helpers.find? i.name = some (.builder .partialOf)) :
    (i.params.head?.map Argument.literalText).toList ⊆ i.inclusions := by
  rw [hhelpers] at hfind
  rw [Invocation.inclusions, if_pos (Helpers.name_of_partialOf hfind)]
  exact List.Subset.refl _

/-- An expression inserts a partial that it names, or the one instead of its own markup. -/
theorem planExpression_inserts :
    Yields (Plan.InsertsFrom page.theme (i.inclusions ++ i.widgetInclusions))
      (page.planExpression f i) := by
  refine planExpression_insertsFrom (fun hfind => ?_) (fun hfind => ?_) fun hfind => ?_
  · rw [hhelpers] at hfind
    have hname := Helpers.name_of_navigation hfind
    simp [Invocation.widgetInclusions, hname]
  · rw [hhelpers] at hfind
    have hname := Helpers.name_of_pagination hfind
    simp [Invocation.widgetInclusions, hname]
  · exact List.subset_append_of_subset_left _ (literal_subset_inclusions hhelpers hfind)

/-- A block inserts a partial only if it names it. -/
theorem planBlock_inserts :
    Yields (Plan.InsertsFrom page.theme i.inclusions) (page.planBlock f i) :=
  planBlock_insertsFrom (literal_subset_inclusions hhelpers)

end

/-! ## Which partials are refused -/

/-- The computation does not fail for the depth of partials. -/
abbrev Unlimited (x : Except ThemeError α) : Prop :=
  FailsWith (fun e => ¬ e.IsOfDepth) x

theorem IsInvocationFault.not_isOfDepth {e : ThemeError} (h : e.IsInvocationFault) :
    ¬ e.IsOfDepth := by
  cases e <;> simp_all [ThemeError.IsInvocationFault, ThemeError.IsOfDepth]

theorem invocationEffects_unlimited {f : Frame} {i : Invocation} {names : List String}
    {out : Plan → Except ThemeError Effects} {plan? : Except ThemeError Plan}
    (hfault : FailsWith ThemeError.IsInvocationFault plan?)
    (hplan : Yields (Plan.InsertsFrom page.theme names) plan?)
    (hout : ∀ plan, plan.InsertsFrom page.theme names → Unlimited (out plan)) :
    Unlimited (invocationEffects f i out plan?) := by
  cases plan? with
  | ok plan => exact hout plan hplan
  | error e =>
    simp only [invocationEffects, faultEffects]
    split
    · exact .ok trivial
    · exact .error (IsInvocationFault.not_isOfDepth hfault)

theorem carryOut_unlimited {f : Frame} {escaped : Bool} {names : List String}
    {body : Frame → Except ThemeError Effects} {inverse : Except ThemeError Effects}
    {partials : Template → Except ThemeError Effects} (hbody : ∀ f, Unlimited (body f))
    (hinverse : Unlimited inverse)
    (hpartials : ∀ name ∈ names, ∀ t, page.theme.findPartial? name = some t →
      Unlimited (partials t))
    (plan : Plan) (hplan : plan.InsertsFrom page.theme names) :
    Unlimited (plan.carryOut f escaped body inverse partials) := by
  cases plan with
  | write v => exact .ok trivial
  | body frames => exact (Ends.mapM fun f _ => hbody f).bind fun _ _ => .ok trivial
  | inverse => exact hinverse
  | keep name => exact (hbody f).bind fun _ => .ok trivial
  | insert t =>
    obtain ⟨name, hmem, hfind⟩ := hplan
    exact hpartials name hmem t hfind

/-- The partials of these names that the theme has do not fail for their depth. -/
def PartialEffects.UnlimitedFor (page : Page) (partials : PartialEffects) (names : List String) :
    Prop :=
  ∀ name ∈ names, ∀ t, page.theme.findPartial? name = some t → ∀ f, Unlimited (partials f t)

theorem PartialEffects.UnlimitedFor.append {partials : PartialEffects} {names names' : List String}
    (h : partials.UnlimitedFor page (names ++ names')) :
    partials.UnlimitedFor page names ∧ partials.UnlimitedFor page names' :=
  ⟨fun name hmem => h name (List.mem_append_left _ hmem),
    fun name hmem => h name (List.mem_append_right _ hmem)⟩

section

variable {partials : PartialEffects}

mutual

theorem nodeEffects_unlimited (hhelpers : page.helpers = .builtin) :
    (node : Node) →
    (hp : partials.UnlimitedFor page node.inclusions) → (f : Frame) →
    Unlimited (page.nodeEffects partials f node)
  | .text _, _, _ => .ok trivial
  | .expression i escaped, hp, f => by
    rw [Node.inclusions] at hp
    have hnone : Unlimited (.ok Effects.empty) := .ok trivial
    rw [nodeEffects]
    refine invocationEffects_unlimited (page.planExpression_fails f i)
      (planExpression_inserts hhelpers) ?_
    exact carryOut_unlimited (fun _ => hnone) hnone fun name hmem t hfind => hp name hmem t hfind f
  | .block i body inverse, hp, f => by
    rw [Node.inclusions] at hp
    obtain ⟨hnamed, hinside⟩ := hp.append
    obtain ⟨hbody, hinverse⟩ := hinside.append
    rw [nodeEffects]
    refine invocationEffects_unlimited (page.planBlock_fails f.enterBlock i)
      (planBlock_inserts hhelpers) ?_
    exact carryOut_unlimited (fun place => nodesEffects_unlimited hhelpers body hbody place)
      (inverseEffects_unlimited hhelpers inverse hinverse f.enterBlock)
      fun name hmem t hfind => hnamed name hmem t hfind f.enterBlock

theorem inverseEffects_unlimited (hhelpers : page.helpers = .builtin) :
    (inverse : Option (List Node)) →
    (hp : partials.UnlimitedFor page (Template.inverseInclusions inverse)) → (f : Frame) →
    Unlimited (page.inverseEffects partials f inverse)
  | none, _, _ => .ok trivial
  | some nodes, hp, f => by
    rw [Template.inverseInclusions] at hp
    rw [inverseEffects]
    exact nodesEffects_unlimited hhelpers nodes hp f

/-- Nodes fail for their depth only if a partial does that they include. -/
theorem nodesEffects_unlimited (hhelpers : page.helpers = .builtin) :
    (nodes : List Node) →
    (hp : partials.UnlimitedFor page (Template.allInclusions nodes)) → (f : Frame) →
    Unlimited (page.nodesEffects partials f nodes)
  | [], _, _ => .ok trivial
  | node :: nodes, hp, f => by
    rw [Template.allInclusions] at hp
    obtain ⟨hnode, hnodes⟩ := hp.append
    rw [nodesEffects]
    refine (nodeEffects_unlimited hhelpers node hnode f).bind fun first => ?_
    exact (nodesEffects_unlimited hhelpers nodes hnodes f).bind fun rest => .ok trivial

end

/-- A partial does not fail for its depth where there are levels left for all ways along
inclusions. -/
theorem partialEffects_unlimited (hhelpers : page.helpers = .builtin) (levels : Nat) (t : Template)
    (ht : page.theme.NestsWithin levels t) :
    PartialEffects.UnlimitedFor page (page.partialEffects levels)
      (Template.allInclusions t.body) := by
  induction levels generalizing t with
  | zero =>
    intro name hmem t' hfind
    exact absurd ⟨name, hmem, hfind⟩ (Theme.nestsWithin_zero.1 ht t')
  | succ levels ih =>
    intro name hmem t' hfind f
    have ht' := Theme.nestsWithin_succ.1 ht t' ⟨name, hmem, hfind⟩
    exact nodesEffects_unlimited hhelpers t'.body (ih t' ht') (f.enterPartial t'.name)

/-- Templates of a layout chain do not fail for the depth of their partials. -/
theorem chainEffects_unlimited (hhelpers : page.helpers = .builtin) (root : Scope)
    (chain : List Template) (hchain : ∀ t ∈ chain, page.theme.NestsWithin page.config.maxDepth t)
    (h : Handover) : Unlimited (page.chainEffects root h chain) := by
  induction chain generalizing h with
  | nil => exact .ok trivial
  | cons t chain ih =>
    obtain ⟨ht, hrest⟩ := List.forall_mem_cons.1 hchain
    have hpartials := partialEffects_unlimited hhelpers page.config.maxDepth t ht
    have hbody := nodesEffects_unlimited hhelpers t.body hpartials (topFrame root h t)
    rw [chainEffects]
    exact FailsWith.bind hbody fun e => ih hrest (h.next e)

end

/-! ## Asking for the depth at each inclusion -/

/-- Renders a partial if the depth reached allows it, and its own partials likewise. -/
def limitedPartial (page : Page) : Inclusion := fun t => do
  if page.config.maxDepth ≤ (← get).depth then
    throw (.recursionLimit t.name page.config.maxDepth)
  else
    inPartial t.name (page.render t.body)

/-- With as many levels left as the limit exceeds the depth, partials do what they do when the
depth is asked for. -/
theorem limitedPartial_means (page : Page) (f : Frame) :
    Inclusion.Means f page.limitedPartial
      (page.partialEffects (page.config.maxDepth - f.depth) f) := by
  intro t
  refine .get_bind fun st hst => ?_
  have hdepth : st.depth = f.depth := congrArg Frame.depth hst
  rw [hdepth]
  cases hlevels : page.config.maxDepth - f.depth with
  | zero =>
    rw [if_pos (Nat.sub_eq_zero_iff_le.1 hlevels)]
    exact .throw _
  | succ levels =>
    rw [if_neg (by omega)]
    have hbody := page.render_leaves (f.enterPartial t.name) t.body
    have hinside : page.config.maxDepth - (f.enterPartial t.name).depth = levels := by
      show page.config.maxDepth - (f.depth + 1) = levels
      omega
    rw [effects, hinside] at hbody
    exact hbody.inPartial

/-- Rendering is rendering with the depth asked for at each inclusion. -/
theorem render_limited (page : Page) (nodes : List Node) (st : RenderState) :
    (page.render nodes).outcome st = (page.renderNodes page.limitedPartial nodes).outcome st := by
  have hp (f : Frame) (hf : f.depth + 0 = st.depth) : Inclusion.Means f page.limitedPartial
      (page.partialEffects (page.config.maxDepth - st.depth) f) := by
    rw [← show f.depth = st.depth from hf]
    exact page.limitedPartial_means f
  have hidle : Watch.IdleWhere (fun _ st' => ∃ levels, st'.depth + levels = st.depth) .idle :=
    fun _ _ _ => rfl
  have hlimited := page.watchedNodes_leaves (.ofDepth st.depth) 0 hidle hp
    (page.partialEffects_aborts _) (f := st.toFrame) rfl nodes
  rw [watchedNodes_idle] at hlimited
  exact (page.render_leaves st.toFrame nodes).outcome_eq hlimited

/-- The depth does not exceed the limit while a page is rendered. -/
theorem throughoutPage_depth (page : Page) (root : Scope) (t : Template) :
    page.ThroughoutPage (fun _ st => st.depth ≤ page.config.maxDepth) root t := by
  refine throughoutPage (.ofDepth page.config.maxDepth) (fun levels _ st hst => ?_)
    (fun h t => ?_) t
  · exact Nat.le.intro hst
  · exact Nat.zero_add _

/-- Rendering comes to an end for every theme, as it does what rendering with the depth asked
for at each inclusion does, and the depth never exceeds the limit. Where no way along the
inclusions of a layout chain has more steps than the limit, only the layouts themselves can be
nested too deeply. -/
theorem renderTemplate_bounded (page : Page) (root : Scope) (t : Template) :
    (∀ nodes st,
      (page.render nodes).outcome st = (page.renderNodes page.limitedPartial nodes).outcome st) ∧
    page.ThroughoutPage (fun _ st => st.depth ≤ page.config.maxDepth) root t ∧
    (page.helpers = .builtin →
      (∀ chain, page.theme.layoutChain t page.config.maxDepth = .ok chain →
        ∀ t ∈ chain, page.theme.NestsWithin page.config.maxDepth t) →
      ∀ name limit, page.renderTemplate root t = .error (.recursionLimit name limit) →
        page.theme.layoutChain t page.config.maxDepth = .error (.recursionLimit name limit)) := by
  refine ⟨page.render_limited, page.throughoutPage_depth root t, ?_⟩
  intro hhelpers hnests name limit herror
  rw [page.renderTemplate_eq] at herror
  cases hchain : page.theme.layoutChain t page.config.maxDepth with
  | error e =>
    rw [hchain] at herror
    cases herror
    rfl
  | ok chain =>
    have hunlimited := chainEffects_unlimited hhelpers root chain (hnests chain hchain) {}
    rw [hchain] at herror
    cases hmeaning : page.chainEffects root {} chain with
    | error e =>
      simp only [bind, Except.bind, hmeaning] at herror
      cases herror
      exact absurd trivial (hunlimited.fault hmeaning)
    | ok h =>
      simp only [bind, Except.bind, hmeaning] at herror
      cases herror

/-- A page that includes a partial that includes another, where two levels are allowed. -/
theorem renderTemplate_bounded_nested :
    let inclusion (name : String) : Node :=
      .expression { name := ">", params := [.string name], hash := [], span := default } true
    let inner : Template := { name := "partials/inner", body := [.text "x"] }
    let outer : Template := { name := "partials/outer", body := [inclusion "inner"] }
    let t : Template := { name := "index", body := [inclusion "outer"] }
    let page : Page :=
      { bare with theme := (Theme.empty.insert inner).insert outer, config := { maxDepth := 2 } }
    page.theme.NestsWithin 2 t ∧
      ∀ name limit, page.renderTemplate .root t ≠ .error (.recursionLimit name limit) := by
  intro inclusion inner outer t page
  have hfindInner : page.theme.findPartial? "inner" = some inner := by
    dsimp only [page, inner, outer, inclusion]
    rfl
  have hfindOuter : page.theme.findPartial? "outer" = some outer := by
    dsimp only [page, inner, outer, inclusion]
    rfl
  have hchain : page.theme.layoutChain t page.config.maxDepth = .ok [t] := by
    rw [Theme.layoutChain, Theme.chainFrom]
    rfl
  have hinner : page.theme.NestsWithin 0 inner := by
    rw [Theme.nestsWithin_zero]
    rintro t' ⟨name, hmem, -⟩
    cases hmem
  have houter : page.theme.NestsWithin 1 outer := by
    rw [Theme.nestsWithin_succ]
    rintro t' ⟨name, hmem, hfind⟩
    obtain rfl : name = "inner" := List.mem_singleton.1 hmem
    obtain rfl : inner = t' := Option.some.inj (hfindInner.symm.trans hfind)
    exact hinner
  have ht : page.theme.NestsWithin 2 t := by
    rw [Theme.nestsWithin_succ]
    rintro t' ⟨name, hmem, hfind⟩
    obtain rfl : name = "outer" := List.mem_singleton.1 hmem
    obtain rfl : outer = t' := Option.some.inj (hfindOuter.symm.trans hfind)
    exact houter
  refine ⟨ht, fun name limit herror => ?_⟩
  have hlayouts := (renderTemplate_bounded page .root t).2.2 rfl (fun chain hchain' t' hmem => ?_)
    name limit herror
  · rw [hchain] at hlayouts
    cases hlayouts
  · rw [hchain] at hchain'
    cases hchain'
    obtain rfl : t' = t := List.mem_singleton.1 hmem
    exact ht

end Page

end BlogTheme
