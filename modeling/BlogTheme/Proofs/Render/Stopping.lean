import BlogTheme.Proofs.Render.Reaching

/-!
# Rendering stops where it is told to

The visits of `Page.Reaches` are those of the renderer: under a watch that stops it with an error
at certain visits, rendering stops exactly if it reaches one of these, and is as without a watch
if it does not (`Page.watched_stop`, and `Page.watchedTemplate_stop` for pages). The proof is by
induction on nodes and, for partials, on the levels that are left, like that of
`Page.watchedNodes_leaves`; what is left at each place is what `halted` says.
-/

namespace BlogTheme

open Template (Invocation Node)
open Rendering (Leaves Text)

/-- Stops with an error at the visits that `S` picks. -/
def Watch.stop (S : Visit → Bool) (stopped : ThemeError) : Watch := fun nodes => do
  if S ⟨(← get).toFrame, nodes⟩ then throw stopped

open Classical in
/-- An error if something is the case, else what a computation comes to. -/
noncomputable def halted (stopped : ThemeError) (p : Prop) (x : Except ThemeError α) :
    Except ThemeError α :=
  if p then .error stopped else x

section

variable {stopped : ThemeError} {p q : Prop} {x : Except ThemeError α}

theorem halted_of (h : p) : halted stopped p x = .error stopped := if_pos h

theorem halted_of_not (h : ¬ p) : halted stopped p x = x := if_neg h

theorem halted_fails {E : ThemeError → Prop} (he : E stopped) (hx : FailsWith E x) :
    FailsWith E (halted stopped p x) := by
  by_cases h : p
  · rw [halted_of h]
    exact .error he
  · rw [halted_of_not h]
    exact hx

/-- Computations in sequence are stopped where the first is, or else where the second is, unless
the first fails. -/
theorem halted_seq {y : Except ThemeError β} (g : α → β → γ) :
    (do return g (← halted stopped p x) (← halted stopped q y)) =
      halted stopped (p ∨ (∃ a, x = .ok a) ∧ q) (do return g (← x) (← y)) := by
  by_cases hp : p
  · have hall : p ∨ (∃ a, x = .ok a) ∧ q := .inl hp
    rw [halted_of hp, halted_of hall]
    rfl
  · rw [halted_of_not hp]
    cases x with
    | error e =>
      have hnone : ¬ (p ∨ (∃ a, Except.error e = (.ok a : Except ThemeError α)) ∧ q) := by
        simp [hp]
      rw [halted_of_not hnone]
      rfl
    | ok a =>
      have hiff : (p ∨ (∃ b, Except.ok a = (.ok b : Except ThemeError α)) ∧ q) ↔ q := by simp [hp]
      rw [hiff]
      by_cases hq : q
      · rw [halted_of hq, halted_of hq]
        rfl
      · rw [halted_of_not hq, halted_of_not hq]

theorem halted_map (g : α → β) :
    (do return g (← halted stopped p x)) = halted stopped p (do return g (← x)) := by
  by_cases hp : p
  · rw [halted_of hp, halted_of hp]
    rfl
  · rw [halted_of_not hp, halted_of_not hp]

end

/-- A computation that goes through a list is stopped at the first place where it is, unless it
has failed before. -/
theorem mapM_halted {stopped : ThemeError} {P : α → Prop} {g : α → Except ThemeError β}
    (l : List α) : (l.mapM fun a => halted stopped (P a) (g a)) =
      halted stopped (∃ before a after, l = before ++ a :: after ∧
        (∀ b ∈ before, ∃ r, g b = .ok r) ∧ P a) (l.mapM g) := by
  induction l with
  | nil =>
    rw [halted_of_not]
    · rfl
    · rintro ⟨before, a, after, hl, -⟩
      simp at hl
  | cons a l ih => rw [List.mapM_cons, List.mapM_cons, ih, halted_seq, exists_split_cons]

/-! ## Plans that are stopped -/

/-- What is stopped inside stops the plan. -/
theorem Plan.carryOut_halted {stopped : ThemeError} (f : Frame) (escaped : Bool)
    (body : Frame → Except ThemeError Effects) (B : Frame → Prop)
    (inverse : Except ThemeError Effects) (I : Prop)
    (partials : Template → Except ThemeError Effects) (T : Template → Prop) (plan : Plan) :
    plan.carryOut f escaped (fun place => halted stopped (B place) (body place))
        (halted stopped I inverse) (fun t => halted stopped (T t) (partials t)) =
      halted stopped (plan.Meets f body B I T) (plan.carryOut f escaped body inverse partials) := by
  cases plan with
  | write v => exact (halted_of_not id).symm
  | body places =>
    simp only [carryOut, Meets, mapM_halted]
    exact halted_map _
  | inverse => rfl
  | keep name => exact halted_map _
  | insert t => rfl

/-- What is stopped while a plan is carried out stops the invocation. -/
theorem Page.invocationEffects_halted {stopped : ThemeError} {f : Frame} {i : Invocation}
    {out out' : Plan → Except ThemeError Effects} {M : Plan → Prop}
    (hout : ∀ plan, out' plan = halted stopped (M plan) (out plan))
    (plan? : Except ThemeError Plan) :
    invocationEffects f i out' plan? =
      halted stopped (∃ plan, plan? = .ok plan ∧ M plan) (invocationEffects f i out plan?) := by
  cases plan? with
  | error e =>
    have hnone : ¬ ∃ plan, Except.error e = Except.ok plan ∧ M plan := nofun
    rw [halted_of_not hnone]
    rfl
  | ok plan =>
    have hiff : (∃ plan', Except.ok (ε := ThemeError) plan = .ok plan' ∧ M plan') ↔ M plan := by
      simp
    rw [hiff]
    exact hout plan

namespace Page

variable (page : Page) (S : Visit → Bool)

/-- From a visit rendering comes to one that `S` picks. -/
def Comes (u : Visit) : Prop :=
  ∃ v, page.Reaches u v ∧ S v

/-- Inside of a node rendering comes to a visit that `S` picks. -/
def ComesInside (f : Frame) (node : Node) : Prop :=
  ∃ v, page.Enters f node v ∧ page.Comes S v

variable {page S} {f : Frame} {stopped : ThemeError}

theorem comes_nil : page.Comes S ⟨f, []⟩ ↔ S ⟨f, []⟩ := by
  constructor
  · rintro ⟨v, hreaches, hv⟩
    obtain rfl | ⟨w, hstep, -⟩ := hreaches.cases_head
    · exact hv
    · cases hstep
  · exact fun hv => ⟨_, .refl, hv⟩

theorem comes_cons {node : Node} {nodes : List Node} :
    page.Comes S ⟨f, node :: nodes⟩ ↔ S ⟨f, node :: nodes⟩ ∨ page.ComesInside S f node ∨
      (∃ e, page.effects f [node] = .ok e) ∧ page.Comes S ⟨f, nodes⟩ := by
  constructor
  · rintro ⟨v, hreaches, hv⟩
    obtain rfl | ⟨w, hstep, hreaches⟩ := hreaches.cases_head
    · exact .inl hv
    · cases hstep with
      | enter henters => exact .inr (.inl ⟨w, henters, v, hreaches, hv⟩)
      | next hfirst => exact .inr (.inr ⟨⟨_, hfirst⟩, v, hreaches, hv⟩)
  · rintro (hv | ⟨w, henters, v, hreaches, hv⟩ | ⟨⟨e, hfirst⟩, v, hreaches, hv⟩)
    · exact ⟨_, .refl, hv⟩
    · exact ⟨v, .head (.enter henters) hreaches, hv⟩
    · exact ⟨v, .head (.next hfirst) hreaches, hv⟩

/-! ## Nodes that are stopped -/

/-- What is left of a partial at a place, with so many levels. -/
noncomputable def haltedPartials (page : Page) (S : Visit → Bool) (stopped : ThemeError)
    (levels : Nat) : PartialEffects := fun f t =>
  halted stopped (f.depth < page.config.maxDepth ∧ page.Comes S ⟨f.enterPartial t.name, t.body⟩)
    (page.partialEffects levels f t)

/-- With so many levels left, the inclusion of a partial is stopped or leaves what the partial
means. -/
def StopsPartials (page : Page) (S : Visit → Bool) (stopped : ThemeError) (levels : Nat)
    (inclusion : Inclusion) : Prop :=
  ∀ f, page.config.maxDepth - f.depth = levels →
    inclusion.Means f (page.haltedPartials S stopped levels f)

section

variable {inclusion : Inclusion} {levels : Nat}

theorem haltedPartials_aborts (page : Page) (S : Visit → Bool) (he : stopped.IsAbort)
    (levels : Nat) : (page.haltedPartials S stopped levels).OnlyAbort :=
  fun f t => halted_fails he (page.partialEffects_aborts levels f t)

/-- Watched, nodes are stopped or leave what they leave unwatched, if so are their parts. -/
theorem stop_leaves {nodes : List Node} {x : Rendering String} {y : Except ThemeError Effects}
    {p : Prop} (hx : ¬ S ⟨f, nodes⟩ → Leaves f x (halted stopped p y) Text)
    (hiff : page.Comes S ⟨f, nodes⟩ ↔ S ⟨f, nodes⟩ ∨ p) :
    Leaves f (do Watch.stop S stopped nodes; x) (halted stopped (page.Comes S ⟨f, nodes⟩) y)
      Text := by
  by_cases hS : S ⟨f, nodes⟩
  · rw [halted_of (hiff.2 (.inl hS))]
    intro st hst
    refine ⟨.empty, Rendering.run_bind_error ?_⟩
    rw [st.after_empty, Watch.stop, Rendering.run_get_bind, hst, if_pos hS]
    rfl
  · have hp : page.Comes S ⟨f, nodes⟩ ↔ p := hiff.trans (or_iff_right hS)
    rw [hp]
    refine Leaves.after_idle (fun st hst => ?_) (hx hS)
    rw [Watch.stop, Rendering.run_get_bind, hst, if_neg hS]
    rfl

mutual

theorem watchedNode_stop (he : stopped.IsAbort)
    (hp : page.StopsPartials S stopped levels inclusion) {f : Frame}
    (hf : page.config.maxDepth - f.depth = levels) : (node : Node) →
    Leaves f (page.watchedNode (.stop S stopped) inclusion node)
      (halted stopped (page.ComesInside S f node)
        (page.nodeEffects (page.partialEffects levels) f node)) Text
  | .text content => by
    have hnone : ¬ page.ComesInside S f (.text content) := by
      rintro ⟨v, henters, -⟩
      cases henters with
      | included hinserts => exact hinserts
    rw [watchedNode, nodeEffects, halted_of_not hnone]
    exact .pure rfl rfl rfl
  | .expression i escaped => by
    have hempty : FailsWith ThemeError.IsAbort (.ok Effects.empty) := .ok trivial
    rw [watchedNode, nodeEffects, ComesInside, exists_enters_expression, ← invocationEffects_halted
      (fun plan => Plan.carryOut_halted f escaped (fun _ => .ok .empty) (fun _ => False)
        (.ok .empty) False (page.partialEffects levels f) _ plan)]
    simp only [halted_of_not id]
    refine writing_leaves (page.invokeInline_invokes (hp f hf) i escaped) fun plan => ?_
    exact carryOut_aborts f (fun _ => hempty) hempty (page.haltedPartials_aborts S he levels f) plan
  | .block i body inverse => by
    have hbody place (hplace : f.enterBlock.Surrounds place) :
        Leaves place (page.watchedNodes (.stop S stopped) inclusion body)
          (halted stopped (page.Comes S ⟨place, body⟩)
            (page.nodesEffects (page.partialEffects levels) place body)) Text := by
      have hlevels : page.config.maxDepth - place.depth = levels := by
        obtain ⟨scopes, raw, rfl⟩ := hplace
        exact hf
      exact watchedNodes_stop he hp hlevels body
    have hinverse := watchedInverse_stop he hp (f := f.enterBlock) hf inverse
    have hinside : page.ComesInside S f (.block i body inverse) ↔ _ := exists_enters_block
    rw [hf] at hinside
    rw [watchedNode, nodeEffects, hinside, ← invocationEffects_halted
      (fun plan => Plan.carryOut_halted f.enterBlock true _ _ _ _
        (page.partialEffects levels f.enterBlock) _ plan)]
    refine writing_leaves (page.invokeBlock_invokes (hp _ hf) i hbody hinverse) fun plan => ?_
    have ha := page.partialEffects_aborts levels
    refine carryOut_aborts f.enterBlock (fun place => ?_) ?_
      (page.haltedPartials_aborts S he levels f.enterBlock) plan
    · exact halted_fails he (page.nodesEffects_aborts ha place body)
    · exact halted_fails he (page.inverseEffects_aborts ha f.enterBlock inverse)

theorem watchedInverse_stop (he : stopped.IsAbort)
    (hp : page.StopsPartials S stopped levels inclusion) {f : Frame}
    (hf : page.config.maxDepth - f.depth = levels) : (inverse : Option (List Node)) →
    Leaves f (page.watchedInverse (.stop S stopped) inclusion inverse)
      (halted stopped (∃ nodes, inverse = some nodes ∧ page.Comes S ⟨f, nodes⟩)
        (page.inverseEffects (page.partialEffects levels) f inverse)) Text
  | none => by
    have hnone : ¬ ∃ nodes, none = some nodes ∧ page.Comes S ⟨f, nodes⟩ := nofun
    rw [watchedInverse, inverseEffects, halted_of_not hnone]
    exact .pure rfl rfl rfl
  | some nodes => by
    have hiff : (∃ nodes', some nodes = some nodes' ∧ page.Comes S ⟨f, nodes'⟩) ↔
        page.Comes S ⟨f, nodes⟩ := by simp
    rw [watchedInverse, inverseEffects, hiff]
    exact watchedNodes_stop he hp hf nodes

/-- Watched, nodes are stopped or leave what they mean. -/
theorem watchedNodes_stop (he : stopped.IsAbort)
    (hp : page.StopsPartials S stopped levels inclusion) {f : Frame}
    (hf : page.config.maxDepth - f.depth = levels) : (nodes : List Node) →
    Leaves f (page.watchedNodes (.stop S stopped) inclusion nodes)
      (halted stopped (page.Comes S ⟨f, nodes⟩)
        (page.nodesEffects (page.partialEffects levels) f nodes)) Text
  | [] => by
    rw [watchedNodes, nodesEffects]
    refine stop_leaves (p := False) (fun _ => ?_) (by rw [comes_nil, or_false])
    rw [halted_of_not id]
    exact .pure rfl rfl rfl
  | node :: nodes => by
    have hnode := watchedNode_stop he hp hf node
    have hnodes (first : String) : Leaves f
        (do return first ++ (← page.watchedNodes (.stop S stopped) inclusion nodes))
        (halted stopped (page.Comes S ⟨f, nodes⟩)
          (page.nodesEffects (page.partialEffects levels) f nodes))
        (fun text e => text = first ++ e.html) :=
      (watchedNodes_stop he hp hf nodes).map (first ++ ·) fun _ _ h => congrArg (first ++ ·) h
    have hfirst : page.effects f [node] = page.nodeEffects (page.partialEffects levels) f node := by
      rw [effects, hf, nodesEffects_singleton]
    rw [watchedNodes, nodesEffects]
    refine stop_leaves (fun _ => ?_) comes_cons
    rw [hfirst, ← halted_seq]
    refine hnode.bind hnodes fun first e text e' h h' => ?_
    show text = e.html ++ e'.html
    rw [h', h]

end

end

/-- Watched, partials are stopped or leave what they mean. -/
theorem watchedPartial_stop (he : stopped.IsAbort) (levels : Nat) :
    page.StopsPartials S stopped levels (page.watchedPartial (.stop S stopped) levels) := by
  induction levels with
  | zero =>
    intro f hf t
    have hnone : ¬ (f.depth < page.config.maxDepth ∧
        page.Comes S ⟨f.enterPartial t.name, t.body⟩) := fun h => by omega
    rw [haltedPartials, halted_of_not hnone]
    exact .throw _
  | succ levels ih =>
    intro f hf t
    have hdepth : f.depth < page.config.maxDepth := by omega
    have hbody := watchedNodes_stop he ih (levels_enterPartial hf t.name) t.body
    rw [haltedPartials, and_iff_right hdepth]
    exact hbody.inPartial

variable (page S)

/-- Watched, nodes are stopped if rendering them comes to a visit that is picked, and leave what
they mean if it does not. -/
theorem watched_leaves (he : stopped.IsAbort) (f : Frame) (nodes : List Node) :
    Leaves f (page.watched (.stop S stopped) nodes)
      (halted stopped (page.Comes S ⟨f, nodes⟩) (page.effects f nodes)) Text := by
  refine .get_bind fun st hst => ?_
  subst hst
  exact watchedNodes_stop he (watchedPartial_stop he _) rfl nodes

/-! ## Rendering that is stopped -/

/-- Rendering nodes stops exactly if it comes to a visit at which it is to stop. -/
theorem watched_stop (he : stopped.IsAbort) (nodes : List Node) (st : RenderState) :
    (page.watched (.stop S stopped) nodes).outcome st =
      halted stopped (page.Comes S ⟨st.toFrame, nodes⟩) ((page.render nodes).outcome st) := by
  have hwatched := page.watched_leaves S he st.toFrame nodes
  by_cases hcomes : page.Comes S ⟨st.toFrame, nodes⟩
  · rw [halted_of hcomes] at hwatched ⊢
    obtain ⟨e, hrun⟩ := hwatched st rfl
    simp only [Rendering.outcome, hrun]
  · rw [halted_of_not hcomes] at hwatched ⊢
    exact hwatched.outcome_eq (page.render_leaves st.toFrame nodes)

variable {page S} in
theorem comesAlong_cons {root : Scope} {h : Handover} {t : Template} {chain : List Template} :
    (∃ v, page.VisitsAlong root h (t :: chain) v ∧ S v) ↔
      page.Comes S ⟨topFrame root h t, t.body⟩ ∨
        ∃ e, page.effects (topFrame root h t) t.body = .ok e ∧
          ∃ v, page.VisitsAlong root (h.next e) chain v ∧ S v := by
  constructor
  · rintro ⟨v, hv, hS⟩
    cases hv with
    | here hreaches => exact .inl ⟨v, hreaches, hS⟩
    | later heffects hv => exact .inr ⟨_, heffects, v, hv, hS⟩
  · rintro (⟨v, hreaches, hS⟩ | ⟨e, heffects, v, hv, hS⟩)
    · exact ⟨v, .here hreaches, hS⟩
    · exact ⟨v, .later heffects hv, hS⟩

theorem watchedChain_stop (he : stopped.IsAbort) (root : Scope) (chain : List Template)
    (h : Handover) (st : RenderState) (hst : h.Holds root st) :
    (page.watchedChain (.stop S stopped) h.body chain).outcome st =
      halted stopped (∃ v, page.VisitsAlong root h chain v ∧ S v)
        ((page.renderChain h.body chain).outcome st) := by
  induction chain generalizing h st with
  | nil =>
    have hnone : ¬ ∃ v, page.VisitsAlong root h [] v ∧ S v := by
      rintro ⟨v, ⟨⟩, -⟩
    rw [halted_of_not hnone]
    rfl
  | cons t chain ih =>
    have hframe := topFrame_beginTemplate hst t
    have hwatched := page.watched_leaves S he (topFrame root h t) t.body _ hframe
    have hrender := page.render_leaves (topFrame root h t) t.body _ hframe
    rw [comesAlong_cons, watchedChain, renderChain]
    unfold Rendering.outcome
    rw [Rendering.run_modify_bind, Rendering.run_modify_bind]
    by_cases hcomes : page.Comes S ⟨topFrame root h t, t.body⟩
    · rw [halted_of hcomes] at hwatched
      obtain ⟨e, hrun⟩ := hwatched
      rw [halted_of (Or.inl hcomes), Rendering.run_bind_error hrun]
    · rw [halted_of_not hcomes] at hwatched
      rw [or_iff_right hcomes]
      cases heffects : page.effects (topFrame root h t) t.body with
      | error err =>
        rw [heffects] at hwatched hrender
        obtain ⟨e, hrun⟩ := hwatched
        obtain ⟨e', hrun'⟩ := hrender
        rw [Rendering.run_bind_error hrun, Rendering.run_bind_error hrun', halted_of_not]
        rintro ⟨e, ⟨⟩, -⟩
      | ok e =>
        rw [heffects] at hwatched hrender
        obtain ⟨text, hrun, htext⟩ := hwatched
        obtain ⟨text', hrun', htext'⟩ := hrender
        obtain rfl : text = (h.next e).body := htext
        obtain rfl : text' = (h.next e).body := htext'
        have hchain := ih (h.next e) _ (holds_handOver hst t.name e)
        have hiff : (∃ e', Except.ok e = (.ok e' : Except ThemeError Effects) ∧
            ∃ v, page.VisitsAlong root (h.next e') chain v ∧ S v) ↔
              ∃ v, page.VisitsAlong root (h.next e) chain v ∧ S v := by simp
        rw [Rendering.run_bind_ok hrun, Rendering.run_bind_ok hrun', Rendering.run_modify_bind,
          Rendering.run_modify_bind, hiff]
        exact hchain

/-- A page is what rendering its layout chain comes to. -/
theorem renderTemplate_outcome (root : Scope) (t : Template) :
    page.renderTemplate root t = (do
      let chain ← page.theme.layoutChain t page.config.maxDepth
      let (html, st) ← (page.renderChain "" chain).outcome (.start root)
      return { html, diagnostics := st.diagnostics }) := by
  unfold renderTemplate Rendering.outcome
  cases page.theme.layoutChain t page.config.maxDepth with
  | error e => rfl
  | ok chain =>
    simp only [bind, Except.bind]
    cases (page.renderChain "" chain).run (.start root) <;> rfl

/-- Rendering a page stops exactly if it comes to a visit at which it is to stop. -/
theorem watchedTemplate_stop (he : stopped.IsAbort) (root : Scope) (t : Template) :
    page.watchedTemplate (.stop S stopped) root t =
      halted stopped (∃ v, page.Visits root t v ∧ S v) (page.renderTemplate root t) := by
  rw [renderTemplate_outcome]
  unfold watchedTemplate Visits
  cases page.theme.layoutChain t page.config.maxDepth with
  | error e =>
    have hnone : ¬ ∃ v, (∃ chain, Except.error e = Except.ok chain ∧
        page.VisitsAlong root {} chain v) ∧ S v := by
      rintro ⟨v, ⟨chain, ⟨⟩, -⟩, -⟩
    rw [halted_of_not hnone]
    simp only [bind, Except.bind]
  | ok chain =>
    have hiff : (∃ v, (∃ chain', Except.ok chain = (.ok chain' : Except ThemeError _) ∧
        page.VisitsAlong root {} chain' v) ∧ S v) ↔
          ∃ v, page.VisitsAlong root {} chain v ∧ S v := by simp
    have hchain : (page.watchedChain (.stop S stopped) "" chain).outcome (.start root) =
        halted stopped (∃ v, page.VisitsAlong root {} chain v ∧ S v)
          ((page.renderChain "" chain).outcome (.start root)) :=
      page.watchedChain_stop S he root chain {} (.start root) ⟨rfl, rfl, rfl, rfl, rfl, rfl⟩
    rw [hiff]
    simp only [bind, Except.bind]
    rw [hchain]
    exact halted_map _

end Page

end BlogTheme
