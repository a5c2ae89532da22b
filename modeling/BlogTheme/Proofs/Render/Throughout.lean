import BlogTheme.Proofs.Render.Composition

/-!
# Throughout a rendering

A property holds throughout a rendering if watches that do nothing in states with the
property make no difference to it: one that stops the rendering in any other state would.
`Page.throughout` shows so of nodes, and `Page.throughoutPage` of a page with its layouts,
for what holds at all places of a region that the rendering begins in.
-/

namespace BlogTheme

open Template (Node)

namespace Rendering

/-- Texts with the same effects are the same. -/
theorem Leaves.outcome_eq {x x' : Rendering String} {y : Except ThemeError Effects}
    {st : RenderState} (hx : Leaves st.toFrame x y Text) (hx' : Leaves st.toFrame x' y Text) :
    x.outcome st = x'.outcome st := by
  have hx := hx st rfl
  have hx' := hx' st rfl
  unfold outcome
  cases y with
  | error err =>
    obtain ⟨e, hrun⟩ := hx
    obtain ⟨e', hrun'⟩ := hx'
    rw [hrun, hrun']
  | ok e =>
    obtain ⟨text, hrun, rfl⟩ := hx
    obtain ⟨text', hrun', rfl⟩ := hx'
    rw [hrun, hrun']

end Rendering

namespace Page

variable (page : Page)

/-- Throughout the rendering of nodes from a state, `P` holds of the nodes about to be
rendered and the state reached. -/
def Throughout (P : List Node → RenderState → Prop) (nodes : List Node) (st : RenderState) : Prop :=
  ∀ watch, Watch.IdleWhere P watch →
    (page.watched watch nodes).outcome st = (page.render nodes).outcome st

/-- Throughout the rendering of a page, `P` holds of the nodes about to be rendered and the
state reached. -/
def ThroughoutPage (P : List Node → RenderState → Prop) (root : Scope) (t : Template) : Prop :=
  ∀ watch, Watch.IdleWhere P watch →
    page.watchedTemplate watch root t = page.renderTemplate root t

variable {page} {Q : Nat → Frame → Prop} (hQ : Region Q) {P : List Node → RenderState → Prop}
  (hP : ∀ levels nodes st, Q levels st.toFrame → P nodes st)
include hQ hP

/-- What holds in a region holds throughout a rendering that begins there. -/
theorem throughout {st : RenderState} (hst : Q (page.config.maxDepth - st.depth) st.toFrame)
    (nodes : List Node) : page.Throughout P nodes st := by
  intro watch hwatch
  have hw : watch.IdleWhere fun _ st => ∃ levels, Q levels st.toFrame :=
    fun nodes st ⟨levels, hst⟩ => hwatch nodes st (hP levels nodes st hst)
  have ha := page.partialEffects_aborts (page.config.maxDepth - st.depth)
  have hwatched := page.watchedNodes_leaves hQ _ hw (page.watchedPartial_means hQ hw _) ha hst nodes
  exact hwatched.outcome_eq (page.render_leaves st.toFrame nodes)

theorem watchedChain_outcome {root : Scope}
    (htop : ∀ h t, Q page.config.maxDepth (topFrame root h t)) {watch : Watch}
    (hwatch : watch.IdleWhere P) (chain : List Template) (h : Handover) (st : RenderState)
    (hst : h.Holds root st) :
    (page.watchedChain watch h.body chain).outcome st =
      (page.renderChain h.body chain).outcome st := by
  induction chain generalizing h st with
  | nil => rfl
  | cons t chain ih =>
    rw [watchedChain, renderChain]
    refine Rendering.outcome_bind_congr rfl fun _ st' hbegin => ?_
    obtain rfl : st.beginTemplate t.name h.body = st' := by cases hbegin; rfl
    have hframe := topFrame_beginTemplate hst t
    have hplace : Q (page.config.maxDepth - (st.beginTemplate t.name h.body).depth)
        (st.beginTemplate t.name h.body).toFrame := by
      rw [hframe]
      exact htop h t
    refine Rendering.outcome_bind_congr (throughout hQ hP hplace t.body watch hwatch) ?_
    intro text st' hrender
    obtain ⟨e, -, rfl, rfl⟩ := (page.render_leaves _ t.body).of_run_ok hrender
    refine Rendering.outcome_bind_congr rfl fun _ st' hhand => ?_
    obtain rfl : ((st.beginTemplate t.name h.body).after e).handOver = st' := by cases hhand; rfl
    exact ih (h.next e) _ (holds_handOver hst t.name e)

/-- What holds in a region holds throughout a page of which all templates begin there. -/
theorem throughoutPage {root : Scope} (htop : ∀ h t, Q page.config.maxDepth (topFrame root h t))
    (t : Template) : page.ThroughoutPage P root t := by
  intro watch hwatch
  unfold watchedTemplate renderTemplate
  cases page.theme.layoutChain t page.config.maxDepth with
  | error e => rfl
  | ok chain =>
    have hchain := watchedChain_outcome hQ hP htop hwatch chain {} (.start root)
      ⟨rfl, rfl, rfl, rfl, rfl, rfl⟩
    simp only [bind, Except.bind, hchain]
    unfold Rendering.outcome
    cases (page.renderChain "" chain).run (.start root) <;> rfl

end Page

end BlogTheme
