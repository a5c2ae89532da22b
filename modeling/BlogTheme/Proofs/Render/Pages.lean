import BlogTheme.Proofs.Render.Simulation

/-!
# Pages and what they mean

`Page.render_leaves` is the simulation for `Page.render`, from any state. Along a
layout chain the state between two templates holds what the templates so far hand over
(`Handover.Holds`), so that rendering the chain comes to what `Page.chainEffects` says
(`Page.renderChain_hands`), and a page is that (`Page.renderTemplate_eq`).
-/

namespace BlogTheme

open Template (Node)
open Rendering (Leaves Text)

/-- Between two templates of a layout chain, the state is at the top of the page and
holds what is handed over. -/
structure Handover.Holds (root : Scope) (h : Handover) (st : RenderState) : Prop where
  scopes : st.scopes = [root]
  raw : st.raw = false
  depth : st.depth = 0
  blocks : st.blocks = 0
  slots : st.slots = h.slots
  diagnostics : st.diagnostics = h.diagnostics

namespace Page

variable (page : Page)

/-- From any state nodes leave behind what they mean at its place. -/
theorem render_leaves (f : Frame) (nodes : List Node) :
    Leaves f (page.render nodes) (page.effects f nodes) Text := by
  refine .get_bind fun st hst => ?_
  subst hst
  exact page.renderNodes_leaves (page.renderPartial_means _) (page.partialEffects_aborts _) _ nodes

theorem topFrame_beginTemplate {root : Scope} {h : Handover} {st : RenderState}
    (hst : h.Holds root st) (t : Template) :
    (st.beginTemplate t.name h.body).toFrame = topFrame root h t := by
  simp [RenderState.beginTemplate, topFrame, hst.scopes, hst.raw, hst.depth, hst.blocks, hst.slots]

theorem holds_handOver {root : Scope} {h : Handover} {st : RenderState} (hst : h.Holds root st)
    (name : String) (e : Effects) :
    (h.next e).Holds root ((st.beginTemplate name h.body).after e).handOver where
  scopes := hst.scopes
  raw := hst.raw
  depth := hst.depth
  blocks := hst.blocks
  slots := by simp [RenderState.beginTemplate, RenderState.after, RenderState.handOver,
    Handover.next, hst.slots]
  diagnostics := congrArg (· ++ e.diagnostics) hst.diagnostics

/-- Rendering a layout chain hands on what the chain means. -/
theorem renderChain_hands (root : Scope) (chain : List Template) (h : Handover) (st : RenderState)
    (hst : h.Holds root st) :
    match page.chainEffects root h chain with
    | .ok h' => ∃ st', (page.renderChain h.body chain).run st = .ok h'.body st' ∧ h'.Holds root st'
    | .error err => ∃ st', (page.renderChain h.body chain).run st = .error err st' := by
  induction chain generalizing h st with
  | nil => exact ⟨st, rfl, hst⟩
  | cons t chain ih =>
    have hrender := page.render_leaves _ t.body _ (topFrame_beginTemplate hst t)
    rw [chainEffects, renderChain, Rendering.run_modify_bind]
    cases heffects : page.effects (topFrame root h t) t.body with
    | error err =>
      simp only [heffects] at hrender
      obtain ⟨e, hrun⟩ := hrender
      exact ⟨_, Rendering.run_bind_error hrun⟩
    | ok e =>
      simp only [heffects] at hrender
      obtain ⟨text, hrun, htext⟩ := hrender
      have ih := ih (h.next e) _ (holds_handOver hst t.name e)
      rw [Rendering.run_bind_ok hrun, Rendering.run_modify_bind, htext]
      exact ih

/-- A page is what its layout chain means. -/
theorem renderTemplate_eq (root : Scope) (t : Template) :
    page.renderTemplate root t = (do
      let chain ← page.theme.layoutChain t page.config.maxDepth
      let h ← page.chainEffects root {} chain
      return { html := h.body, diagnostics := h.diagnostics }) := by
  unfold renderTemplate
  cases page.theme.layoutChain t page.config.maxDepth with
  | error e => rfl
  | ok chain =>
    have hchain := page.renderChain_hands root chain {} (.start root) ⟨rfl, rfl, rfl, rfl, rfl, rfl⟩
    cases hmeaning : page.chainEffects root {} chain with
    | error err =>
      simp only [hmeaning] at hchain
      obtain ⟨st, hrun⟩ := hchain
      simp [bind, Except.bind, hmeaning, hrun, throw, throwThe, MonadExceptOf.throw]
    | ok h =>
      simp only [hmeaning] at hchain
      obtain ⟨st, hrun, hst⟩ := hchain
      simp [bind, Except.bind, hmeaning, hrun, hst.diagnostics]

variable {page}

/-- A page that is made is what the templates of its layout chain hand on at the end. -/
theorem chain_of_renderTemplate {root : Scope} {t : Template} {out : Output}
    (h : page.renderTemplate root t = .ok out) :
    ∃ chain last, page.theme.layoutChain t page.config.maxDepth = .ok chain ∧
      page.chainEffects root {} chain = .ok last ∧
      out = { html := last.body, diagnostics := last.diagnostics } := by
  rw [page.renderTemplate_eq] at h
  cases hchain : page.theme.layoutChain t page.config.maxDepth with
  | error e =>
    rw [hchain] at h
    cases h
  | ok chain =>
    rw [hchain] at h
    cases hlast : page.chainEffects root {} chain with
    | error e =>
      simp only [bind, Except.bind, hlast] at h
      cases h
    | ok last =>
      simp only [bind, Except.bind, hlast] at h
      exact ⟨chain, last, rfl, hlast, (Except.ok.inj h).symm⟩

/-- A layout chain that succeeds begins with a template that does. -/
theorem chainEffects_cons_eq_ok {root : Scope} {h last : Handover} {t : Template}
    {chain : List Template} (hchain : page.chainEffects root h (t :: chain) = .ok last) :
    ∃ e, page.effects (topFrame root h t) t.body = .ok e ∧
      page.chainEffects root (h.next e) chain = .ok last := by
  rw [chainEffects] at hchain
  cases he : page.effects (topFrame root h t) t.body with
  | error err =>
    rw [he] at hchain
    cases hchain
  | ok e =>
    rw [he] at hchain
    exact ⟨e, rfl, hchain⟩

end Page

end BlogTheme
