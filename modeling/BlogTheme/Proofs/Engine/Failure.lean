import BlogTheme.Engine.Basic
import BlogTheme.Proofs.Render.Pages

/-!
# What ends a page

Nodes, and with them templates and layout chains, fail only for their structure
or for partials or layouts that are nested too deeply (`Page.render_aborts`,
`Page.renderTemplate_aborts`). Apart from these an engine fails only when the theme has
no template of the name that is asked for (`Engine.render_failure`). Every other error
stays with the invocation in which it arose.
-/

namespace BlogTheme

open Template (Node)

theorem ThemeError.IsAbort.cases {e : ThemeError} (h : e.IsAbort) :
    (∃ template limit, e = .recursionLimit template limit) ∨
      ∃ template message, e = .structural template message := by
  cases e with
  | recursionLimit template limit => exact .inl ⟨template, limit, rfl⟩
  | structural template message => exact .inr ⟨template, message, rfl⟩
  | _ => exact h.elim

/-! ## Layout chains -/

theorem Template.layout_aborts (t : Template) : FailsWith ThemeError.IsAbort t.layout := by
  simp only [layout]
  split
  · exact .ok trivial
  · split
    · exact .error trivial
    · exact .ok trivial
  · exact .error trivial

/-- Following layouts fails only when they are too many or do not fit together. -/
theorem Theme.chainFrom_aborts (theme : Theme) (limit room : Nat) (seen : List String)
    (t : Template) : FailsWith ThemeError.IsAbort (theme.chainFrom limit room seen t) := by
  induction room generalizing seen t with
  | zero =>
    unfold chainFrom
    refine t.layout_aborts.bind fun parent? => ?_
    cases parent? with
    | none => exact .ok trivial
    | some parent => exact .error trivial
  | succ room ih =>
    unfold chainFrom
    refine t.layout_aborts.bind fun parent? => ?_
    cases parent? with
    | none => exact .ok trivial
    | some parent =>
      simp only
      cases theme.find? parent with
      | none => exact .error trivial
      | some layout =>
        simp only
        split
        · exact .error trivial
        · exact (ih _ layout).bind fun _ => .ok trivial

namespace Page

variable (page : Page)

theorem chainEffects_aborts (root : Scope) (chain : List Template) (h : Handover) :
    FailsWith ThemeError.IsAbort (page.chainEffects root h chain) := by
  induction chain generalizing h with
  | nil => exact .ok trivial
  | cons t chain ih =>
    unfold chainEffects
    exact (page.effects_aborts _ t.body).bind fun e => ih (h.next e)

/-- A template with its layouts. -/
theorem renderTemplate_aborts (root : Scope) (t : Template) :
    FailsWith ThemeError.IsAbort (page.renderTemplate root t) := by
  have hlayouts : FailsWith ThemeError.IsAbort (page.theme.layoutChain t page.config.maxDepth) :=
    page.theme.chainFrom_aborts _ _ [] t
  rw [renderTemplate_eq]
  refine hlayouts.bind fun chain => ?_
  exact (page.chainEffects_aborts root chain {}).bind fun _ => .ok trivial

/-- Nodes rendered from any state. -/
theorem render_aborts {nodes : List Node} {st st' : RenderState} {e : ThemeError}
    (h : (page.render nodes).run st = .error e st') : e.IsAbort := by
  have hrender := page.render_leaves st.toFrame nodes
  obtain ⟨hmeaning, -⟩ := hrender.of_run_error h
  exact (page.effects_aborts st.toFrame nodes).fault hmeaning

end Page

namespace Engine

/-- An engine fails only when the theme has no template of the name, when partials or
layouts are nested too deeply, or for the structure of templates. Rendering nodes, from
any state, fails only in the last two ways. -/
theorem render_failure (engine : Engine) (theme : Theme) (name : String) (request : Request) :
    (∀ e, engine.render theme name request = .error e →
      (e = .templateNotFound (Template.canonicalName name) ∧
        theme.find? (Template.canonicalName name) = none) ∨
      (∃ template limit, e = .recursionLimit template limit) ∨
      ∃ template message, e = .structural template message) ∧
    ∀ nodes st e st', ((engine.page theme request).render nodes).run st = .error e st' →
      (∃ template limit, e = .recursionLimit template limit) ∨
      ∃ template message, e = .structural template message := by
  refine ⟨fun e h => ?_, fun nodes st e st' h => (Page.render_aborts _ h).cases⟩
  unfold render renderFrom at h
  cases hfind : theme.find? (Template.canonicalName name) with
  | none =>
    simp only [hfind] at h
    cases h
    exact .inl ⟨rfl, rfl⟩
  | some t =>
    simp only [hfind] at h
    exact .inr ((Page.renderTemplate_aborts _ _ t).fault h).cases

/-- A layout directive inside a block ends the rendering of nodes. -/
theorem render_failure_structural :
    let engine := Engine.ofConfig Store.empty.resolver {}
    let directive : Node :=
      .expression { name := "!<", params := [.string "base"], hash := [], span := default } true
    let condition : Template.Invocation :=
      { name := "if", params := [.boolean true], hash := [], span := default }
    let nested : Node := .block condition [directive] none
    (∃ e, engine.render .empty "./home.hbs" default = .error e ∧
      e = .templateNotFound (Template.canonicalName "./home.hbs")) ∧
    ∃ e st, ((engine.page .empty default).render [nested]).run (.start .root) = .error e st ∧
      ∃ template message, e = .structural template message := by
  intro engine directive condition nested
  have hfailure := render_failure engine .empty "./home.hbs" default
  refine ⟨⟨_, rfl, ?_⟩, _, _, rfl, ?_⟩
  · obtain h | ⟨_, _, h⟩ | ⟨_, _, h⟩ := hfailure.1 _ rfl
    · exact h.1
    · cases h
    · cases h
  · obtain ⟨_, _, h⟩ | h := hfailure.2 [nested] (.start .root) _ _ rfl
    · cases h
    · exact h

end Engine

end BlogTheme
