import BlogTheme.Proofs.Render.Fault
import BlogTheme.Proofs.Render.Invokes
import BlogTheme.Proofs.Render.Watched

/-!
# Rendering does what templates mean

Nodes leave behind the effects that they mean: an invocation that fails before it is
carried out leaves a diagnostic (`Page.writing_leaves`), and the errors of bodies and
partials, which are all fatal, go through. The proof is by induction on nodes
(`Page.watchedNodes_leaves`), and for the partials that they include by induction on the
levels that are left (`Page.watchedPartial_means`). It is carried out under a watch that
does nothing at the places that rendering can get to (`Region`); without a watch these are
all places (`Page.renderNodes_leaves`, `Page.renderPartial_means`).
-/

namespace BlogTheme

open Template (Invocation Node)
open Rendering (Leaves Text)

/-- Places that rendering does not get out of: into the bodies of blocks it stays among
those with as many levels left, and into partials among those with one less. -/
structure Region (Q : Nat → Frame → Prop) : Prop where
  surrounds : ∀ {levels f place}, Q levels f → f.Surrounds place → Q levels place
  enterBlock : ∀ {levels f}, Q levels f → Q levels f.enterBlock
  enterPartial : ∀ {levels f}, Q (levels + 1) f → ∀ name, Q levels (f.enterPartial name)

/-- All places. -/
theorem Region.all : Region fun _ _ => True :=
  ⟨fun _ _ => trivial, fun _ => trivial, fun _ _ => trivial⟩

namespace Page

variable (page : Page)

theorem run_recover_some {line : Nat} {e : ThemeError} {d : Diagnostic} {st : RenderState}
    (h : e.diagnostic? st.template line = some d) :
    (recover line e).run st = .ok "" (st.record d) := by
  unfold recover
  rw [Rendering.run_get_bind, h]
  rfl

theorem run_recover_none {line : Nat} {e : ThemeError} (h : e.diagnosticKind? = none)
    (st : RenderState) : (recover line e).run st = .error e st := by
  unfold recover
  rw [Rendering.run_get_bind, ThemeError.diagnostic?_eq_none.2 h]
  rfl

/-- An invocation whose value is written leaves a diagnostic if there is no plan for
it. -/
theorem writing_leaves {f : Frame} {i : Invocation} {escaped : Bool} {x : Rendering Value}
    {plan? : Except ThemeError Plan} {out : Plan → Except ThemeError Effects}
    (hx : Invokes f escaped out x plan?) (hout : ∀ plan, FailsWith ThemeError.IsAbort (out plan)) :
    Leaves f (writing i escaped x) (invocationEffects f i out plan?) Text := by
  intro st hst
  unfold writing
  cases plan? with
  | error e =>
    have hrun : x.run st = .error e st := hx st hst
    have htemplate : f.template = st.template := congrArg Frame.template hst.symm
    -- Nothing has been changed, so the template is still that of the place.
    rw [Rendering.run_tryCatch_error (Rendering.run_bind_error hrun)]
    simp only [invocationEffects, faultEffects, htemplate]
    cases hd : e.diagnostic? st.template i.span.line with
    | some d => exact ⟨"", run_recover_some hd, rfl⟩
    | none =>
      refine ⟨.empty, ?_⟩
      rw [st.after_empty]
      exact run_recover_none (ThemeError.diagnostic?_eq_none.1 hd) st
  | ok plan =>
    have hx := hx st hst
    simp only [invocationEffects]
    cases hplan : out plan with
    | error err =>
      simp only [hplan] at hx
      obtain ⟨e, hrun⟩ := hx
      -- A fatal error is thrown again in the state in which it arose.
      have hfatal := ((hout plan).fault hplan).isFatal
      refine ⟨e, ?_⟩
      rw [Rendering.run_tryCatch_error (Rendering.run_bind_error hrun)]
      exact run_recover_none hfatal _
    | ok e =>
      simp only [hplan] at hx
      obtain ⟨v, hrun, hv⟩ := hx
      refine ⟨f.write escaped v, ?_, hv⟩
      rw [← hst]
      exact Rendering.run_tryCatch_ok (Rendering.run_bind_ok hrun)

-- Partials are a parameter, so that the induction is on nodes alone; `hp` and `ha` stand for
-- the levels that are left.
section

variable {watch : Watch} {inclusion : Inclusion} {partials : PartialEffects}
  {Q : Nat → Frame → Prop}

mutual

theorem watchedNode_leaves (hQ : Region Q) (levels : Nat)
    (hw : watch.IdleWhere fun _ st => ∃ levels, Q levels st.toFrame)
    (hp : ∀ f, Q levels f → inclusion.Means f (partials f)) (ha : partials.OnlyAbort) {f : Frame}
    (hf : Q levels f) : (node : Node) →
    Leaves f (page.watchedNode watch inclusion node) (page.nodeEffects partials f node) Text
  | .text content => by
    rw [watchedNode, nodeEffects]
    exact .pure rfl rfl rfl
  | .expression i escaped => by
    have hnone : FailsWith ThemeError.IsAbort (.ok Effects.empty) := .ok trivial
    rw [watchedNode, nodeEffects]
    refine writing_leaves (page.invokeInline_invokes (hp f hf) i escaped) fun plan => ?_
    exact carryOut_aborts f (fun _ => hnone) hnone (ha f) plan
  | .block i body inverse => by
    have hinside := hQ.enterBlock hf
    have hbody place (hplace : f.enterBlock.Surrounds place) :=
      watchedNodes_leaves hQ levels hw hp ha (hQ.surrounds hinside hplace) body
    have hinverse := watchedInverse_leaves hQ levels hw hp ha hinside inverse
    have hfatal := page.inverseEffects_aborts ha f.enterBlock inverse
    rw [watchedNode, nodeEffects]
    refine writing_leaves (page.invokeBlock_invokes (hp _ hinside) i hbody hinverse) fun plan => ?_
    refine carryOut_aborts f.enterBlock (fun place => ?_) hfatal (ha f.enterBlock) plan
    exact page.nodesEffects_aborts ha place body

theorem watchedInverse_leaves (hQ : Region Q) (levels : Nat)
    (hw : watch.IdleWhere fun _ st => ∃ levels, Q levels st.toFrame)
    (hp : ∀ f, Q levels f → inclusion.Means f (partials f)) (ha : partials.OnlyAbort) {f : Frame}
    (hf : Q levels f) : (inverse : Option (List Node)) →
    Leaves f (page.watchedInverse watch inclusion inverse)
      (page.inverseEffects partials f inverse) Text
  | none => by
    rw [watchedInverse, inverseEffects]
    exact .pure rfl rfl rfl
  | some nodes => by
    rw [watchedInverse, inverseEffects]
    exact watchedNodes_leaves hQ levels hw hp ha hf nodes

/-- Under a watch that does nothing at the places of a region, nodes leave behind what they
mean at these places. -/
theorem watchedNodes_leaves (hQ : Region Q) (levels : Nat)
    (hw : watch.IdleWhere fun _ st => ∃ levels, Q levels st.toFrame)
    (hp : ∀ f, Q levels f → inclusion.Means f (partials f)) (ha : partials.OnlyAbort) {f : Frame}
    (hf : Q levels f) : (nodes : List Node) →
    Leaves f (page.watchedNodes watch inclusion nodes) (page.nodesEffects partials f nodes) Text
  | [] => by
    rw [watchedNodes, nodesEffects]
    exact Leaves.after_idle (fun st hst => hw [] st ⟨levels, hst ▸ hf⟩) (.pure rfl rfl rfl)
  | node :: nodes => by
    have hnode := watchedNode_leaves hQ levels hw hp ha hf node
    have hnodes (first : String) : Leaves f
        (do return first ++ (← page.watchedNodes watch inclusion nodes))
        (page.nodesEffects partials f nodes) (fun text e => text = first ++ e.html) :=
      (watchedNodes_leaves hQ levels hw hp ha hf nodes).map (first ++ ·) fun _ _ h =>
        congrArg (first ++ ·) h
    rw [watchedNodes, nodesEffects]
    refine Leaves.after_idle (fun st hst => hw (node :: nodes) st ⟨levels, hst ▸ hf⟩) ?_
    refine hnode.bind hnodes fun first e text e' h h' => ?_
    show text = e.html ++ e'.html
    rw [h', h]

end

/-- Under such a watch partials leave behind what they mean. -/
theorem watchedPartial_means (hQ : Region Q)
    (hw : watch.IdleWhere fun _ st => ∃ levels, Q levels st.toFrame) (levels : Nat) (f : Frame)
    (hf : Q levels f) :
    Inclusion.Means f (page.watchedPartial watch levels) (page.partialEffects levels f) := by
  induction levels generalizing f with
  | zero => exact fun t => .throw _
  | succ levels ih =>
    intro t
    have ha := page.partialEffects_aborts levels
    have hbody := page.watchedNodes_leaves hQ levels hw ih ha (hQ.enterPartial hf t.name) t.body
    exact hbody.inPartial

end

/-! ## Without a watch -/

section

variable {inclusion : Inclusion} {partials : PartialEffects}
  (hp : ∀ f, inclusion.Means f (partials f)) (ha : partials.OnlyAbort) (f : Frame)
include hp ha

theorem renderInverse_leaves (inverse : Option (List Node)) :
    Leaves f (page.renderInverse inclusion inverse) (page.inverseEffects partials f inverse) Text := by
  rw [← watchedInverse_idle]
  exact page.watchedInverse_leaves .all 0 (fun _ _ _ => rfl) (fun f _ => hp f) ha trivial inverse

/-- Nodes leave behind what they mean. -/
theorem renderNodes_leaves (nodes : List Node) :
    Leaves f (page.renderNodes inclusion nodes) (page.nodesEffects partials f nodes) Text := by
  rw [← watchedNodes_idle]
  exact page.watchedNodes_leaves .all 0 (fun _ _ _ => rfl) (fun f _ => hp f) ha trivial nodes

end

/-- Partials leave behind what they mean. -/
theorem renderPartial_means (levels : Nat) (f : Frame) :
    Inclusion.Means f (page.renderPartial levels) (page.partialEffects levels f) := by
  rw [← watchedPartial_idle]
  exact page.watchedPartial_means .all (fun _ _ _ => rfl) levels f trivial

end Page

end BlogTheme
