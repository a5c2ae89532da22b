import BlogTheme.Proofs.Render.Composition

/-!
# Recovering from faults

An invocation that fails with an error that can be recovered from has changed
nothing (`Invokes.error_changes_nothing`): such errors arise while the invocation is
planned, and whatever fails in its body or in a partial is fatal. So the node of the
invocation leaves one diagnostic and nothing else (`Page.renderNode_recovers`).
-/

namespace BlogTheme

open Template (Argument Invocation Node)

/-- An invocation whose plan fails fatally at most, once there is one, has changed
nothing when it ends in an error that can be recovered from. -/
theorem Invokes.error_changes_nothing {f : Frame} {escaped : Bool}
    {out : Plan → Except ThemeError Effects} {x : Rendering Value} {plan? : Except ThemeError Plan}
    (hx : Invokes f escaped out x plan?) (hout : ∀ plan, FailsWith ThemeError.IsAbort (out plan))
    {st st' : RenderState} (hst : st.toFrame = f) {e : ThemeError} {kind : DiagnosticKind}
    (hrun : x.run st = .error e st') (hkind : e.diagnosticKind? = some kind) : st' = st := by
  cases plan? with
  | error err =>
    have hquiet : x.run st = .error err st := hx st hst
    rw [hrun] at hquiet
    cases hquiet
    rfl
  | ok plan =>
    -- The error came from the body or a partial, where only fatal ones get out.
    subst hst
    obtain ⟨hplan, -⟩ := Rendering.Leaves.of_run_error hx hrun
    have hfatal := ((hout plan).fault hplan).isFatal
    rw [hkind] at hfatal
    cases hfatal

namespace Page

variable (page : Page) (levels : Nat) (st : RenderState)

/-- What is recorded of an error that can be recovered from. -/
theorem run_writing_error {i : Invocation} {escaped : Bool} {x : Rendering Value} {e : ThemeError}
    {kind : DiagnosticKind} {st : RenderState} (hrun : x.run st = .error e st)
    (hkind : e.diagnosticKind? = some kind) :
    (writing i escaped x).run st = .ok "" (st.record
      { kind, template := st.template, message := e.message, line := i.span.line }) := by
  unfold writing
  rw [Rendering.run_tryCatch_error (Rendering.run_bind_error hrun)]
  exact run_recover_some (by rw [ThemeError.diagnostic?, hkind]; rfl)

theorem invokeInline_error {i : Invocation} {st' : RenderState} {e : ThemeError}
    {kind : DiagnosticKind}
    (hrun : (page.invokeInline (page.renderPartial levels) i).run st = .error e st')
    (hkind : e.diagnosticKind? = some kind) : st' = st := by
  have hinvokes := page.invokeInline_invokes (page.renderPartial_means levels st.toFrame) i true
  have hnone : FailsWith ThemeError.IsAbort (.ok Effects.empty) := .ok trivial
  refine hinvokes.error_changes_nothing (fun plan => ?_) rfl hrun hkind
  exact carryOut_aborts st.toFrame (fun _ => hnone) hnone
    (page.partialEffects_aborts levels st.toFrame) plan

theorem invokeBlock_error {i : Invocation} {body : List Node} {inverse : Option (List Node)}
    {st' : RenderState} {e : ThemeError} {kind : DiagnosticKind}
    (hrun : (page.invokeBlock (page.renderPartial levels) i
      (page.renderNodes (page.renderPartial levels) body)
      (page.renderInverse (page.renderPartial levels) inverse)).run st = .error e st')
    (hkind : e.diagnosticKind? = some kind) : st' = st := by
  have hp := page.renderPartial_means levels
  have ha := page.partialEffects_aborts levels
  have hbody place (_ : st.toFrame.enterBlock.Surrounds place) :=
    page.renderNodes_leaves hp ha place body
  have hinverse := page.renderInverse_leaves hp ha st.toFrame.enterBlock inverse
  have hinvokes := page.invokeBlock_invokes (hp _) i hbody hinverse
  have hfatal := page.inverseEffects_aborts ha st.toFrame.enterBlock inverse
  refine hinvokes.error_changes_nothing (fun plan => ?_) rfl hrun hkind
  refine carryOut_aborts st.toFrame.enterBlock (fun place => ?_) hfatal (ha _) plan
  exact page.nodesEffects_aborts ha place body

/-- A node whose invocation fails with an error that can be recovered from leaves one
diagnostic, of the error, the template and the line of the invocation; it writes nothing
and changes nothing else. Evaluating an argument comes to the same whatever renders
partials, and changes nothing at all. -/
theorem renderNode_recovers :
    (∀ i escaped e kind st',
      (page.invokeInline (page.renderPartial levels) i).run st = .error e st' →
      e.diagnosticKind? = some kind →
      (page.renderNode (page.renderPartial levels) (.expression i escaped)).run st =
        .ok "" { st with
          diagnostics := st.diagnostics ++
            [{ kind, template := st.template, message := e.message, line := i.span.line }] }) ∧
    (∀ i body inverse e kind st',
      (page.invokeBlock (page.renderPartial levels) i
        (page.renderNodes (page.renderPartial levels) body)
        (page.renderInverse (page.renderPartial levels) inverse)).run st = .error e st' →
      e.diagnosticKind? = some kind →
      (page.renderNode (page.renderPartial levels) (.block i body inverse)).run st =
        .ok "" { st with
          diagnostics := st.diagnostics ++
            [{ kind, template := st.template, message := e.message, line := i.span.line }] }) ∧
    ∀ a, ∃ y : Except ThemeError Value, ∀ inclusion,
      (page.evaluate inclusion a).run st = Rendering.settled y st := by
  refine ⟨fun i escaped e kind st' hrun hkind => ?_,
    fun i body inverse e kind st' hrun hkind => ?_,
    fun a => ⟨page.valueAt st.toFrame a, fun inclusion => page.evaluate_quiet inclusion _ a st rfl⟩⟩
  · obtain rfl := page.invokeInline_error levels st hrun hkind
    rw [renderNode]
    exact run_writing_error hrun hkind
  · obtain rfl := page.invokeBlock_error levels st hrun hkind
    rw [renderNode]
    exact run_writing_error hrun hkind

/-- A loop over a text fails before its body is rendered. -/
theorem renderNode_recovers_forEach :
    let span : Template.Span := { start := 0, stop := 9, line := 3, column := 1 }
    let loop : Invocation := { name := "foreach", params := [.string "x"], hash := [], span }
    let body : List Node := [.expression { name := "nope", params := [], hash := [], span } true]
    (bare.renderNode (bare.renderPartial 1) (.block loop body none)).run (.start .root) =
      .ok "" { RenderState.start .root with
        diagnostics := [{
          kind := .helperFailed
          template := ""
          message := "Helper 'foreach' failed: cannot iterate over 'x'"
          line := 3 }] } := by
  intro span loop body
  exact (renderNode_recovers bare 1 (.start .root)).2.1 loop body none _ _ _ rfl rfl

end Page

end BlogTheme
