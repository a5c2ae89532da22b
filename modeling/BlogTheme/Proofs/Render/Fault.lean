import BlogTheme.Proofs.Outcome
import BlogTheme.Proofs.Render.Transfer

/-!
# What can go wrong in a rendering

An invocation fails in one of five ways: no helper or nothing has its name, its
partial is missing, or a helper refuses its arguments or its place
(`planExpression_fails`, `planBlock_fails`). All but the last of these become
diagnostics, so that nodes fail only for their structure or for partials that are nested
too deeply (`nodesEffects_aborts`, by induction on the nodes;
`partialEffects_aborts`, by induction on the levels).
-/

namespace BlogTheme

open Template (Argument Invocation Node)

namespace ThemeError

/-- Errors of one invocation. -/
def IsInvocationFault : ThemeError → Prop
  | unknownHelper _ | unresolvedPath _ | missingPartial _ | helperFailed _ _ => True
  | structural _ _ => True
  | _ => False

/-- Errors that end the rendering of nodes. -/
def IsAbort : ThemeError → Prop
  | recursionLimit _ _ => True
  | structural _ _ => True
  | _ => False

theorem IsRefusal.isInvocationFault {e : ThemeError} (h : e.IsRefusal) : e.IsInvocationFault := by
  cases e <;> trivial

/-- An error of one invocation aborts only if it is fatal. -/
theorem IsInvocationFault.isAbort {e : ThemeError} (h : e.IsInvocationFault)
    (hfatal : e.diagnosticKind? = none) : e.IsAbort := by
  cases e with
  | structural template message => trivial
  | unknownHelper | unresolvedPath | missingPartial | helperFailed => cases hfatal
  | _ => exact h.elim

theorem IsAbort.isFatal {e : ThemeError} (h : e.IsAbort) : e.diagnosticKind? = none := by
  cases e with
  | recursionLimit | structural => rfl
  | _ => exact h.elim

theorem diagnostic?_eq_none {e : ThemeError} {template : String} {line : Nat} :
    e.diagnostic? template line = none ↔ e.diagnosticKind? = none := by
  simp [diagnostic?]

end ThemeError

/-- Computations that fail with errors of one invocation only, each related to
itself. -/
def faults : Transfer (Except ThemeError) (Except ThemeError) where
  Rel x y := x = y ∧ FailsWith ThemeError.IsInvocationFault x
  pure _ := ⟨rfl, .ok trivial⟩
  bind := by
    rintro _ _ x _ g h ⟨rfl, hx⟩ hg
    exact ⟨congrArg (x >>= ·) (funext fun a => (hg a).1), hx.bind fun a => (hg a).2⟩
  throw h := ⟨rfl, .error h.isInvocationFault⟩

namespace Page

variable (page : Page) (f : Frame)

theorem valueAt_fails (a : Argument) :
    FailsWith ThemeError.IsInvocationFault (page.valueAt f a) := by
  cases a with
  | path p =>
    simp only [valueAt]
    cases page.helpers.find? p with
    | none => exact .ok trivial
    | some h =>
      cases h with
      | reader r =>
        have hc : Call.Related faults { name := p } ({ name := p } : ValuedCall) :=
          ⟨rfl, .nil, .nil⟩
        exact (hc.read page f r).2.bind fun _ => .ok trivial
      | builder b =>
        refine .error ?_
        cases b <;> trivial
  | _ => exact .ok trivial

theorem givenAt_related (a : Argument) : (page.givenAt f a).Related faults (page.givenAt f a) :=
  ⟨rfl, rfl, page.valueAt_fails f a⟩

theorem callAt_related (i : Invocation) : (page.callAt f i).Related faults (page.callAt f i) where
  name := rfl
  params := by
    simp only [callAt, List.forall₂_map_left_iff, List.forall₂_map_right_iff]
    exact List.forall₂_same.2 fun a _ => page.givenAt_related f a
  hash := by
    simp only [callAt, List.forall₂_map_left_iff, List.forall₂_map_right_iff]
    exact List.forall₂_same.2 fun a _ => ⟨rfl, page.givenAt_related f a.2⟩

section

variable {c : ValuedCall} (hc : c.Related faults c)
include hc

theorem planItems_fails (items : List Value) :
    FailsWith ThemeError.IsInvocationFault (planItems f c items) := by
  refine (hc.limited items).2.bind fun items => ?_
  split
  · exact .ok trivial
  · exact hc.givens.2.bind fun _ => .ok trivial

theorem planEntity_fails (v : Value) :
    FailsWith ThemeError.IsInvocationFault (planEntity f c v) := by
  unfold planEntity
  split
  · exact .ok trivial
  · exact hc.givens.2.bind fun _ => .ok trivial

omit hc in
theorem planPartial_fails (name : String) :
    FailsWith ThemeError.IsInvocationFault (page.planPartial name) := by
  unfold planPartial
  cases page.theme.findPartial? name with
  | none => exact .error trivial
  | some t => exact .ok trivial

theorem planReader_fails (r : Reader) :
    FailsWith ThemeError.IsInvocationFault (page.planReader f c r) := by
  cases r with
  | postTags => exact (hc.tagLine _).2.bind fun _ => .ok trivial
  | navigation =>
    simp only [planReader]
    split
    · exact .ok trivial
    · split <;> exact .ok trivial
  | pagination =>
    simp only [planReader]
    split <;> exact .ok trivial
  | _ => exact (hc.read page f _).2.bind fun _ => .ok trivial

theorem planReading_fails (r : Reading) :
    FailsWith ThemeError.IsInvocationFault (planReading f c r) := by
  cases r with
  | value v => exact .ok trivial
  | flag b => exact .ok trivial
  | entity v => exact planEntity_fails f hc v
  | list v => exact planItems_fails f hc _

theorem planReaderBlock_fails (r : Reader) :
    FailsWith ThemeError.IsInvocationFault (page.planReaderBlock f c r) := by
  cases r with
  | unescaped => exact .ok trivial
  | _ => exact (hc.read page f _).2.bind fun r => planReading_fails f hc r

theorem planBuilder_fails (b : Builder) :
    FailsWith ThemeError.IsInvocationFault (page.planBuilder f c b) := by
  cases b with
  | forEach => exact .error trivial
  | contentFor => exact .error trivial
  | block => exact hc.nameArgument.2.bind fun _ => .ok trivial
  | partialOf => exact hc.nameArgument.2.bind fun name => page.planPartial_fails name

theorem planBuilderBlock_fails (b : Builder) :
    FailsWith ThemeError.IsInvocationFault (page.planBuilderBlock f c b) := by
  cases b with
  | forEach => exact hc.loopItems.2.bind fun items => planItems_fails f hc items
  | contentFor => exact hc.nameArgument.2.bind fun _ => .ok trivial
  | block =>
    refine hc.nameArgument.2.bind fun name => ?_
    split <;> exact .ok trivial
  | partialOf => exact hc.nameArgument.2.bind fun name => page.planPartial_fails name

end

theorem planExpression_fails (i : Invocation) :
    FailsWith ThemeError.IsInvocationFault (page.planExpression f i) := by
  unfold planExpression
  cases page.helpers.find? i.name with
  | some h =>
    cases h with
    | reader r => exact page.planReader_fails f (page.callAt_related f i) r
    | builder b => exact page.planBuilder_fails f (page.callAt_related f i) b
  | none =>
    simp only
    split
    · exact .error trivial
    · split
      · exact .error trivial
      · exact .ok trivial

theorem planBlock_fails (i : Invocation) :
    FailsWith ThemeError.IsInvocationFault (page.planBlock f i) := by
  unfold planBlock
  cases page.helpers.find? i.name with
  | some h =>
    cases h with
    | reader r => exact page.planReaderBlock_fails f (page.callAt_related f i) r
    | builder b => exact page.planBuilderBlock_fails f (page.callAt_related f i) b
  | none => exact .error trivial

/-! ## Nodes -/

theorem faultEffects_aborts (i : Invocation) {e : ThemeError} (h : e.IsInvocationFault) :
    FailsWith ThemeError.IsAbort (faultEffects f i e) := by
  unfold faultEffects
  split
  · exact .ok trivial
  · rename_i hd
    exact .error (h.isAbort (ThemeError.diagnostic?_eq_none.1 hd))

theorem carryOut_aborts {escaped : Bool} {body : Frame → Except ThemeError Effects}
    {inverse : Except ThemeError Effects} {partials : Template → Except ThemeError Effects}
    (hb : ∀ f, FailsWith ThemeError.IsAbort (body f)) (hi : FailsWith ThemeError.IsAbort inverse)
    (hp : ∀ t, FailsWith ThemeError.IsAbort (partials t)) (plan : Plan) :
    FailsWith ThemeError.IsAbort (plan.carryOut f escaped body inverse partials) := by
  cases plan with
  | write v => exact .ok trivial
  | body frames => exact (Ends.mapM fun f _ => hb f).bind fun _ _ => .ok trivial
  | inverse => exact hi
  | keep name => exact (hb f).bind fun _ => .ok trivial
  | insert t => exact hp t

theorem invocationEffects_aborts (i : Invocation) {out : Plan → Except ThemeError Effects}
    {plan? : Except ThemeError Plan} (hplan : FailsWith ThemeError.IsInvocationFault plan?)
    (hout : ∀ plan, FailsWith ThemeError.IsAbort (out plan)) :
    FailsWith ThemeError.IsAbort (invocationEffects f i out plan?) := by
  cases plan? with
  | error e => exact faultEffects_aborts f i hplan
  | ok plan => exact hout plan

/-- Partials that are included fail only for their structure or their depth. -/
def PartialEffects.OnlyAbort (partials : PartialEffects) : Prop :=
  ∀ f t, FailsWith ThemeError.IsAbort (partials f t)

variable {partials : PartialEffects}

mutual

theorem nodeEffects_aborts (ha : partials.OnlyAbort) (f : Frame) :
    (node : Node) → FailsWith ThemeError.IsAbort (page.nodeEffects partials f node)
  | .text _ => .ok trivial
  | .expression i _ => by
    have hplans := page.planExpression_fails f i
    have hnone : FailsWith ThemeError.IsAbort (.ok Effects.empty) := .ok trivial
    rw [nodeEffects]
    refine invocationEffects_aborts f i hplans fun plan => ?_
    exact carryOut_aborts f (fun _ => hnone) hnone (ha f) plan
  | .block i body inverse => by
    have hplans := page.planBlock_fails f.enterBlock i
    have hinverse := inverseEffects_aborts ha f.enterBlock inverse
    rw [nodeEffects]
    refine invocationEffects_aborts f i hplans fun plan => ?_
    refine carryOut_aborts f.enterBlock (fun place => ?_) hinverse (ha f.enterBlock) plan
    exact nodesEffects_aborts ha place body

theorem inverseEffects_aborts (ha : partials.OnlyAbort) (f : Frame) :
    (inverse : Option (List Node)) →
    FailsWith ThemeError.IsAbort (page.inverseEffects partials f inverse)
  | none => .ok trivial
  | some nodes => nodesEffects_aborts ha f nodes

/-- Rendering nodes fails only as rendering partials may. -/
theorem nodesEffects_aborts (ha : partials.OnlyAbort) (f : Frame) :
    (nodes : List Node) → FailsWith ThemeError.IsAbort (page.nodesEffects partials f nodes)
  | [] => .ok trivial
  | node :: nodes => by
    have hfirst := nodeEffects_aborts ha f node
    have hrest := nodesEffects_aborts ha f nodes
    rw [nodesEffects]
    exact hfirst.bind fun _ => hrest.bind fun _ => .ok trivial

end

theorem partialEffects_aborts (levels : Nat) :
    PartialEffects.OnlyAbort (page.partialEffects levels) := by
  induction levels with
  | zero => exact fun f t => .error trivial
  | succ levels ih => exact fun f t => page.nodesEffects_aborts ih (f.enterPartial t.name) t.body

/-- The effects of nodes at any place. -/
theorem effects_aborts (nodes : List Node) : FailsWith ThemeError.IsAbort (page.effects f nodes) :=
  page.nodesEffects_aborts (page.partialEffects_aborts _) f nodes

end Page

end BlogTheme
