import BlogTheme.Proofs.Render.Leaves

/-!
# Invocations do what is planned

`Invokes` says of an invocation that it either fails as its plan does, and then
before it has changed anything, or leaves what carrying out the plan leaves. It does so
in running text (`Page.invokeInline_invokes`) and with a body
(`Page.invokeBlock_invokes`): readers look at the place and at their arguments only,
before they decide about the body, and builders have their name or their items before
they render anything.
-/

namespace BlogTheme

open Template (Invocation)
open Rendering (Leaves Quiet Text Writes)

/-- The invocation `x` either fails at the place `f` as its plan does and changes
nothing, or leaves what is left by carrying out the plan. -/
def Invokes (f : Frame) (escaped : Bool) (out : Plan → Except ThemeError Effects)
    (x : Rendering Value) : Except ThemeError Plan → Prop
  | .error e => Quiet f x (.error e)
  | .ok plan => Leaves f x (out plan) (Writes f escaped)

namespace Invokes

variable {f : Frame} {escaped : Bool} {out : Plan → Except ThemeError Effects}

theorem of_run_eq {x x' : Rendering Value} {plan? : Except ThemeError Plan}
    (hrun : ∀ st, st.toFrame = f → x.run st = x'.run st) (h : Invokes f escaped out x' plan?) :
    Invokes f escaped out x plan? := by
  cases plan? with
  | error e => exact fun st hst => (hrun st hst).trans (h st hst)
  | ok plan =>
    intro st hst
    rw [hrun st hst]
    exact h st hst

theorem bind {x : Rendering α} {y : Except ThemeError α} {g : α → Rendering Value}
    {h : α → Except ThemeError Plan} (hx : Quiet f x y)
    (hg : ∀ a, Invokes f escaped out (g a) (h a)) :
    Invokes f escaped out (x >>= g) (y >>= h) := by
  cases y with
  | error e => exact fun st hst => Rendering.run_bind_error (hx st hst)
  | ok a => exact of_run_eq (fun st hst => Rendering.run_bind_ok (hx st hst)) (hg a)

theorem get_bind {g : RenderState → Rendering Value} {plan? : Except ThemeError Plan}
    (h : ∀ st, st.toFrame = f → Invokes f escaped out (g st) plan?) :
    Invokes f escaped out (get >>= g) plan? := by
  cases plan? with
  | error e => exact fun st hst => h st hst st hst
  | ok plan => exact fun st hst => h st hst st hst

theorem inBlock {x : Rendering Value} {plan? : Except ThemeError Plan}
    (h : Invokes f.enterBlock escaped out x plan?) :
    Invokes f escaped out (Rendering.inBlock x) plan? := by
  cases plan? with
  | error e =>
    intro st hst
    exact Rendering.run_around_error (h st.enterBlock (by rw [← hst]; rfl))
  | ok plan => exact Leaves.inBlock h

end Invokes

/-! ## Carrying out plans -/

/-- Markup is written as it is. -/
theorem Frame.write_markup (f : Frame) (escaped : Bool) (s : String) :
    f.write escaped (.markup s) = s := by
  simp [write, Value.isMarkup, Value.toText]

/-- Nothing is written as nothing. -/
theorem Frame.write_absent (f : Frame) (escaped : Bool) : f.write escaped .absent = "" := by
  simp [write, Value.isMarkup, Value.toText, Html.escape]

/-- An action of which the text is markup. -/
theorem Rendering.Leaves.markup {f : Frame} {escaped : Bool} {x : Rendering String}
    {y : Except ThemeError Effects} (hx : Leaves f x y Text) :
    Leaves f (markup x) y (Writes f escaped) :=
  hx.map Value.markup fun text _ h => (f.write_markup escaped text).trans h

section

variable {f : Frame} {escaped : Bool} {body : Frame → Except ThemeError Effects}
  {inverse : Except ThemeError Effects} {partials : Template → Except ThemeError Effects}

/-- A body that is rendered once. -/
theorem Plan.carryOut_body (place : Frame) :
    (Plan.body [place]).carryOut f escaped body inverse partials = body place := by
  simp only [carryOut, List.mapM_cons, List.mapM_nil]
  cases body place with
  | error e => rfl
  | ok e => simp [bind, Except.bind, pure, Except.pure]

namespace Invokes

/-- A value that is written. -/
theorem write (v : Value) :
    Invokes f escaped (Plan.carryOut f escaped body inverse partials) (pure v) (.ok (.write v)) :=
  Leaves.pure rfl rfl rfl

/-- An action that only comes to a value, which is then written. -/
theorem value {x : Rendering Value} {y : Except ThemeError Value} (hx : Quiet f x y) :
    Invokes f escaped (Plan.carryOut f escaped body inverse partials) x
      (do return .write (← y)) := by
  cases y with
  | error e => exact hx
  | ok v => exact of_run_eq hx (write v)

/-- An action that leaves what the body leaves at one place. -/
theorem once {place : Frame} {x : Rendering Value}
    (hx : Leaves f x (body place) (Writes f escaped)) :
    Invokes f escaped (Plan.carryOut f escaped body inverse partials) x (.ok (.body [place])) := by
  show Leaves f x ((Plan.body [place]).carryOut f escaped body inverse partials) (Writes f escaped)
  rw [Plan.carryOut_body]
  exact hx

end Invokes

end

/-- A place at which the body of a call at the place `f` may be rendered: scopes may have
been opened and escaping switched off, but all else is the same. -/
def Frame.Surrounds (f place : Frame) : Prop :=
  ∃ scopes raw, place = { f with scopes, raw }

namespace Frame.Surrounds

theorem refl (f : Frame) : f.Surrounds f := ⟨_, _, rfl⟩

theorem enterScope (f : Frame) (s : Scope) : f.Surrounds (f.enterScope s) := ⟨_, _, rfl⟩

theorem unescaped (f : Frame) : f.Surrounds f.unescaped := ⟨_, _, rfl⟩

end Frame.Surrounds

/-- At the place `f` a call has arguments with these values, and its body and inverse
have these effects. -/
structure PlacedCall.Means (f : Frame) (c : PlacedCall) (valued : ValuedCall)
    (body : Frame → Except ThemeError Effects) (inverse : Except ThemeError Effects) : Prop where
  call : c.toCall.Related (quiet f) valued
  body : ∀ place, f.Surrounds place → Leaves place c.body (body place) Text
  inverse : Leaves f c.inverse inverse Text

/-- At the place `f` partials have these effects. -/
def Inclusion.Means (f : Frame) (inclusion : Inclusion)
    (partials : Template → Except ThemeError Effects) : Prop :=
  ∀ t, Leaves f (inclusion t) (partials t) Text

namespace PlacedCall.Means

variable {f : Frame} {escaped : Bool} {c : PlacedCall} {valued : ValuedCall}
  {body : Frame → Except ThemeError Effects} {inverse : Except ThemeError Effects}
  {partials : Template → Except ThemeError Effects}

variable (hc : c.Means f valued body inverse)
include hc

theorem branch (b : Bool) :
    Invokes f escaped (Plan.carryOut f escaped body inverse partials) (c.branch b)
      (.ok (if b then .body [f] else .inverse)) := by
  cases b with
  | true => exact .once (hc.body f (.refl f)).markup
  | false => exact hc.inverse.markup

theorem about (subject : Value) :
    Invokes f escaped (Plan.carryOut f escaped body inverse partials) (c.about subject)
      (Page.planEntity f valued subject) := by
  unfold PlacedCall.about Page.planEntity
  split
  · exact hc.inverse.markup
  · refine .bind hc.call.givens fun hash => .once ?_
    have hbody := hc.body _ (.enterScope f { subject, hash })
    exact hbody.inScope.markup

theorem each (items : List Value) :
    Invokes f escaped (Plan.carryOut f escaped body inverse partials) (c.each items)
      (Page.planItems f valued items) := by
  refine .bind (hc.call.limited items) fun items => ?_
  split
  · exact hc.inverse.markup
  · refine .bind hc.call.givens fun hash => ?_
    have hbody (s : Scope) := hc.body _ (.enterScope f s)
    refine (Leaves.repeated hbody (Scope.loop hash items)).map _ fun texts e htexts => ?_
    show f.write escaped (.markup (String.join texts)) = e.html
    rw [f.write_markup, htexts]

theorem present (hpos : c.position = .block) (r : Reading) :
    Invokes f escaped (Plan.carryOut f escaped body inverse partials)
      (c.present r) (Page.planReading f valued r) := by
  cases r with
  | value v => exact .write v
  | flag b =>
    simp only [PlacedCall.present, if_pos hpos]
    exact hc.branch b
  | entity v =>
    simp only [PlacedCall.present, if_pos hpos]
    exact hc.about v
  | list v =>
    simp only [PlacedCall.present, if_pos hpos]
    exact hc.each _

omit hc in
theorem present_inline (hpos : c.position = .inline) (r : Reading) :
    Invokes f escaped (Plan.carryOut f escaped body inverse partials)
      (c.present r) (.ok (.write r.toValue)) := by
  have hne : c.position ≠ .block := by rw [hpos]; exact nofun
  have hpresent : c.present r = pure r.toValue := by
    cases r <;> simp only [PlacedCall.present, if_neg hne] <;> rfl
  rw [hpresent]
  exact .write r.toValue

end PlacedCall.Means

/-- The effects of an action are kept instead of written. -/
theorem Rendering.Leaves.keep {f : Frame} {escaped : Bool} {x : Rendering String}
    {y : Except ThemeError Effects} (hx : Leaves f x y Text) (name : String) :
    Leaves f
      (do
        let content ← x
        modify (·.keep name content)
        return .absent)
      (do return (← y).keep name) (Writes f escaped) := by
  intro st hst
  have hx := hx st hst
  cases y with
  | error err =>
    obtain ⟨e, hrun⟩ := hx
    exact ⟨e, run_bind_error hrun⟩
  | ok e =>
    obtain ⟨text, hrun, htext⟩ := hx
    refine ⟨.absent, ?_, f.write_absent escaped⟩
    rw [run_bind_ok hrun, htext]
    show EStateM.Result.ok _ _ = EStateM.Result.ok _ _
    simp [RenderState.keep, RenderState.after, Effects.keep]

/-! ## Helpers -/

/-- With a body all readers but one read before they decide about it. -/
theorem Reader.run_block {page : Page} {inclusion : Inclusion} {c : PlacedCall}
    (hpos : c.position = .block) {r : Reader} (hr : r ≠ .unescaped) :
    r.run page inclusion c = (do c.present (← r.read page (← get).toFrame c.toCall)) := by
  cases r <;> first | exact absurd rfl hr | simp only [Reader.run, hpos]

theorem Page.planReaderBlock_eq {page : Page} {f : Frame} {c : ValuedCall} {r : Reader}
    (hr : r ≠ .unescaped) :
    page.planReaderBlock f c r = (do planReading f c (← r.read page f c)) := by
  cases r <;> first | exact absurd rfl hr | rfl

section

variable {page : Page} {inclusion : Inclusion} {partials : Template → Except ThemeError Effects}
  {f : Frame} {escaped : Bool} {c : PlacedCall} {valued : ValuedCall}
  {body : Frame → Except ThemeError Effects} {inverse : Except ThemeError Effects}
  (hc : c.Means f valued body inverse) (hp : inclusion.Means f partials)
include hc hp

omit hc in
theorem includePartial_invokes (name : String) :
    Invokes f escaped (Plan.carryOut f escaped body inverse partials)
      (includePartial page inclusion name) (page.planPartial name) := by
  unfold includePartial Page.planPartial
  cases page.theme.findPartial? name with
  | none => exact Quiet.throw _
  | some t => exact (hp t).markup

omit hp in
theorem Reader.run_block_invokes (hpos : c.position = .block) (r : Reader) :
    Invokes f escaped (Plan.carryOut f escaped body inverse partials)
      (r.run page inclusion c) (page.planReaderBlock f valued r) := by
  -- Only this reader renders its body before it has read anything.
  by_cases hr : r = .unescaped
  · subst hr
    refine .get_bind fun st hst => ?_
    simp only [hpos]
    exact .once (hc.body _ (.unescaped f)).unescaped.markup
  · rw [Reader.run_block hpos hr, Page.planReaderBlock_eq hr]
    refine .get_bind fun st hst => ?_
    rw [hst]
    exact .bind (hc.call.read page f r) fun reading => hc.present hpos reading

theorem Builder.run_block_invokes (hpos : c.position = .block) (b : Builder) :
    Invokes f escaped (Plan.carryOut f escaped body inverse partials)
      (b.run page inclusion c) (page.planBuilderBlock f valued b) := by
  cases b with
  | forEach =>
    simp only [Builder.run, hpos]
    exact .bind hc.call.loopItems fun items => hc.each items
  | contentFor =>
    simp only [Builder.run, hpos]
    refine .bind hc.call.nameArgument fun name => ?_
    show Leaves f _ (do return (← body f).keep name) _
    exact (hc.body f (.refl f)).keep name
  | block =>
    refine .bind hc.call.nameArgument fun name => ?_
    refine .get_bind fun st hst => ?_
    rw [hst]
    cases f.slots.lookup name with
    | some content => exact .write (.markup content)
    | none => exact .once (hc.body f (.refl f)).markup
  | partialOf =>
    exact .bind hc.call.nameArgument fun name => includePartial_invokes hp name

theorem Reader.run_inline_invokes (hpos : c.position = .inline) (r : Reader) :
    Invokes f escaped (Plan.carryOut f escaped body inverse partials)
      (r.run page inclusion c) (page.planReader f valued r) := by
  cases r with
  | postTags =>
    refine .get_bind fun st hst => ?_
    simp only [hpos, hst]
    exact .value (hc.call.tagLine _)
  | navigation =>
    refine .get_bind fun st hst => ?_
    simp only [hpos, Page.planReader]
    split
    · exact .write .absent
    · cases page.theme.findPartial? "navigation" with
      | some t => exact (hp t).markup
      | none => exact .write _
  | pagination =>
    refine .get_bind fun st hst => ?_
    simp only [hpos, Page.planReader]
    cases page.theme.findPartial? "pagination" with
    | some t => exact (hp t).markup
    | none => exact .write _
  | _ =>
    refine .get_bind fun st hst => ?_
    simp only [hpos, hst]
    exact .bind (hc.call.read page f _) fun reading => PlacedCall.Means.present_inline hpos reading

omit hc in
theorem Builder.run_inline_invokes (hc : c.Means f valued (fun _ => .ok .empty) (.ok .empty))
    (hpos : c.position = .inline) (b : Builder) :
    Invokes f escaped
      (Plan.carryOut f escaped (fun _ => .ok .empty) (.ok .empty) partials)
      (b.run page inclusion c) (page.planBuilder f valued b) := by
  cases b with
  | forEach =>
    simp only [Builder.run, hpos]
    exact hc.call.refusal _
  | contentFor =>
    simp only [Builder.run, hpos]
    exact hc.call.refusal _
  | block =>
    refine .bind hc.call.nameArgument fun name => ?_
    refine .get_bind fun st hst => ?_
    rw [hst]
    cases f.slots.lookup name with
    | some content => exact .write (.markup content)
    | none =>
      -- No body leaves nothing, which is how nothing is written.
      have hnone : Effects.ofHtml (f.write escaped (.markup "")) = .empty := by
        rw [f.write_markup]
        rfl
      show Leaves f _ (.ok (Effects.ofHtml (f.write escaped (.markup "")))) (Writes f escaped)
      rw [hnone]
      exact (hc.body f (.refl f)).markup
  | partialOf =>
    exact .bind hc.call.nameArgument fun name => includePartial_invokes hp name

end

namespace Page

variable {page : Page} {inclusion : Inclusion} {partials : Template → Except ThemeError Effects}
  {f : Frame} (hp : inclusion.Means f partials)
include hp

/-- An invocation in running text does what is planned for it. -/
theorem invoke_expression {escaped : Bool} {c : PlacedCall} {i : Invocation}
    (hc : c.Means f (page.callAt f i) (fun _ => .ok .empty) (.ok .empty))
    (hpos : c.position = .inline) :
    Invokes f escaped (Plan.carryOut f escaped (fun _ => .ok .empty) (.ok .empty) partials)
      (page.invoke inclusion c) (page.planExpression f i) := by
  have hname : c.name = i.name := hc.call.name
  have hparams : c.params.isEmpty = i.params.isEmpty := by
    rw [hc.call.isEmpty_params, callAt, List.isEmpty_map]
  have hhash : c.hash.isEmpty = i.hash.isEmpty := by
    rw [hc.call.isEmpty_hash, callAt, List.isEmpty_map]
  unfold invoke planExpression
  rw [hname]
  cases page.helpers.find? i.name with
  | some h =>
    cases h with
    | reader r => exact Reader.run_inline_invokes hc hp hpos r
    | builder b => exact Builder.run_inline_invokes hp hc hpos b
  | none =>
    have hne : decide (c.position = .block) = false := by rw [hpos]; rfl
    simp only [hne, hparams, hhash, Bool.false_or]
    split
    · exact Quiet.throw _
    · refine .get_bind fun st hst => ?_
      rw [hst]
      split
      · exact Quiet.throw _
      · exact .write _

/-- An invocation with a body does what is planned for it. -/
theorem invoke_block {escaped : Bool} {c : PlacedCall} {i : Invocation}
    {body : Frame → Except ThemeError Effects} {inverse : Except ThemeError Effects}
    (hc : c.Means f (page.callAt f i) body inverse) (hpos : c.position = .block) :
    Invokes f escaped (Plan.carryOut f escaped body inverse partials)
      (page.invoke inclusion c) (page.planBlock f i) := by
  have hname : c.name = i.name := hc.call.name
  unfold invoke planBlock
  rw [hname]
  cases page.helpers.find? i.name with
  | some h =>
    cases h with
    | reader r => exact Reader.run_block_invokes hc hpos r
    | builder b => exact Builder.run_block_invokes hc hp hpos b
  | none =>
    simp only [hpos, decide_true, Bool.true_or, if_true]
    exact Quiet.throw _

omit hp

variable (page)

/-- An expression does what is planned for it. -/
theorem invokeInline_invokes (hp : inclusion.Means f partials) (i : Invocation) (escaped : Bool) :
    Invokes f escaped (Plan.carryOut f escaped (fun _ => .ok .empty) (.ok .empty) partials)
      (page.invokeInline inclusion i) (page.planExpression f i) :=
  invoke_expression hp
    ⟨page.call_related inclusion f i, fun _ _ => .pure rfl rfl rfl, .pure rfl rfl rfl⟩ rfl

/-- A block does what is planned for it. -/
theorem invokeBlock_invokes (hp : inclusion.Means f.enterBlock partials) (i : Invocation)
    {body inverse : Rendering String} {bodyEffects : Frame → Except ThemeError Effects}
    {inverseEffects : Except ThemeError Effects}
    (hbody : ∀ place, f.enterBlock.Surrounds place → Leaves place body (bodyEffects place) Text)
    (hinverse : Leaves f.enterBlock inverse inverseEffects Text) :
    Invokes f true (Plan.carryOut f.enterBlock true bodyEffects inverseEffects partials)
      (page.invokeBlock inclusion i body inverse) (page.planBlock f.enterBlock i) :=
  .inBlock <| invoke_block hp ⟨page.call_related inclusion _ i, hbody, hinverse⟩ rfl

end Page

end BlogTheme
