import BlogTheme.Proofs.Render.Quiet

/-!
# What actions leave behind

`Leaves f x y P` says that the action `x` comes back to the place `f` where it
began, having left behind the effects `y` and nothing else, and that `P` relates its
result to them. If `x` fails, it still comes back to that place.

Quiet actions leave nothing behind, actions in sequence leave what each of them
leaves (`Leaves.bind`), and an action in a scope, in a block, in a partial or without
escaping leaves outside what it leaves inside (`Leaves.around`).
-/

namespace BlogTheme

namespace RenderState

/-- The state with effects added to it. -/
def after (st : RenderState) (e : Effects) : RenderState :=
  { st with diagnostics := st.diagnostics ++ e.diagnostics, kept := e.kept.reverse ++ st.kept }

@[simp] theorem toFrame_after (st : RenderState) (e : Effects) :
    (st.after e).toFrame = st.toFrame := rfl

@[simp] theorem diagnostics_after (st : RenderState) (e : Effects) :
    (st.after e).diagnostics = st.diagnostics ++ e.diagnostics := rfl

@[simp] theorem kept_after (st : RenderState) (e : Effects) :
    (st.after e).kept = e.kept.reverse ++ st.kept := rfl

@[simp] theorem after_empty (st : RenderState) : st.after .empty = st := by
  simp [after, Effects.empty]

theorem after_append (st : RenderState) (a b : Effects) :
    st.after (a ++ b) = (st.after a).after b := by
  simp [after, List.append_assoc]

end RenderState

namespace Rendering

/-- The state in which an action ends, also when it fails. -/
def finalState (x : Rendering α) (st : RenderState) : RenderState :=
  match x.run st with
  | .ok _ st' => st'
  | .error _ st' => st'

/-- The action does not fail from a state. -/
def Succeeds (x : Rendering α) (st : RenderState) : Prop :=
  ∃ a st', x.run st = .ok a st'

/-- At the place `f` the action leaves the effects `y`, or fails as `y` does, and
then with whatever effects it had until then. Its result satisfies `P`. -/
def Leaves (f : Frame) (x : Rendering α) (y : Except ThemeError Effects)
    (P : α → Effects → Prop) : Prop :=
  ∀ st : RenderState, st.toFrame = f → match y with
    | .ok e => ∃ a, x.run st = .ok a (st.after e) ∧ P a e
    | .error err => ∃ e, x.run st = .error err (st.after e)

/-- The result is the text of the effects. -/
def Text (text : String) (e : Effects) : Prop :=
  text = e.html

/-- Written at the place `f`, the result is the text of the effects. -/
def Writes (f : Frame) (escaped : Bool) (v : Value) (e : Effects) : Prop :=
  f.write escaped v = e.html

namespace Leaves

variable {f : Frame} {P : α → Effects → Prop}

theorem pure {a : α} {e : Effects} (hd : e.diagnostics = []) (hk : e.kept = []) (h : P a e) :
    Leaves f (pure a) (.ok e) P := by
  intro st _
  have hst : st.after e = st := by simp [RenderState.after, hd, hk]
  exact ⟨a, by rw [hst]; rfl, h⟩

theorem throw (err : ThemeError) : Leaves f (throw err : Rendering α) (.error err) P :=
  fun st _ => ⟨.empty, by rw [st.after_empty]; rfl⟩

theorem bind {x : Rendering α} {y : Except ThemeError Effects} {g : α → Rendering β}
    {z : Except ThemeError Effects} {Q : α → β → Effects → Prop} {R : β → Effects → Prop}
    (hx : Leaves f x y P) (hg : ∀ a, Leaves f (g a) z (Q a))
    (hR : ∀ a e b e', P a e → Q a b e' → R b (e ++ e')) :
    Leaves f (x >>= g) (do return (← y) ++ (← z)) R := by
  intro st hst
  have hx := hx st hst
  cases y with
  | error err =>
    obtain ⟨e, hrun⟩ := hx
    exact ⟨e, run_bind_error hrun⟩
  | ok e =>
    obtain ⟨a, hrun, hP⟩ := hx
    have hg := hg a (st.after e) hst
    cases z with
    | error err =>
      obtain ⟨e', hrun'⟩ := hg
      exact ⟨e ++ e', by rw [run_bind_ok hrun, hrun', st.after_append]⟩
    | ok e' =>
      obtain ⟨b, hrun', hQ⟩ := hg
      exact ⟨b, by rw [run_bind_ok hrun, hrun', st.after_append], hR a e b e' hP hQ⟩

/-- The result changed by a function that changes the text of the effects at
most. -/
theorem map {x : Rendering α} {y : Except ThemeError Effects} {R : β → Effects → Prop}
    (hx : Leaves f x y P) (g : α → β) (h : ∀ a e, P a e → R (g a) e) :
    Leaves f (do return g (← x)) y R := by
  intro st hst
  have hx := hx st hst
  cases y with
  | error err =>
    obtain ⟨e, hrun⟩ := hx
    exact ⟨e, run_bind_error hrun⟩
  | ok e =>
    obtain ⟨a, hrun, hP⟩ := hx
    exact ⟨g a, run_bind_ok hrun, h a e hP⟩

/-- An action that looks at the state first. -/
theorem get_bind {g : RenderState → Rendering α} {y : Except ThemeError Effects}
    (h : ∀ st, st.toFrame = f → Leaves f (g st) y P) : Leaves f (get >>= g) y P :=
  fun st hst => h st hst st hst

/-- An action that comes after one that does nothing at the place. -/
theorem after_idle {x : Rendering Unit} {g : Unit → Rendering α} {y : Except ThemeError Effects}
    (hx : ∀ st, st.toFrame = f → x.run st = .ok () st) (hg : Leaves f (g ()) y P) :
    Leaves f (x >>= g) y P := by
  intro st hst
  rw [run_bind_ok (hx st hst)]
  exact hg st hst

/-- An action between two changes, of which the second takes back the first. -/
theorem around {f' : Frame} {enter leave : RenderState → RenderState} {x : Rendering α}
    {y : Except ThemeError Effects}
    (hx : Leaves f' x y P) (henter : ∀ st, st.toFrame = f → (enter st).toFrame = f')
    (hleave : ∀ st e, st.toFrame = f → leave ((enter st).after e) = st.after e) :
    Leaves f (Rendering.around enter leave x) y P := by
  intro st hst
  have hx := hx (enter st) (henter st hst)
  cases y with
  | error err =>
    obtain ⟨e, hrun⟩ := hx
    exact ⟨e, by rw [run_around_error hrun, hleave st e hst]⟩
  | ok e =>
    obtain ⟨a, hrun, hP⟩ := hx
    exact ⟨a, by rw [run_around_ok hrun, hleave st e hst], hP⟩

theorem inBlock {x : Rendering α} {y : Except ThemeError Effects}
    (hx : Leaves f.enterBlock x y P) : Leaves f (inBlock x) y P :=
  hx.around (fun _ hst => by rw [← hst]; rfl) fun _ _ _ => rfl

theorem inScope {s : Scope} {x : Rendering α} {y : Except ThemeError Effects}
    (hx : Leaves (f.enterScope s) x y P) : Leaves f (inScope s x) y P :=
  hx.around (fun _ hst => by rw [← hst]; rfl) fun _ _ _ => rfl

theorem unescaped {x : Rendering α} {y : Except ThemeError Effects}
    (hx : Leaves f.unescaped x y P) : Leaves f (unescaped x) y P := by
  refine get_bind fun st hst => hx.around (fun _ hst => by rw [← hst]; rfl) fun st' e hst' => ?_
  -- What is put back was read at the same place.
  have hraw : st.raw = st'.raw := congrArg Frame.raw (hst.trans hst'.symm)
  rw [hraw]
  rfl

theorem inPartial {name : String} {x : Rendering α} {y : Except ThemeError Effects}
    (hx : Leaves (f.enterPartial name) x y P) : Leaves f (inPartial name x) y P := by
  refine get_bind fun st hst => hx.around (fun _ hst => by rw [← hst]; rfl) fun st' e hst' => ?_
  have htemplate : st.template = st'.template := congrArg Frame.template (hst.trans hst'.symm)
  have hblocks : st.blocks = st'.blocks := congrArg Frame.blocks (hst.trans hst'.symm)
  rw [htemplate, hblocks]
  rfl

/-- An action repeated in several scopes leaves what it leaves in each of them. -/
theorem repeated {x : Rendering String} {body : Frame → Except ThemeError Effects}
    (hx : ∀ s, Leaves (f.enterScope s) x (body (f.enterScope s)) Text) : ∀ scopes : List Scope,
    Leaves f (scopes.mapM fun s => Rendering.inScope s x)
      (do return .concat (← (scopes.map f.enterScope).mapM body))
      (fun texts e => String.join texts = e.html)
  | [] => pure rfl rfl rfl
  | s :: scopes => by
    have hrest (text : String) : Leaves f
        (do return text :: (← scopes.mapM fun s => Rendering.inScope s x))
        (do return .concat (← (scopes.map f.enterScope).mapM body))
        (fun texts e => String.join texts = text ++ e.html) :=
      (repeated hx scopes).map (text :: ·) fun texts e h => by rw [String.join_cons, h]
    have hboth := (inScope (hx s)).bind hrest
      (R := fun texts e => String.join texts = e.html) fun text e texts e' h h' => by
        rw [h', h, Effects.html_append]
    rw [List.mapM_cons, List.map_cons, List.mapM_cons]
    simpa only [bind_assoc, pure_bind, Effects.concat_cons] using hboth

/-! ### What runs come to -/

section

variable {x : Rendering α} {y : Except ThemeError Effects} {st st' : RenderState}
  (h : Leaves st.toFrame x y P)
include h

/-- An action that has succeeded has left the effects. -/
theorem of_run_ok {a : α} (hrun : x.run st = .ok a st') :
    ∃ e, y = .ok e ∧ P a e ∧ st' = st.after e := by
  have h := h st rfl
  cases y with
  | ok e =>
    obtain ⟨a', hrun', ha⟩ := h
    rw [hrun] at hrun'
    cases hrun'
    exact ⟨e, rfl, ha, rfl⟩
  | error err =>
    obtain ⟨e, hrun'⟩ := h
    rw [hrun] at hrun'
    cases hrun'

/-- An action that has failed has done so as it should. -/
theorem of_run_error {err : ThemeError} (hrun : x.run st = .error err st') :
    y = .error err ∧ ∃ e, st' = st.after e := by
  have h := h st rfl
  cases y with
  | ok e =>
    obtain ⟨a, hrun', -⟩ := h
    rw [hrun] at hrun'
    cases hrun'
  | error err' =>
    obtain ⟨e, hrun'⟩ := h
    rw [hrun] at hrun'
    cases hrun'
    exact ⟨rfl, e, rfl⟩

/-- However an action ends, it has added effects to the state in which it began. -/
theorem finalState_eq : ∃ e, finalState x st = st.after e := by
  unfold finalState
  cases hrun : x.run st with
  | ok a st' =>
    obtain ⟨e, -, -, hst'⟩ := of_run_ok h hrun
    exact ⟨e, hst'⟩
  | error err st' =>
    obtain ⟨-, e, hst'⟩ := of_run_error h hrun
    exact ⟨e, hst'⟩

theorem succeeds_iff : x.Succeeds st ↔ ∃ e, y = .ok e := by
  constructor
  · rintro ⟨a, st', hrun⟩
    obtain ⟨e, he, -⟩ := of_run_ok h hrun
    exact ⟨e, he⟩
  · rintro ⟨e, rfl⟩
    obtain ⟨a, hrun, -⟩ := h st rfl
    exact ⟨a, st.after e, hrun⟩

end

end Leaves

end Rendering

end BlogTheme
