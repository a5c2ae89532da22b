import BlogTheme.Proofs.Render.Run
import BlogTheme.Proofs.Render.Transfer

/-!
# Reading changes nothing

At a place, evaluating an argument comes to its value there, or to its error, and
leaves the state as it is (`Page.evaluate_quiet`): a helper that is an argument of
another looks at its position before it would render anything, and there are no nodes
for it to render. The same holds of whatever readers do with their arguments
(`Page.call_related`).
-/

namespace BlogTheme

open Template (Argument Invocation)

namespace Rendering

/-- A result that leaves the state as it is. -/
def settled (y : Except ThemeError α) (st : RenderState) :
    EStateM.Result ThemeError RenderState α :=
  match y with
  | .ok a => .ok a st
  | .error e => .error e st

/-- At the place `f` the action comes to `y` and changes nothing. -/
def Quiet (f : Frame) (x : Rendering α) (y : Except ThemeError α) : Prop :=
  ∀ st : RenderState, st.toFrame = f → x.run st = settled y st

namespace Quiet

variable {f : Frame}

theorem pure (a : α) : Quiet f (pure a) (.ok a) := fun _ _ => rfl

theorem throw (e : ThemeError) : Quiet f (throw e : Rendering α) (.error e) := fun _ _ => rfl

theorem bind {x : Rendering α} {y : Except ThemeError α} {g : α → Rendering β}
    {h : α → Except ThemeError β} (hx : Quiet f x y) (hg : ∀ a, Quiet f (g a) (h a)) :
    Quiet f (x >>= g) (y >>= h) := by
  intro st hst
  cases y with
  | ok a => exact (run_bind_ok (hx st hst)).trans (hg a st hst)
  | error e => exact run_bind_error (hx st hst)

/-- An action that looks at the state first. -/
theorem get_bind {g : RenderState → Rendering α} {y : Except ThemeError α}
    (h : ∀ st, st.toFrame = f → Quiet f (g st) y) : Quiet f (get >>= g) y :=
  fun st hst => (run_get_bind g st).trans (h st hst st hst)

end Quiet

end Rendering

open Rendering (Quiet)

/-- Actions that come to a result at a place and change nothing. -/
def quiet (f : Frame) : Transfer Rendering (Except ThemeError) where
  Rel := Quiet f
  pure := .pure
  bind := .bind
  throw _ := .throw _

/-! ## Helpers as arguments -/

/-- A reader that is an argument only reads. -/
theorem Reader.run_argument (page : Page) (inclusion : Inclusion) (name : String) (r : Reader) :
    r.run page inclusion { name, position := .argument } = do
      return (← r.read page (← get).toFrame ({ name } : Call Rendering)).toValue := by
  have present : PlacedCall.present { name, position := .argument } = fun r => pure r.toValue := by
    funext reading
    cases reading <;> rfl
  cases r <;> simp only [Reader.run, present]

/-- A builder that is an argument refuses. -/
theorem Builder.run_argument (page : Page) (inclusion : Inclusion) (name : String) (b : Builder) :
    b.run page inclusion { name, position := .argument } = throw (b.misuse name) := by
  cases b <;> rfl

namespace Page

variable (page : Page) (inclusion : Inclusion) (f : Frame)

theorem evaluate_quiet (a : Argument) :
    Quiet f (page.evaluate inclusion a) (page.valueAt f a) := by
  cases a with
  | path p =>
    simp only [evaluate, valueAt]
    cases page.helpers.find? p with
    | none =>
      refine .get_bind fun st hst => ?_
      rw [hst]
      exact .pure _
    | some h =>
      cases h with
      | reader r =>
        have hc : Call.Related (quiet f) { name := p } ({ name := p } : ValuedCall) :=
          ⟨rfl, .nil, .nil⟩
        simp only [Helper.run]
        rw [Reader.run_argument]
        refine .get_bind fun st hst => ?_
        rw [hst]
        exact Quiet.bind (hc.read page f r) fun _ => .pure _
      | builder b =>
        simp only [Helper.run]
        rw [Builder.run_argument]
        exact .throw _
  | _ => exact .pure _

theorem give_related (a : Argument) :
    (page.give inclusion a).Related (quiet f) (page.givenAt f a) :=
  ⟨rfl, page.evaluate_quiet inclusion f a⟩

/-- The call of an invocation and its call at the place `f`. -/
theorem call_related (i : Invocation) :
    (page.call inclusion i).Related (quiet f) (page.callAt f i) where
  name := rfl
  params := by
    simp only [call, callAt, List.forall₂_map_left_iff, List.forall₂_map_right_iff]
    exact List.forall₂_same.2 fun a _ => page.give_related inclusion f a
  hash := by
    simp only [call, callAt, List.forall₂_map_left_iff, List.forall₂_map_right_iff]
    exact List.forall₂_same.2 fun a _ => ⟨rfl, page.give_related inclusion f a.2⟩

end Page

end BlogTheme
