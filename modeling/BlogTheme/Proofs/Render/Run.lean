import BlogTheme.Render.State

/-!
# Running actions

What sequences, recoveries and brackets come to when their parts are known to
come to something. The state is carried on also when an action fails.
-/

namespace BlogTheme.Rendering

/-- What an action comes to from a state: its result and the state after it, or an
error. -/
def outcome (x : Rendering α) (st : RenderState) : Except ThemeError (α × RenderState) :=
  match x.run st with
  | .ok a st' => .ok (a, st')
  | .error e _ => .error e

/-- Actions in sequence come to the same if the first do, and the second from where these
succeed. -/
theorem outcome_bind_congr {x x' : Rendering α} {g g' : α → Rendering β} {st : RenderState}
    (hx : x.outcome st = x'.outcome st)
    (hg : ∀ a st', x'.run st = .ok a st' → (g a).outcome st' = (g' a).outcome st') :
    (x >>= g).outcome st = (x' >>= g').outcome st := by
  unfold outcome at hx hg ⊢
  rw [EStateM.run_bind, EStateM.run_bind]
  cases hrun : x.run st <;> cases hrun' : x'.run st <;> rw [hrun, hrun'] at hx <;> cases hx
  · exact hg _ _ hrun'
  · rfl

theorem run_bind_ok {x : Rendering α} {g : α → Rendering β} {a : α} {st st' : RenderState}
    (h : x.run st = .ok a st') : (x >>= g).run st = (g a).run st' := by
  rw [EStateM.run_bind, h]

theorem run_bind_error {x : Rendering α} {g : α → Rendering β} {e : ThemeError}
    {st st' : RenderState} (h : x.run st = .error e st') : (x >>= g).run st = .error e st' := by
  rw [EStateM.run_bind, h]

theorem run_bind_congr {x x' : Rendering α} {st : RenderState} (h : x.run st = x'.run st)
    (g : α → Rendering β) : (x >>= g).run st = (x' >>= g).run st := by
  rw [EStateM.run_bind, EStateM.run_bind, h]

theorem run_get_bind (g : RenderState → Rendering α) (st : RenderState) :
    (get >>= g).run st = (g st).run st := rfl

theorem run_modify_bind (change : RenderState → RenderState) (x : Unit → Rendering α)
    (st : RenderState) : (modify change >>= x).run st = (x ()).run (change st) := rfl

/-! Only what an action comes to from one state matters for what is made of it there, so it
can be replaced by that result before the bracket around it is run. -/

theorem run_tryCatch_ok {x : Rendering α} {h : ThemeError → Rendering α} {a : α}
    {st st' : RenderState} (hx : x.run st = .ok a st') : (tryCatch x h).run st = .ok a st' := by
  show (tryCatch (fun _ => x.run st) h : Rendering α) st = _
  rw [hx]
  rfl

theorem run_tryCatch_error {x : Rendering α} {h : ThemeError → Rendering α} {e : ThemeError}
    {st st' : RenderState} (hx : x.run st = .error e st') :
    (tryCatch x h).run st = (h e).run st' := by
  show (tryCatch (fun _ => x.run st) h : Rendering α) st = _
  rw [hx]
  rfl

theorem run_tryCatch_congr {x x' : Rendering α} {st : RenderState} (h : x.run st = x'.run st)
    (recover : ThemeError → Rendering α) :
    (tryCatch x recover).run st = (tryCatch x' recover).run st := by
  cases hrun : x'.run st with
  | ok a st' => rw [run_tryCatch_ok hrun, run_tryCatch_ok (h.trans hrun)]
  | error e st' => rw [run_tryCatch_error hrun, run_tryCatch_error (h.trans hrun)]

section

variable {enter leave : RenderState → RenderState} {x : Rendering α} {st st' : RenderState}

/-- The second change is made to the state in which the action ends. -/
theorem run_around_ok {a : α} (hx : x.run (enter st) = .ok a st') :
    (around enter leave x).run st = .ok a (leave st') := by
  show (around enter leave fun _ => x.run (enter st)) st = _
  rw [hx]
  rfl

/-- The second change is made also when the action fails. -/
theorem run_around_error {e : ThemeError} (hx : x.run (enter st) = .error e st') :
    (around enter leave x).run st = .error e (leave st') := by
  show (around enter leave fun _ => x.run (enter st)) st = _
  rw [hx]
  rfl

theorem run_around_congr {x' : Rendering α} (h : x.run (enter st) = x'.run (enter st)) :
    (around enter leave x).run st = (around enter leave x').run st := by
  cases hrun : x'.run (enter st) with
  | ok a st' => rw [run_around_ok hrun, run_around_ok (h.trans hrun)]
  | error e st' => rw [run_around_error hrun, run_around_error (h.trans hrun)]

end

end BlogTheme.Rendering
