import BlogTheme.Proofs.Render.Looping

/-!
# What expressions write

An expression for which a value is planned writes this value and leaves the state as it is
(`Page.run_render_write`); where its helper refuses its arguments it writes nothing and leaves one
diagnostic (`Page.run_render_refused`). What is planned comes from the values of the arguments,
which are asked for by their keys (`Page.Keyed`).
-/

namespace BlogTheme

open Template (Argument Invocation Node)

/-- The number that a value gives as a limit: none unless it is a number and not negative. -/
def Value.toCount? (v : Value) : Option Nat :=
  match v.toInt? with
  | some (.ofNat n) => some n
  | _ => none

theorem lookup_map_values (f : α → β) (entries : List (String × α)) (key : String) :
    (entries.map fun entry => (entry.1, f entry.2)).lookup key = (entries.lookup key).map f := by
  induction entries with
  | nil => rfl
  | cons entry entries ih =>
    rw [List.map_cons, List.lookup_cons, List.lookup_cons, ih]
    cases key == entry.1 <;> rfl

namespace Page

variable (page : Page)

/-- In the state `st` the argument with a key has this value, or there is no argument with the
key. -/
def Keyed (st : RenderState) (i : Invocation) (key : String) : Option Value → Prop
  | none => i.hash.lookup key = none
  | some v => ∃ a, i.hash.lookup key = some a ∧ page.Evaluates st a v

variable {page} {st : RenderState} {i : Invocation}

/-! ## Values of arguments -/

theorem lookup_callAt (f : Frame) (i : Invocation) (key : String) :
    (page.callAt f i).hash.lookup key = (i.hash.lookup key).map (page.givenAt f) :=
  lookup_map_values (page.givenAt f) i.hash key

theorem Keyed.keyed? {key : String} {v? : Option Value} (h : page.Keyed st i key v?) :
    (page.callAt st.toFrame i).keyed? key = .ok v? := by
  rw [Call.keyed?, lookup_callAt]
  cases v? with
  | none =>
    rw [show i.hash.lookup key = none from h]
    rfl
  | some v =>
    obtain ⟨a, ha, hv⟩ := h
    simp only [ha, Option.map_some, givenAt, hv.valueAt]
    rfl

theorem Keyed.text? {key : String} {v? : Option Value} (h : page.Keyed st i key v?) :
    (page.callAt st.toFrame i).text? key = .ok (v?.map Value.toText) := by
  rw [Call.text?, h.keyed?]
  rfl

theorem Keyed.flag {key : String} (h : page.Keyed st i key none) :
    (page.callAt st.toFrame i).flag key = .ok false := by
  rw [Call.flag, h.keyed?]
  rfl

theorem Keyed.count?_none {key : String} (h : page.Keyed st i key none) :
    (page.callAt st.toFrame i).count? key = .ok none := by
  rw [Call.count?, h.keyed?]
  rfl

theorem Keyed.count?_some {key : String} {v : Value} (h : page.Keyed st i key (some v)) :
    (page.callAt st.toFrame i).count? key =
      match v.toCount? with
      | some n => .ok (some n)
      | none => .error (.helperFailed i.name (key ++ "= expects a non-negative number")) := by
  rw [Call.count?, h.keyed?]
  simp only [bind, Except.bind, Value.toCount?]
  cases hn : v.toInt? with
  | none => rfl
  | some n => cases n <;> rfl

/-! ## Running an expression -/

/-- A planned value is written. -/
theorem run_render_write {v : Value} (h : page.planExpression st.toFrame i = .ok (.write v))
    (escaped : Bool) :
    (page.render [.expression i escaped]).run st = .ok (st.write escaped v) st := by
  refine run_render_text ?_
  rw [nodeEffects, h]
  rfl

/-- Where a helper refuses its arguments, that is recorded. -/
theorem run_render_refused {message : String}
    (h : page.planExpression st.toFrame i = .error (.helperFailed i.name message))
    (escaped : Bool) :
    (page.render [.expression i escaped]).run st = .ok "" (st.record
      { kind := .helperFailed
        template := st.template
        message := (ThemeError.helperFailed i.name message).message
        line := i.span.line }) := by
  rw [run_render_node (e := .ofDiagnostic _) (by rw [nodeEffects, h]; rfl)]
  simp [RenderState.after, RenderState.record, Effects.ofDiagnostic]

/-- What is planned for a reader. -/
theorem planExpression_reader {r : Reader} (hhelpers : page.helpers = .builtin)
    (hfind : Helpers.builtin.find? i.name = some (.reader r)) (f : Frame) :
    page.planExpression f i = page.planReader f (page.callAt f i) r := by
  rw [planExpression, hhelpers, hfind]

end Page

end BlogTheme
