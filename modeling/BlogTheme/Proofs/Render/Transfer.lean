import BlogTheme.Render.Meaning
import Mathlib.Data.List.Forall2

/-!
# Reading in any monad

Readers are written for every monad that has errors. A `Transfer` is a relation
between the computations of two monads that holds of equal results and of equal
refusals and is kept by sequencing; whatever readers find in the one monad is then
related to what they find in the other, once the values of the arguments are
(`Call.Related.read`). Used with the monad of rendering it says that reading
changes no state, used with `Except` alone that it fails with refusals only.
-/

namespace BlogTheme

/-- Errors of a helper that refuses its arguments or its place. -/
def ThemeError.IsRefusal : ThemeError → Prop
  | .helperFailed _ _ => True
  | .structural _ _ => True
  | _ => False

/-- A relation between computations of two monads that reading respects. -/
structure Transfer (m n : Type → Type) [Monad m] [MonadExcept ThemeError m] [Monad n]
    [MonadExcept ThemeError n] where
  Rel : {α : Type} → m α → n α → Prop
  pure {α : Type} (a : α) : Rel (pure a) (pure a)
  bind {α β : Type} {x : m α} {y : n α} {g : α → m β} {h : α → n β} :
    Rel x y → (∀ a, Rel (g a) (h a)) → Rel (x >>= g) (y >>= h)
  throw {α : Type} {e : ThemeError} : e.IsRefusal → Rel (α := α) (throw e) (throw e)

variable {m n : Type → Type} [Monad m] [MonadExcept ThemeError m] [Monad n]
  [MonadExcept ThemeError n]

/-- The same argument, with related values. -/
structure Given.Related (T : Transfer m n) (g : Given m) (g' : Given n) : Prop where
  written : g.written = g'.written
  value : T.Rel g.value g'.value

/-- The same call, with related values of its arguments. -/
structure Call.Related (T : Transfer m n) (c : Call m) (c' : Call n) : Prop where
  name : c.name = c'.name
  params : List.Forall₂ (Given.Related T) c.params c'.params
  hash : List.Forall₂ (fun a b => a.1 = b.1 ∧ Given.Related T a.2 b.2) c.hash c'.hash

namespace Call.Related

variable {T : Transfer m n} {c : Call m} {c' : Call n} (hc : c.Related T c')
include hc

theorem refuse (message : String) : c.refuse message = c'.refuse message := by
  simp only [Call.refuse, hc.name]

theorem refusal {α : Type} (message : String) :
    T.Rel (α := α) (throw (c.refuse message)) (throw (c'.refuse message)) := by
  rw [hc.refuse]
  exact T.throw trivial

theorem isEmpty_params : c.params.isEmpty = c'.params.isEmpty := by
  have hp := hc.params
  generalize c.params = ps at hp ⊢
  generalize c'.params = ps' at hp ⊢
  cases hp <;> rfl

theorem isEmpty_hash : c.hash.isEmpty = c'.hash.isEmpty := by
  have hh := hc.hash
  generalize c.hash = hs at hh ⊢
  generalize c'.hash = hs' at hh ⊢
  cases hh <;> rfl

theorem first : T.Rel c.first c'.first := by
  have hp := hc.params
  unfold Call.first
  generalize c.params = ps at hp ⊢
  generalize c'.params = ps' at hp ⊢
  cases hp with
  | nil => exact T.pure _
  | cons hg _ => exact hg.value

theorem lookup (key : String) :
    Option.Rel (Given.Related T) (c.hash.lookup key) (c'.hash.lookup key) := by
  have hh := hc.hash
  generalize c.hash = hs at hh ⊢
  generalize c'.hash = hs' at hh ⊢
  induction hh with
  | nil => exact .none
  | @cons a b _ _ h _ ih =>
    obtain ⟨k, g⟩ := a
    obtain ⟨k', g'⟩ := b
    obtain ⟨rfl, hg⟩ : k = k' ∧ Given.Related T g g' := h
    rw [List.lookup_cons, List.lookup_cons]
    split
    · exact .some hg
    · exact ih

theorem keyed (key : String) : T.Rel (c.keyed? key) (c'.keyed? key) := by
  have hl := hc.lookup key
  unfold Call.keyed?
  generalize c.hash.lookup key = g at hl ⊢
  generalize c'.hash.lookup key = g' at hl ⊢
  cases hl with
  | none => exact T.pure _
  | some hg => exact T.bind hg.value fun v => T.pure _

theorem count (key : String) : T.Rel (c.count? key) (c'.count? key) := by
  refine T.bind (hc.keyed key) fun v => ?_
  cases v with
  | none => exact T.pure _
  | some v =>
    simp only
    split
    · exact T.pure _
    · exact hc.refusal _

theorem text (key : String) : T.Rel (c.text? key) (c'.text? key) :=
  T.bind (hc.keyed key) fun _ => T.pure _

theorem flag (key : String) : T.Rel (c.flag key) (c'.flag key) := by
  refine T.bind (hc.keyed key) fun v => ?_
  cases v <;> exact T.pure _

theorem givens [LawfulMonad m] [LawfulMonad n] : T.Rel c.givens c'.givens := by
  have hh := hc.hash
  unfold Call.givens
  generalize c.hash = hs at hh ⊢
  generalize c'.hash = hs' at hh ⊢
  induction hh with
  | nil => exact T.pure _
  | cons h _ ih =>
    rw [List.mapM_cons, List.mapM_cons, h.1]
    exact T.bind (T.bind h.2.value fun _ => T.pure _) fun _ => T.bind ih fun _ => T.pure _

theorem nameArgument : T.Rel c.nameArgument c'.nameArgument := by
  have hp := hc.params
  unfold Call.nameArgument
  generalize c.params = ps at hp ⊢
  generalize c'.params = ps' at hp ⊢
  cases hp with
  | nil => exact hc.refusal _
  | cons hg _ =>
    simp only [hg.written]
    split
    · exact hc.refusal _
    · exact T.pure _

theorem loopItems : T.Rel c.loopItems c'.loopItems := by
  have hp := hc.params
  unfold Call.loopItems
  generalize c.params = ps at hp ⊢
  generalize c'.params = ps' at hp ⊢
  cases hp with
  | nil => exact hc.refusal _
  | cons hg _ =>
    refine T.bind hg.value fun v => ?_
    cases v.items? with
    | some items => exact T.pure _
    | none =>
      simp only
      split
      · exact T.pure _
      · exact hc.refusal _

theorem limited (items : List Value) : T.Rel (c.limited items) (c'.limited items) := by
  refine T.bind (hc.count "limit") fun limit? => ?_
  cases limit? <;> exact T.pure _

/-! ## Readers -/

theorem plural : T.Rel (Reading.plural c) (Reading.plural c') := by
  refine T.bind hc.first fun v => ?_
  cases v.toInt? with
  | none => exact hc.refusal _
  | some n => exact T.bind (hc.text _) fun _ => T.pure _

theorem moment (v : Value) : T.Rel (Reading.moment? c v) (Reading.moment? c' v) := by
  cases v with
  | absent => exact T.pure _
  | date m => exact T.pure _
  | text s =>
    simp only [Reading.moment?]
    cases Date.Moment.readStrict s with
    | ok m => exact T.pure _
    | error fault => exact hc.refusal _
  | _ => exact hc.refusal _

theorem tell (page : Page) (v : Value) :
    T.Rel (Reading.tell page c v) (Reading.tell page c' v) := by
  refine T.bind (hc.moment v) fun m? => ?_
  cases m? with
  | none => exact T.pure _
  | some m =>
    refine T.bind (hc.flag _) fun ago => ?_
    split
    · exact T.pure _
    · exact T.bind (hc.text _) fun _ => T.pure _

theorem date (page : Page) (f : Frame) :
    T.Rel (Reading.date page f c) (Reading.date page f c') := by
  simp only [Reading.date, hc.isEmpty_params]
  split
  · exact hc.tell page _
  · exact T.bind hc.first (hc.tell page)

theorem cut (p : Post) : T.Rel (Reading.cut? p c) (Reading.cut? p c') := by
  refine T.bind (hc.count _) fun n? => ?_
  cases n? with
  | some n => exact T.pure _
  | none => exact T.bind (hc.count _) fun _ => T.pure _

theorem excerpt (page : Page) (f : Frame) :
    T.Rel (Reading.excerpt page f c) (Reading.excerpt page f c') := by
  unfold Reading.excerpt
  cases Focus.post? page.request f.scopes with
  | none => exact T.pure _
  | some p => exact T.bind (hc.cut p) fun _ => T.pure _

theorem content (page : Page) (f : Frame) :
    T.Rel (Reading.content page f c) (Reading.content page f c') := by
  unfold Reading.content
  cases Focus.post? page.request f.scopes with
  | none => exact T.pure _
  | some p =>
    refine T.bind (hc.cut p) fun text? => ?_
    cases text? <;> exact T.pure _

theorem pageUrl (page : Page) : T.Rel (Reading.pageUrl page c) (Reading.pageUrl page c') := by
  have hp := hc.params
  unfold Reading.pageUrl
  generalize c.params = ps at hp ⊢
  generalize c'.params = ps' at hp ⊢
  cases hp with
  | nil => exact hc.refusal _
  | cons hg _ =>
    simp only [hg.written]
    split
    · exact T.pure _
    · split
      · exact T.pure _
      · refine T.bind hg.value fun v => ?_
        cases v.toInt? with
        | none => exact hc.refusal _
        | some n => exact T.pure _

theorem tagLine (ts : List Tag) : T.Rel (Reading.tagLine c ts) (Reading.tagLine c' ts) := by
  unfold Reading.tagLine
  split
  · exact T.pure _
  · refine T.bind (hc.text _) fun _ => T.bind (hc.text _) fun _ => T.bind (hc.text _) fun _ =>
      T.bind (hc.keyed _) fun link? => ?_
    cases link? <;> exact T.pure _

/-- Readers find related things in related calls. Those not listed do not look at
their arguments. -/
theorem read (page : Page) (f : Frame) (r : Reader) :
    T.Rel (r.read page f c) (r.read page f c') := by
  cases r with
  | condition holds =>
    simp only [Reader.read, hc.isEmpty_params]
    split
    · exact hc.refusal _
    · exact T.bind hc.first fun _ => T.pure _
  | layoutDirective =>
    simp only [Reader.read]
    split
    · exact T.pure _
    · exact T.throw trivial
  | asset =>
    refine T.bind hc.first fun v => ?_
    simp only
    split
    · exact hc.refusal _
    · exact T.pure _
  | unescaped => exact T.bind hc.first fun _ => T.pure _
  | plural => exact T.bind hc.plural fun _ => T.pure _
  | image => exact T.bind (hc.flag _) fun _ => T.pure _
  | url => exact T.bind (hc.flag _) fun _ => T.pure _
  | date => exact T.bind (hc.date page f) fun _ => T.pure _
  | tagUrl => exact T.bind (hc.flag _) fun _ => T.pure _
  | excerpt => exact T.bind (hc.excerpt page f) fun _ => T.pure _
  | content => exact T.bind (hc.content page f) fun _ => T.pure _
  | pageUrl => exact T.bind (hc.pageUrl page) fun _ => T.pure _
  | _ => exact T.pure _

end Call.Related

end BlogTheme
