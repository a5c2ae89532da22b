import BlogTheme.Theme.Error
import Mathlib.Data.List.Forall2

/-!
# What computations end in

`Ends P E x` says that the computation `x` ends in a result that satisfies `P` or in an
error that satisfies `E`. `Yields` speaks about the result only, `FailsWith` about the
error only. All three are kept by sequencing and by going through a list.

`Follows R x y` compares two computations: where `x` has a result, `y` has one related to
it, and where `x` fails with an error that can be recovered from, so does `y`.
-/

namespace BlogTheme

/-- A sequence that has a result has one in its first part. -/
theorem ok_of_bind {x : Except ε α} {f : α → Except ε β} {b : β} (h : (x >>= f) = .ok b) :
    ∃ a, x = .ok a ∧ f a = .ok b := by
  cases x with
  | error e => cases h
  | ok a => exact ⟨a, rfl, h⟩

theorem ok_of_map {x : Except ε α} {f : α → β} {b : β} (h : x.map f = .ok b) :
    ∃ a, x = .ok a ∧ f a = b := by
  cases x with
  | error e => cases h
  | ok a => exact ⟨a, rfl, Except.ok.inj h⟩

/-- Where each step does nothing but yield a result, so does going through a list. -/
theorem mapM_eq_pure {m : Type u → Type v} [Monad m] [LawfulMonad m] {g : α → m β} {r : α → β}
    {l : List α} (h : ∀ a ∈ l, g a = pure (r a)) : l.mapM g = pure (l.map r) := by
  induction l with
  | nil => exact List.mapM_nil
  | cons a l ih =>
    obtain ⟨ha, hl⟩ := List.forall_mem_cons.1 h
    rw [List.mapM_cons, ha, ih hl, pure_bind, pure_bind, List.map_cons]

/-- The computation ends in a result that satisfies `P` or an error that satisfies `E`. -/
def Ends (P : α → Prop) (E : ThemeError → Prop) : Except ThemeError α → Prop
  | .ok a => P a
  | .error e => E e

/-- Whatever result the computation comes to satisfies `P`. -/
abbrev Yields (P : α → Prop) (x : Except ThemeError α) : Prop :=
  Ends P (fun _ => True) x

/-- Whatever error the computation ends in satisfies `E`. -/
abbrev FailsWith (E : ThemeError → Prop) (x : Except ThemeError α) : Prop :=
  Ends (fun _ => True) E x

namespace Ends

variable {P : α → Prop} {Q : β → Prop} {E : ThemeError → Prop}

theorem ok {a : α} (h : P a) : Ends P E (.ok a) := h

theorem error {e : ThemeError} (h : E e) : Ends P E (.error e) := h

theorem result {x : Except ThemeError α} {a : α} (h : Ends P E x) (hx : x = .ok a) : P a := by
  subst hx
  exact h

theorem fault {x : Except ThemeError α} {e : ThemeError} (h : Ends P E x) (hx : x = .error e) :
    E e := by
  subst hx
  exact h

theorem mono {P' : α → Prop} {x : Except ThemeError α} (hx : Ends P E x)
    (h : ∀ a, P a → P' a) : Ends P' E x := by
  cases x with
  | ok a => exact h a hx
  | error e => exact hx

theorem bind {x : Except ThemeError α} {g : α → Except ThemeError β} (hx : Ends P E x)
    (hg : ∀ a, P a → Ends Q E (g a)) : Ends Q E (x >>= g) := by
  cases x with
  | ok a => exact hg a hx
  | error e => exact hx

theorem mapM {g : α → Except ThemeError β} {l : List α} (h : ∀ a ∈ l, Ends Q E (g a)) :
    Ends (fun bs => ∀ b ∈ bs, Q b) E (l.mapM g) := by
  induction l with
  | nil => exact ok nofun
  | cons a l ih =>
    obtain ⟨ha, hl⟩ := List.forall_mem_cons.1 h
    rw [List.mapM_cons]
    refine ha.bind fun b hb => (ih hl).bind fun bs hbs => ok ?_
    exact List.forall_mem_cons.2 ⟨hb, hbs⟩

end Ends

/-- For the error it does not matter what result came first. -/
theorem FailsWith.bind {E : ThemeError → Prop} {x : Except ThemeError α}
    {g : α → Except ThemeError β} (hx : FailsWith E x) (hg : ∀ a, FailsWith E (g a)) :
    FailsWith E (x >>= g) :=
  Ends.bind hx fun a _ => hg a

/-- For the result it does not matter what comes first. -/
theorem Yields.of_bind {Q : β → Prop} {x : Except ThemeError α} {g : α → Except ThemeError β}
    (hg : ∀ a, Yields Q (g a)) : Yields Q (x >>= g) := by
  have hx : Yields (fun _ => True) x := by
    cases x <;> trivial
  exact hx.bind fun a _ => hg a

/-- The computation `y` comes to a result related to that of `x`, or to the same error. What
it comes to where `x` aborts is left open. -/
def Follows (R : α → β → Prop) (x : Except ThemeError α) (y : Except ThemeError β) : Prop :=
  match x with
  | .ok a => ∃ b, y = .ok b ∧ R a b
  | .error e => e.diagnosticKind? = none ∨ y = .error e

namespace Follows

variable {R : α → β → Prop} {S : γ → δ → Prop}

theorem ok {a : α} {b : β} (h : R a b) : Follows R (.ok a) (.ok b) :=
  ⟨b, rfl, h⟩

theorem error (e : ThemeError) : Follows R (.error e : Except ThemeError α) (.error e) :=
  .inr rfl

theorem abort {e : ThemeError} (h : e.diagnosticKind? = none) (y : Except ThemeError β) :
    Follows R (.error e : Except ThemeError α) y :=
  .inl h

theorem of_eq {x y : Except ThemeError α} (h : x = y) : Follows Eq x y := by
  subst h
  cases x with
  | ok a => exact ok rfl
  | error e => exact error e

theorem bind {x : Except ThemeError α} {y : Except ThemeError β} {g : α → Except ThemeError γ}
    {h : β → Except ThemeError δ} (hx : Follows R x y) (hg : ∀ a b, R a b → Follows S (g a) (h b)) :
    Follows S (x >>= g) (y >>= h) := by
  cases x with
  | ok a =>
    obtain ⟨b, rfl, hab⟩ := hx
    exact hg a b hab
  | error e =>
    obtain hfatal | rfl := hx
    · exact abort hfatal _
    · exact error e

/-- The same computation between two that follow one another. -/
theorem eq_trans {x y : Except ThemeError α} {z : Except ThemeError β} (hxy : Follows Eq x y)
    (hyz : Follows R y z) : Follows R x z := by
  cases x with
  | ok a =>
    obtain ⟨b, rfl, rfl⟩ := hxy
    exact hyz
  | error e =>
    obtain hfatal | rfl := hxy
    · exact abort hfatal z
    · exact hyz

theorem mapM {g : α → Except ThemeError γ} {h : β → Except ThemeError δ} {l : List α} {l' : List β}
    (hl : List.Forall₂ R l l') (hg : ∀ a b, R a b → Follows S (g a) (h b)) :
    Follows (List.Forall₂ S) (l.mapM g) (l'.mapM h) := by
  induction hl with
  | nil => exact ok .nil
  | cons hab _ ih =>
    rw [List.mapM_cons, List.mapM_cons]
    refine (hg _ _ hab).bind fun c d hcd => ih.bind fun cs ds hcds => ok ?_
    exact .cons hcd hcds

end Follows

end BlogTheme
