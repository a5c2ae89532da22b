import BlogTheme.Proofs.Text.Trim
import BlogTheme.Value.Path

/-!
# Stepping out of scopes

A path that begins with `../` is the rest of it, read without the innermost scope
(`Path.resolve_step`), whatever the rest is: it may step out of more scopes, speak about the
subject alone, have empty parts or end with blanks. So `../` written `k` times leaves out `k`
scopes, and there is no value where there are fewer (`Path.resolve_outward`).
-/

namespace BlogTheme.Path

open BlogTheme.Text

theorem splitParents_step (cs : List Char) :
    splitParents ('.' :: '.' :: '/' :: cs) = ((splitParents cs).1 + 1, (splitParents cs).2) :=
  rfl

/-- Trimming changes nothing of a step at the start of a path. -/
theorem trim_step {cs : List Char} (h : cs.head?.any isBlank = false) :
    trim ('.' :: '.' :: '/' :: cs) = '.' :: '.' :: '/' :: trim cs := by
  have hstart : trimStart ('.' :: '.' :: '/' :: cs) = ['.', '.', '/'] ++ cs :=
    trimStart_eq_self_iff.2 rfl
  rw [trim, hstart, trimEnd_append rfl, trim, trimStart_eq_self_iff.2 h]
  rfl

/-- A path that steps out of a scope is read without the innermost scope. -/
theorem resolve_step (request : Request) (scopes : List Scope) {path : String}
    (h : path.toList.head?.any isBlank = false) :
    resolve request scopes ("../" ++ path) = match scopes with
      | [] => .absent
      | _ :: outer => resolve request outer path := by
  have hpath : ("../" ++ path).toList = '.' :: '.' :: '/' :: path.toList :=
    String.toList_append
  unfold resolve resolveChars
  rw [hpath, trim_step h, splitParents_step]
  cases scopes with
  | nil => exact if_neg (Nat.not_succ_le_zero _)
  | cons s outer => simp only [List.length_cons, List.drop_succ_cons, Nat.add_le_add_iff_right]

/-- So many steps out of scopes. -/
def stepsOut : Nat → String
  | 0 => ""
  | k + 1 => "../" ++ stepsOut k

theorem head_stepsOut (k : Nat) {path : String} (h : path.toList.head?.any isBlank = false) :
    (stepsOut k ++ path).toList.head?.any isBlank = false := by
  cases k with
  | zero => rwa [stepsOut, String.empty_append]
  | succ k => simp [stepsOut, isBlank]

/-- A path that steps out of scopes is read without the innermost of them, as many as there are
steps. Where there are fewer it has no value. -/
theorem resolve_stepsOut (request : Request) (scopes : List Scope) (k : Nat) {path : String}
    (h : path.toList.head?.any isBlank = false) :
    resolve request scopes (stepsOut k ++ path) =
      if k ≤ scopes.length then resolve request (scopes.drop k) path else .absent := by
  induction k generalizing scopes with
  | zero => simp [stepsOut]
  | succ k ih =>
    rw [stepsOut, String.append_assoc, resolve_step request scopes (head_stepsOut k h)]
    cases scopes with
    | nil => rfl
    | cons s outer => simp [ih]

/-- In front of a path that does not begin with a blank, `../` takes away the innermost scope,
and where there is none there is no value; so `k` of them have no value where there are fewer than
`k` scopes. -/
theorem resolve_outward (request : Request) (scopes : List Scope) (path : String)
    (h : path.toList.head?.any isBlank = false) :
    (resolve request scopes ("../" ++ path) = match scopes with
      | [] => .absent
      | _ :: outer => resolve request outer path) ∧
    ∀ k, scopes.length < k → resolve request scopes (stepsOut k ++ path) = .absent := by
  refine ⟨resolve_step request scopes h, fun k hk => ?_⟩
  rw [resolve_stepsOut request scopes k h, if_neg (Nat.not_le_of_lt hk)]

/-- Two steps out of three scopes, the second of them and a blank in the path behind the first;
and more steps than there are scopes. -/
theorem resolve_outward_twice :
    let scopes : List Scope :=
      [{ subject := .int 2, iteration := some { index := 1, length := 2 } },
        { subject := .text "tag" }, { subject := .text "blog" }]
    "../. ".toList.head?.any isBlank = false ∧
      resolve default scopes ("../" ++ "../. ") = .text "blog" ∧
      resolve default scopes (stepsOut 4 ++ "../. ") = .absent := by
  intro scopes
  have hhead : "../. ".toList.head?.any isBlank = false := rfl
  obtain ⟨hstep, hnone⟩ := resolve_outward default scopes "../. " hhead
  exact ⟨hhead, hstep.trans rfl, hnone 4 (by decide)⟩

end BlogTheme.Path
