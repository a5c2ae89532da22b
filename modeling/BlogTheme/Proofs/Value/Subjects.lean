import BlogTheme.Proofs.Value.Parents

/-!
# The innermost subject

`./` asks the innermost subject, while `this` is looked up from the innermost scope outwards. They
are the same where only the outermost scope may have nothing for a subject
(`Path.lookup_this`), and so are all paths that begin with them, however many scopes they step out
of (`Path.resolve_this`).
-/

namespace BlogTheme

/-- Every scope but the outermost has a subject. -/
def Scope.AreFilled (scopes : List Scope) : Prop :=
  ∀ s ∈ scopes.dropLast, s.subject.isAbsent = false

theorem Scope.areFilled_singleton (s : Scope) : AreFilled [s] := nofun

theorem Scope.areFilled_cons {s : Scope} {outer : List Scope} (hs : s.subject.isAbsent = false)
    (houter : AreFilled outer) : AreFilled (s :: outer) := by
  cases outer with
  | nil => exact areFilled_singleton s
  | cons s' outer => exact List.forall_mem_cons.2 ⟨hs, houter⟩

theorem Scope.AreFilled.of_suffix {inner scopes : List Scope} (h : AreFilled (inner ++ scopes)) :
    AreFilled scopes := by
  intro s hs
  have hne : scopes ≠ [] := by
    rintro rfl
    cases hs
  refine h s ?_
  rw [List.dropLast_append_of_ne_nil hne]
  exact List.mem_append_right inner hs

namespace Path

open BlogTheme.Text

/-- Outside of all scopes `this` stands for nothing. -/
theorem lookup_this_absent (request : Request) {s : Scope} (hs : s.subject.isAbsent = true) :
    lookup request "this" [s] = s.subject := by
  have hthis : s.lookup "this" = s.subject := rfl
  have habsent : s.subject = .absent := by
    cases hsubject : s.subject <;> simp_all [Value.isAbsent]
  rw [lookup, hthis, habsent]
  rfl

/-- Where every scope but the outermost has a subject, `this` is the innermost subject. -/
theorem lookup_this (request : Request) {scopes : List Scope} (h : Scope.AreFilled scopes) :
    lookup request "this" scopes = subject scopes := by
  cases scopes with
  | nil => rfl
  | cons s outer =>
    have hthis : s.lookup "this" = s.subject := rfl
    cases hs : s.subject.isAbsent with
    | false =>
      rw [lookup, hthis, Value.orElse, hs]
      rfl
    | true =>
      cases outer with
      | nil => exact lookup_this_absent request hs
      | cons s' outer =>
        have hpresent := h s List.mem_cons_self
        rw [hs] at hpresent
        cases hpresent

/-- Behind a beginning that is no step out of scopes only the end of a path is trimmed. -/
theorem resolveChars_append (request : Request) (scopes : List Scope) {c : Char} {cs : List Char}
    (hc : isBlank c = false) (hlast : (c :: cs).getLast?.any isBlank = false)
    (hsteps : ∀ rest, splitParents (c :: cs ++ rest) = (0, c :: cs ++ rest)) (rest : List Char) :
    resolveChars request scopes (c :: cs ++ rest) =
      resolveHere request scopes (c :: cs ++ trimEnd rest) := by
  have hstart : trimStart (c :: cs ++ rest) = c :: cs ++ rest := trimStart_eq_self_iff.2 hc
  unfold resolveChars
  rw [trim, hstart, trimEnd_append hlast, hsteps]
  rfl

/-- Where every scope but the outermost has a subject, `./` is `this.`. -/
theorem resolve_here (request : Request) {scopes : List Scope} (h : Scope.AreFilled scopes)
    (path : String) :
    resolve request scopes ("./" ++ path) = resolve request scopes ("this." ++ path) := by
  have hhere : resolve request scopes ("./" ++ path) =
      follow (subject scopes) (fieldNames (trimEnd path.toList)) := by
    unfold resolve
    rw [String.toList_append]
    exact resolveChars_append request scopes rfl rfl (fun _ => rfl) path.toList
  have hthis : resolve request scopes ("this." ++ path) =
      follow (lookup request "this" scopes) (fieldNames (trimEnd path.toList)) := by
    unfold resolve
    rw [String.toList_append]
    exact resolveChars_append request scopes rfl rfl (fun _ => rfl) path.toList
  rw [hhere, hthis, lookup_this request h]

/-- Where every scope but the outermost has a subject, `./` is `this.` behind any number of steps
out of scopes. -/
theorem resolve_stepsOut_here (request : Request) {scopes : List Scope} (h : Scope.AreFilled scopes)
    (k : Nat) (path : String) :
    resolve request scopes (stepsOut k ++ ("./" ++ path)) =
      resolve request scopes (stepsOut k ++ ("this." ++ path)) := by
  have hhere : ("./" ++ path).toList.head?.any isBlank = false := by
    rw [String.toList_append]
    rfl
  have hthis : ("this." ++ path).toList.head?.any isBlank = false := by
    rw [String.toList_append]
    rfl
  rw [← List.take_append_drop k scopes] at h
  rw [resolve_stepsOut request scopes k hhere, resolve_stepsOut request scopes k hthis,
    resolve_here request h.of_suffix path]

/-- Where an inner scope has no subject `this` is that of an outer scope, but `./` is nothing. -/
example :
    let scopes : List Scope := [{ subject := .absent }, { subject := .text "blog" }]
    resolve default scopes "this." = .text "blog" ∧ resolve default scopes "./" = .absent :=
  ⟨rfl, rfl⟩

end Path

end BlogTheme
