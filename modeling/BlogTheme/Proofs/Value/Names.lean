import BlogTheme.Proofs.Text.Trim
import BlogTheme.Value.Path

/-!
# Paths of names

A path of names between points is read one name after the other: the first is looked up from the
innermost scope outwards, each of the others is a field of what was read before
(`Path.resolve_ofNames`). So the innermost scope where the first name stands for something decides,
even if what it stands for has none of the fields that follow (`Path.resolve_innermost`).
-/

namespace BlogTheme

theorem Value.orElse_eq (v other : Value) : v.orElse other = if v = .absent then other else v := by
  cases v <;> rfl

namespace Path

open BlogTheme.Text

/-- A name that can stand between the points of a path. -/
def IsName (s : String) : Prop :=
  s ≠ "" ∧ ∀ c ∈ s.toList, c ≠ '.' ∧ c ≠ '/' ∧ isBlank c = false

-- Written out, as a search might go through all characters instead of those of the name.
instance (s : String) : Decidable (IsName s) :=
  @instDecidableAnd _ _ inferInstance (List.decidableBAll _ s.toList)

/-- The path of some names. -/
def ofNames (names : List String) : String :=
  ".".intercalate names

/-! ## Names and points -/

theorem IsName.toList_ne_nil {s : String} (h : IsName s) : s.toList ≠ [] :=
  fun hnil => h.1 (String.toList_eq_nil_iff.1 hnil)

theorem IsName.not_mem {s : String} (h : IsName s) : '.' ∉ s.toList :=
  fun hmem => (h.2 '.' hmem).1 rfl

theorem segments_of_not_mem {cs : List Char} (h : '.' ∉ cs) : segments cs = [cs] := by
  induction cs with
  | nil => rfl
  | cons c cs ih =>
    have hc : c ≠ '.' := (List.ne_of_not_mem_cons h).symm
    rw [segments, if_neg hc, ih (List.not_mem_of_not_mem_cons h)]

theorem segments_append_point {cs : List Char} (h : '.' ∉ cs) (rest : List Char) :
    segments (cs ++ '.' :: rest) = cs :: segments rest := by
  induction cs with
  | nil => rfl
  | cons c cs ih =>
    have hc : c ≠ '.' := (List.ne_of_not_mem_cons h).symm
    rw [List.cons_append, segments, if_neg hc, ih (List.not_mem_of_not_mem_cons h)]

/-- What stands between the points of a path are its names. -/
theorem segments_intercalate {names : List (List Char)} (hne : names ≠ [])
    (h : ∀ name ∈ names, '.' ∉ name) : segments (['.'].intercalate names) = names := by
  induction names with
  | nil => exact absurd rfl hne
  | cons name names ih =>
    obtain ⟨hname, hnames⟩ := List.forall_mem_cons.1 h
    cases names with
    | nil => rw [List.intercalate_singleton, segments_of_not_mem hname]
    | cons next names =>
      rw [List.intercalate_cons_cons, List.append_assoc, List.singleton_append,
        segments_append_point hname, ih (List.cons_ne_nil _ _) hnames]

/-- Behind the first name of a path stands nothing, or a point and the path of the others. -/
theorem toList_ofNames_cons (first : String) (fields : List String) :
    ∃ rest, (ofNames (first :: fields)).toList = first.toList ++ rest ∧
      rest.takeWhile (· != '.') = [] ∧
      (rest.dropWhile (· != '.')).drop 1 = (ofNames fields).toList := by
  simp only [ofNames, String.toList_intercalate]
  cases fields with
  | nil => exact ⟨[], by simp [List.intercalate_singleton], rfl, rfl⟩
  | cons next fields =>
    refine ⟨'.' :: ['.'].intercalate ((next :: fields).map String.toList), ?_, rfl, rfl⟩
    simp only [List.map_cons, List.intercalate_cons_cons, List.append_assoc]
    rfl

/-- The names of a path behind its first are read as fields. -/
theorem fieldNames_ofNames {fields : List String} (h : ∀ s ∈ fields, IsName s) :
    fieldNames (ofNames fields).toList = fields := by
  rw [ofNames, String.toList_intercalate]
  cases fields with
  | nil => rfl
  | cons next fields =>
    have hnext : next.toList ≠ [] := (h next List.mem_cons_self).toList_ne_nil
    have hne : ['.'].intercalate ((next :: fields).map String.toList) ≠ [] := by
      cases fields <;>
        simp [List.intercalate_singleton, List.intercalate_cons_cons, hnext]
    have hpoints : ∀ name ∈ (next :: fields).map String.toList, '.' ∉ name := by
      rintro _ hname
      obtain ⟨s, hs, rfl⟩ := List.mem_map.1 hname
      exact (h s hs).not_mem
    have hsegments := segments_intercalate (by simp) hpoints
    have hpoint : ".".toList = ['.'] := rfl
    rw [hpoint, fieldNames, if_neg (mt List.isEmpty_iff.1 hne), hsegments, List.map_map]
    simp

/-- No blank stands in a path of names. -/
theorem isBlank_of_mem_ofNames {names : List String} (h : ∀ s ∈ names, IsName s) {c : Char}
    (hc : c ∈ (ofNames names).toList) : isBlank c = false := by
  rw [ofNames, String.toList_intercalate] at hc
  induction names with
  | nil => cases hc
  | cons name names ih =>
    obtain ⟨hname, hnames⟩ := List.forall_mem_cons.1 h
    cases names with
    | nil =>
      rw [List.map_cons, List.map_nil, List.intercalate_singleton] at hc
      exact (hname.2 c hc).2.2
    | cons next names =>
      rw [List.map_cons, List.map_cons, List.intercalate_cons_cons, List.append_assoc] at hc
      obtain hc | hc := List.mem_append.1 hc
      · exact (hname.2 c hc).2.2
      · obtain hc | hc := List.mem_append.1 hc
        · obtain rfl := List.mem_singleton.1 hc
          rfl
        · exact ih hnames hc

/-! ## Reading names -/

/-- What does not begin with a point speaks about no scope in particular. -/
theorem resolveChars_of_head (request : Request) (scopes : List Scope) {c : Char} {cs : List Char}
    (hc : c ≠ '.') (htrim : trim (c :: cs) = c :: cs) :
    resolveChars request scopes (c :: cs) =
      follow (lookup request (String.ofList ((c :: cs).takeWhile (· != '.'))) scopes)
        (fieldNames (((c :: cs).dropWhile (· != '.')).drop 1)) := by
  have hsteps : splitParents (c :: cs) = (0, c :: cs) := by
    unfold splitParents
    split
    · rename_i heq
      exact absurd (List.cons.inj heq).1 hc
    · rename_i heq
      exact absurd (List.cons.inj heq).1 hc
    · rfl
  rw [resolveChars, htrim, hsteps]
  show (if 0 ≤ scopes.length then resolveHere request (scopes.drop 0) (c :: cs) else _) = _
  rw [if_pos (Nat.zero_le _), List.drop_zero]
  unfold resolveHere
  split
  · rename_i heq
    cases heq
  · rename_i heq
    exact absurd (List.cons.inj heq).1 hc
  · rename_i heq
    exact absurd (List.cons.inj heq).1 hc
  · rfl

/-- A path of names is the first, looked up from the innermost scope outwards, and then one field
after the other. -/
theorem resolve_ofNames (request : Request) (scopes : List Scope) {first : String}
    {fields : List String} (h : ∀ s ∈ first :: fields, IsName s) :
    resolve request scopes (ofNames (first :: fields)) =
      follow (lookup request first scopes) fields := by
  obtain ⟨hfirst, hfields⟩ := List.forall_mem_cons.1 h
  obtain ⟨rest, hpath, htake, hdrop⟩ := toList_ofNames_cons first fields
  obtain ⟨c, cs, hcs⟩ := List.exists_cons_of_ne_nil hfirst.toList_ne_nil
  have hplain : ∀ d ∈ first.toList, (d != '.') = true :=
    fun d hd => bne_iff_ne.2 (hfirst.2 d hd).1
  have hblank : ∀ d ∈ first.toList ++ rest, isBlank d = false :=
    fun d hd => isBlank_of_mem_ofNames h (hpath ▸ hd)
  have htrim : trim (first.toList ++ rest) = first.toList ++ rest := by
    refine trim_eq_self_iff.2 ⟨?_, ?_⟩
    · cases hhead : (first.toList ++ rest).head? with
      | none => rfl
      | some d => exact hblank d (List.mem_of_mem_head? hhead)
    · cases hlast : (first.toList ++ rest).getLast? with
      | none => rfl
      | some d => exact hblank d (List.mem_of_getLast? hlast)
  have hc : c ≠ '.' := (hfirst.2 c (by rw [hcs]; exact List.mem_cons_self)).1
  rw [hcs, List.cons_append] at htrim
  have hread := resolveChars_of_head request scopes hc htrim
  rw [← List.cons_append, ← hcs, List.takeWhile_append_of_pos hplain,
    List.dropWhile_append_of_pos hplain, htake, hdrop, List.append_nil, String.ofList_toList,
    fieldNames_ofNames hfields] at hread
  rw [resolve, hpath, hread]

theorem follow_append (v : Value) (front back : List String) :
    follow v (front ++ back) = follow (follow v front) back :=
  List.foldl_append

/-- Nothing has fields. -/
theorem follow_absent (fields : List String) : follow .absent fields = .absent := by
  induction fields with
  | nil => rfl
  | cons field fields ih => exact ih

/-- The innermost scope decides if the first name stands for something there, and counts for
nothing otherwise. Outside of all scopes the name is a part of the request, or else a field of the
blog. Where one of the fields is missing there is no value. -/
theorem resolve_innermost (request : Request) (scopes : List Scope) (first : String)
    (fields : List String) (h : ∀ s ∈ first :: fields, IsName s) :
    (∀ c : Scope, resolve request (c :: scopes) (ofNames (first :: fields)) =
      if c.lookup first = .absent then resolve request scopes (ofNames (first :: fields))
      else follow (c.lookup first) fields) ∧
    resolve request [] (ofNames (first :: fields)) =
      follow (if request.field first = .absent then request.blog.field first
        else request.field first) fields ∧
    ∀ v front back, fields = front ++ back → follow v front = .absent →
      follow v fields = .absent := by
  refine ⟨fun c => ?_, ?_, ?_⟩
  · rw [resolve_ofNames request _ h, resolve_ofNames request _ h, lookup, Value.orElse_eq]
    split <;> rfl
  · rw [resolve_ofNames request _ h, lookup, Value.orElse_eq]
  · rintro v front back rfl habsent
    rw [follow_append, habsent, follow_absent]

/-- A tag has a name, and so hides what is given under that key further out, though its name has no
length. -/
theorem resolve_innermost_hidden :
    let outer : List Scope := [{ subject := .absent, hash := [("name", .posts [default])] }]
    let tag : Scope := { subject := .tag { (default : Tag) with name := "lean" } }
    (∀ s ∈ ["name", "length"], IsName s) ∧
      resolve default outer (ofNames ["name", "length"]) = .int 1 ∧
      resolve default (tag :: outer) (ofNames ["name", "length"]) = .absent := by
  intro outer tag
  have hnames : ∀ s ∈ ["name", "length"], IsName s := by decide
  have hresolve := resolve_innermost default
  refine ⟨hnames, ?_, ?_⟩
  · exact ((hresolve [] "name" ["length"] hnames).1 _).trans rfl
  · exact ((hresolve outer "name" ["length"] hnames).1 tag).trans rfl

end Path

end BlogTheme
