import BlogTheme.Template.Name
import BlogTheme.Proofs.Text.Trim
import Mathlib.Data.Finset.Max

/-!
# Canonical names

Making a name canonical takes characters away and turns backslashes, so a name without a backslash
that keeps its length is canonical already (`canonicalChars_of_length`). What is made canonical need
not be: of two endings one is left, and a slash that was a backslash may now be one to leave out.
`IsCanonical` says what does not occur in a name that is its own canonical form. Names that are all
canonical forms of one another are of this kind (`canonicalName_of_onto`).
-/

namespace BlogTheme.Template

open BlogTheme.Text

variable {cs : List Char}

/-! ## What is taken away -/

theorem dropDotSlashes_suffix (cs : List Char) : dropDotSlashes cs <:+ cs := by
  fun_induction dropDotSlashes cs with
  | case1 cs ih => exact ih.trans (List.suffix_append ['.', '/'] cs)
  | case2 => exact List.suffix_rfl

theorem dropDotSlashes_eq_self_iff : dropDotSlashes cs = cs ↔ ¬ ['.', '/'] <+: cs := by
  constructor
  · rintro h ⟨rest, rfl⟩
    have hle : (dropDotSlashes rest).length ≤ rest.length := (dropDotSlashes_suffix rest).length_le
    have hlength : (dropDotSlashes rest).length = rest.length + 2 := congrArg List.length h
    omega
  · intro h
    fun_cases dropDotSlashes cs with
    | case1 rest => exact absurd (List.prefix_append ['.', '/'] rest) h
    | case2 => rfl

theorem dropSlashes_suffix (cs : List Char) : dropSlashes cs <:+ cs :=
  List.dropWhile_suffix _

theorem dropSlashes_eq_self_iff : dropSlashes cs = cs ↔ ¬ ['/'] <+: cs := by
  rw [dropSlashes, List.dropWhile_eq_self_iff]
  cases cs with
  | nil => simp
  | cons c cs => simp [eq_comm (a := '/')]

theorem dropEnding_cases (cs : List Char) :
    (∃ rest, cs = rest ++ fileEnding ∧ dropEnding cs = rest) ∨
      ¬ fileEnding <:+ cs ∧ dropEnding cs = cs := by
  unfold dropEnding
  cases hrest : dropAffix? fileEnding.reverse cs.reverse with
  | some rest =>
    refine .inl ⟨rest.reverse, ?_, rfl⟩
    rw [← List.reverse_inj, ← dropAffix?_eq_some_iff.1 hrest, List.reverse_append,
      List.reverse_reverse]
  | none =>
    refine .inr ⟨?_, rfl⟩
    rintro ⟨rest, rfl⟩
    have hsome : dropAffix? fileEnding.reverse (rest ++ fileEnding).reverse = some rest.reverse :=
      dropAffix?_eq_some_iff.2 List.reverse_append.symm
    rw [hsome] at hrest
    cases hrest

theorem dropEnding_sublist (cs : List Char) : (dropEnding cs).Sublist cs := by
  obtain ⟨rest, rfl, hdrop⟩ | ⟨-, hdrop⟩ := dropEnding_cases cs
  · rw [hdrop]
    exact List.sublist_append_left rest fileEnding
  · rw [hdrop]

theorem dropEnding_eq_self_iff : dropEnding cs = cs ↔ ¬ fileEnding <:+ cs := by
  obtain ⟨rest, rfl, hdrop⟩ | ⟨hending, hdrop⟩ := dropEnding_cases cs
  · rw [hdrop]
    simp [fileEnding]
  · exact iff_of_true hdrop hending

theorem unstepped_sublist (cs : List Char) : (dropDotSlashes (trim cs)).Sublist cs :=
  (dropDotSlashes_suffix _).sublist.trans (trim_sublist cs)

theorem unslashed_sublist (cs : List Char) : (dropSlashes (dropDotSlashes (trim cs))).Sublist cs :=
  (dropSlashes_suffix _).sublist.trans (unstepped_sublist cs)

/-- What is left of a name before its backslashes are turned. -/
theorem stripped_sublist (cs : List Char) :
    (dropEnding (dropSlashes (dropDotSlashes (trim cs)))).Sublist cs :=
  (dropEnding_sublist _).trans (unslashed_sublist cs)

theorem turn_eq_self_iff :
    (cs.map fun c => if c = '\\' then '/' else c) = cs ↔ '\\' ∉ cs := by
  induction cs with
  | nil => simp
  | cons c cs ih =>
    rw [List.map_cons, List.cons.injEq, ih, List.mem_cons, not_or]
    refine and_congr_left fun _ => ?_
    split <;> simp_all [eq_comm (a := '\\')]

/-! ## Names that are their own canonical forms -/

/-- A name in which there is nothing to leave out or to turn. -/
structure IsCanonical (cs : List Char) : Prop where
  start : cs.head?.any isBlank = false
  finish : cs.getLast?.any isBlank = false
  step : ¬ ['.', '/'] <+: cs
  slash : ¬ ['/'] <+: cs
  ending : ¬ fileEnding <:+ cs
  backslash : '\\' ∉ cs

/-- A name stays as it is under all steps only if it does under each. -/
theorem canonicalChars_eq_self_iff : canonicalChars cs = cs ↔ IsCanonical cs := by
  have hturned : canonicalChars cs = cs ↔
      dropEnding (dropSlashes (dropDotSlashes (trim cs))) = cs ∧ '\\' ∉ cs :=
    (comp_eq_self_iff (fun _ => List.length_map _ |>.le) stripped_sublist).trans
      (and_congr_right' turn_eq_self_iff)
  have hunended : dropEnding (dropSlashes (dropDotSlashes (trim cs))) = cs ↔
      dropSlashes (dropDotSlashes (trim cs)) = cs ∧ ¬ fileEnding <:+ cs :=
    (comp_eq_self_iff (fun cs => (dropEnding_sublist cs).length_le) unslashed_sublist).trans
      (and_congr_right' dropEnding_eq_self_iff)
  have hunslashed : dropSlashes (dropDotSlashes (trim cs)) = cs ↔
      dropDotSlashes (trim cs) = cs ∧ ¬ ['/'] <+: cs :=
    (comp_eq_self_iff (fun cs => (dropSlashes_suffix cs).length_le) unstepped_sublist).trans
      (and_congr_right' dropSlashes_eq_self_iff)
  have hunstepped : dropDotSlashes (trim cs) = cs ↔ trim cs = cs ∧ ¬ ['.', '/'] <+: cs :=
    (comp_eq_self_iff (fun cs => (dropDotSlashes_suffix cs).length_le) trim_sublist).trans
      (and_congr_right' dropDotSlashes_eq_self_iff)
  rw [hturned, hunended, hunslashed, hunstepped, trim_eq_self_iff]
  constructor
  · rintro ⟨⟨⟨⟨⟨start, finish⟩, step⟩, slash⟩, ending⟩, backslash⟩
    exact ⟨start, finish, step, slash, ending, backslash⟩
  · rintro ⟨start, finish, step, slash, ending, backslash⟩
    exact ⟨⟨⟨⟨⟨start, finish⟩, step⟩, slash⟩, ending⟩, backslash⟩

instance : Decidable (IsCanonical cs) :=
  decidable_of_iff _ canonicalChars_eq_self_iff

theorem backslash_not_mem_canonicalChars (cs : List Char) : '\\' ∉ canonicalChars cs := by
  intro h
  obtain ⟨c, -, hc⟩ := List.mem_map.1 h
  split at hc <;> simp_all

theorem canonicalChars_of_length (hbackslash : '\\' ∉ cs)
    (hlength : cs.length ≤ (canonicalChars cs).length) : canonicalChars cs = cs := by
  rw [canonicalChars, List.length_map] at hlength
  rw [canonicalChars, (stripped_sublist cs).eq_of_length_le hlength]
  exact turn_eq_self_iff.2 hbackslash

theorem toList_canonicalName (n : String) : (canonicalName n).toList = canonicalChars n.toList :=
  String.toList_ofList

theorem canonicalName_eq_self_iff {n : String} : canonicalName n = n ↔ IsCanonical n.toList := by
  rw [← canonicalChars_eq_self_iff, ← toList_canonicalName, String.toList_inj]

-- The slash is turned after the step in front has been looked for.
example : canonicalName ".\\index.hbs" = "./index" ∧ canonicalName "./index" = "index" := by
  decide +kernel

/-- The longest among the names that are not canonical could only be the canonical form of a longer
one of this kind. -/
theorem canonicalName_of_onto {names : List String}
    (honto : ∀ n ∈ names, ∃ m ∈ names, canonicalName m = n) :
    ∀ n ∈ names, canonicalName n = n := by
  by_contra! hexists
  obtain ⟨n₀, hn₀, hne₀⟩ := hexists
  let loose := names.toFinset.filter fun n => canonicalName n ≠ n
  have hmem {n : String} : n ∈ loose ↔ n ∈ names ∧ canonicalName n ≠ n := by
    simp [loose]
  obtain ⟨n, hn, hlongest⟩ :=
    loose.exists_max_image (fun n => n.toList.length) ⟨n₀, hmem.2 ⟨hn₀, hne₀⟩⟩
  obtain ⟨hn, hne⟩ := hmem.1 hn
  obtain ⟨m, hm, rfl⟩ := honto n hn
  have hloose : canonicalName m ≠ m := by
    intro hsame
    exact hne (by rw [hsame, hsame])
  -- As the form of another name `m` holds no backslash, so it has lost a character.
  obtain ⟨l, -, rfl⟩ := honto m hm
  refine hloose (String.toList_inj.1 ?_)
  rw [toList_canonicalName]
  refine canonicalChars_of_length ?_ ?_
  · rw [toList_canonicalName]
    exact backslash_not_mem_canonicalChars l.toList
  · rw [← toList_canonicalName]
    exact hlongest _ (hmem.2 ⟨hm, hloose⟩)

end BlogTheme.Template
