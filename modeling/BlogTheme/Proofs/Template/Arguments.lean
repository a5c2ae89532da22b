import BlogTheme.Proofs.Outcome
import BlogTheme.Proofs.Template.Words
import Mathlib.Data.List.Nodup

/-!
# Adding arguments

Adding the arguments of a tag that spell the arguments of an invocation gives these arguments
(`Invocation.addArgs_spells`), and arguments that can be written give an invocation whose
arguments can be written (`Invocation.addArgs_writable`): of two with the same key only the
last is kept.
-/

namespace BlogTheme.Template

namespace Invocation

/-! ## Arguments that spell others -/

theorem addArg_spells_param {i : Invocation} {a : Argument} {arg : Arg} (h : Spells (none, a) arg) :
    i.addArg arg = .ok (i.addParam a) := by
  obtain ⟨hkey, hword⟩ := h
  rw [addArg, hword, hkey]
  rfl

theorem addArg_spells_hash {i : Invocation} {key : String} {a : Argument} {arg : Arg}
    (h : Spells (some key, a) arg) : i.addArg arg = .ok (i.addHash key a) := by
  obtain ⟨hkey, hword⟩ := h
  rw [addArg, hword, hkey]
  rfl

theorem addArgs_singleton (i : Invocation) (arg : Arg) : i.addArgs [arg] = i.addArg arg := by
  rw [addArgs]
  cases i.addArg arg <;> rfl

/-- A new key is added behind the others. -/
theorem addHash_of_notMem {i : Invocation} {key : String} (h : key ∉ i.hash.map Prod.fst)
    (a : Argument) : i.addHash key a = { i with hash := i.hash ++ [(key, a)] } := by
  have hkeep : i.hash.filter (fun entry => entry.1 != key) = i.hash := by
    refine List.filter_eq_self.2 fun entry hentry => ?_
    have hne : entry.1 ≠ key := fun heq => h (heq ▸ List.mem_map_of_mem hentry)
    simpa using hne
  rw [addHash, hkeep]

theorem addArgs_spells_params {params : List Argument} {l : List (Option String × Argument)}
    {args : List Arg} (h : List.Forall₂ Spells (params.map (none, ·) ++ l) args) :
    ∃ after, List.Forall₂ Spells l after ∧ ∀ i : Invocation,
      i.addArgs args = { i with params := i.params ++ params }.addArgs after := by
  induction params generalizing args with
  | nil => exact ⟨args, h, fun i => by rw [List.append_nil]⟩
  | cons a params ih =>
    obtain _ | ⟨harg, hargs⟩ := h
    obtain ⟨after, hafter, hadd⟩ := ih hargs
    refine ⟨after, hafter, fun i => ?_⟩
    rw [addArgs, addArg_spells_param harg]
    refine (hadd _).trans ?_
    rw [addParam, List.append_assoc]
    rfl

theorem addArgs_spells_hash {hash : List (String × Argument)} {args : List Arg}
    (h : List.Forall₂ Spells (hash.map fun entry => (some entry.1, entry.2)) args) {i : Invocation}
    (hkeys : ((i.hash ++ hash).map Prod.fst).Nodup) :
    i.addArgs args = .ok { i with hash := i.hash ++ hash } := by
  induction hash generalizing args i with
  | nil =>
    cases h
    rw [List.append_nil]
    rfl
  | cons entry hash ih =>
    obtain _ | ⟨harg, hargs⟩ := h
    have hnew : entry.1 ∉ i.hash.map Prod.fst := by
      rw [List.map_append, List.nodup_append] at hkeys
      exact fun hmem => hkeys.2.2 _ hmem _ List.mem_cons_self rfl
    have hsame : i.hash ++ entry :: hash = i.hash ++ [entry] ++ hash := by simp
    rw [hsame] at hkeys ⊢
    rw [addArgs, addArg_spells_hash harg, addHash_of_notMem hnew]
    exact ih hargs hkeys

/-- Adding what spells the arguments of an invocation adds these arguments. -/
theorem addArgs_spells {i j : Invocation} {args : List Arg}
    (h : List.Forall₂ Spells i.arguments args)
    (hkeys : ((j.hash ++ i.hash).map Prod.fst).Nodup) :
    j.addArgs args = .ok { j with params := j.params ++ i.params, hash := j.hash ++ i.hash } := by
  obtain ⟨after, hafter, hadd⟩ := addArgs_spells_params h
  rw [hadd]
  exact addArgs_spells_hash hafter hkeys

/-! ## Arguments that can be written -/

theorem argument_writable {w : Word} {a : Argument} (hw : w.IsWritable) (h : w.argument = .ok a) :
    a.isWritable := by
  cases w with
  | string s =>
    cases h
    exact hw
  | number literal place =>
    simp only [Word.argument] at h
    split at h
    · cases h
      rfl
    · cases h
  | boolean b =>
    cases h
    rfl
  | path p =>
    cases h
    exact hw

theorem hasWritableArguments_iff {i : Invocation} : i.hasWritableArguments ↔
    (∀ a ∈ i.params, a.isWritable) ∧
      (∀ entry ∈ i.hash, isKeyText entry.1 ∧ entry.2.isWritable) ∧
      (i.hash.map Prod.fst).Nodup := by
  simp [hasWritableArguments, and_assoc]

theorem addHash_writable {i : Invocation} (hi : i.hasWritableArguments) {key : String}
    {a : Argument} (hkey : isKeyText key) (ha : a.isWritable) :
    (i.addHash key a).hasWritableArguments := by
  obtain ⟨hparams, hhash, hkeys⟩ := hasWritableArguments_iff.1 hi
  refine hasWritableArguments_iff.2 ⟨hparams, ?_, ?_⟩
  · intro entry hentry
    obtain hentry | hentry := List.mem_append.1 hentry
    · exact hhash entry (List.mem_of_mem_filter hentry)
    · rw [List.mem_singleton.1 hentry]
      exact ⟨hkey, ha⟩
  · have hfilter : ((i.hash.filter fun entry => entry.1 != key).map Prod.fst).Nodup :=
      hkeys.sublist (List.filter_sublist.map Prod.fst)
    rw [addHash, List.map_append, List.nodup_append]
    refine ⟨hfilter, List.nodup_singleton key, ?_⟩
    rintro _ hmem _ hkey rfl
    obtain ⟨entry, hentry, rfl⟩ := List.mem_map.1 hmem
    have hne := (List.mem_filter.1 hentry).2
    rw [List.mem_singleton.1 hkey] at hne
    simp at hne

/-- What adding an argument does. -/
theorem addArg_cases {i i' : Invocation} {arg : Arg} (h : i.addArg arg = .ok i') :
    ∃ a, arg.word.argument = .ok a ∧
      (arg.key = none ∧ i' = i.addParam a ∨ ∃ key, arg.key = some key ∧ i' = i.addHash key a) := by
  obtain ⟨a, hword, h⟩ := ok_of_bind h
  cases hkey : arg.key with
  | none =>
    rw [hkey] at h
    cases h
    exact ⟨a, hword, .inl ⟨rfl, rfl⟩⟩
  | some key =>
    rw [hkey] at h
    cases h
    exact ⟨a, hword, .inr ⟨key, rfl, rfl⟩⟩

theorem addArg_writable {i i' : Invocation} {arg : Arg} (hi : i.hasWritableArguments)
    (harg : arg.IsWritable) (h : i.addArg arg = .ok i') : i'.hasWritableArguments := by
  obtain ⟨a, hword, ⟨-, rfl⟩ | ⟨key, hkey, rfl⟩⟩ := addArg_cases h
  · obtain ⟨hparams, hhash⟩ := hasWritableArguments_iff.1 hi
    refine hasWritableArguments_iff.2 ⟨List.forall_mem_append.2 ⟨hparams, ?_⟩, hhash⟩
    exact List.forall_mem_singleton.2 (argument_writable harg.2 hword)
  · exact addHash_writable hi (harg.1 key hkey) (argument_writable harg.2 hword)

/-- Arguments are added behind those with no key, and none is taken away. -/
theorem addArg_extends {i i' : Invocation} {arg : Arg} (h : i.addArg arg = .ok i') :
    i'.name = i.name ∧ i.params <+: i'.params ∧ i'.arguments ≠ [] := by
  obtain ⟨a, -, ⟨-, rfl⟩ | ⟨key, -, rfl⟩⟩ := addArg_cases h
  · exact ⟨rfl, List.prefix_append _ _, by simp [arguments, addParam]⟩
  · exact ⟨rfl, List.prefix_refl _, by simp [arguments, addHash]⟩

/-- What adding arguments keeps. -/
theorem addArgs_writable {i i' : Invocation} {args : List Arg} (hi : i.hasWritableArguments)
    (hargs : ∀ a ∈ args, a.IsWritable) (h : i.addArgs args = .ok i') :
    i'.hasWritableArguments ∧ i'.name = i.name ∧ i.params <+: i'.params ∧
      (args ≠ [] → i'.arguments ≠ []) := by
  induction args generalizing i with
  | nil =>
    cases h
    exact ⟨hi, rfl, List.prefix_refl _, fun hne => absurd rfl hne⟩
  | cons arg args ih =>
    obtain ⟨harg, hargs⟩ := List.forall_mem_cons.1 hargs
    obtain ⟨i₁, hadd, h⟩ := ok_of_bind h
    obtain ⟨hname₁, hparams₁, hne₁⟩ := addArg_extends hadd
    obtain ⟨hi', hname, hparams, hne⟩ := ih (addArg_writable hi harg hadd) hargs h
    refine ⟨hi', hname.trans hname₁, hparams₁.trans hparams, fun _ => ?_⟩
    cases args with
    | nil =>
      cases h
      exact hne₁
    | cons => exact hne (List.cons_ne_nil _ _)

end Invocation

end BlogTheme.Template
