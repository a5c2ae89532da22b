import BlogTheme.Engine.Cache

/-!
# What caches hold

No two entries of a cache have one key, and each is as it was when it was put in
(`Cache.Holds`). Looking an entry up changes nothing but the order of the entries
(`Cache.get?_perm`); putting one in may drop others (`Cache.Holds.set`).
-/

namespace BlogTheme.Cache

variable {α : Type} {P : String → α → Prop} {c : Cache α} {key : String}

/-- The entries of a cache have different keys, and the thing under a key is as `P` says. -/
structure Holds (P : String → α → Prop) (c : Cache α) : Prop where
  distinct : (c.entries.map Prod.fst).Nodup
  entry : ∀ e ∈ c.entries, P e.1 e.2

/-- A cache without entries holds whatever is asked of them. -/
theorem Holds.of_entries_nil (h : c.entries = []) : c.Holds P where
  distinct := by simp [h]
  entry := by simp [h]

theorem Holds.clear : c.clear.Holds P :=
  .of_entries_nil rfl

theorem Holds.of_perm {c' : Cache α} (h : c.Holds P) (hperm : c'.entries.Perm c.entries) :
    c'.Holds P where
  distinct := (hperm.map Prod.fst).nodup_iff.2 h.distinct
  entry e he := h.entry e (hperm.mem_iff.1 he)

theorem without_of_not_mem {entries : List (String × α)} (h : key ∉ entries.map Prod.fst) :
    without key entries = entries := by
  refine List.filter_eq_self.2 fun e he => bne_iff_ne.2 ?_
  rintro rfl
  exact h (List.mem_map_of_mem he)

/-- The entry that is found, put in front of the others. -/
theorem lookup_perm {entries : List (String × α)} {a : α} (hd : (entries.map Prod.fst).Nodup)
    (h : entries.lookup key = some a) : ((key, a) :: without key entries).Perm entries := by
  induction entries with
  | nil => cases h
  | cons first rest ih =>
    obtain ⟨k, b⟩ := first
    obtain ⟨hk, hrest⟩ := List.nodup_cons.1 hd
    by_cases hkey : key = k
    · subst hkey
      rw [List.lookup_cons_self] at h
      cases h
      have hwithout : without key ((key, a) :: rest) = rest := by
        rw [without, List.filter_cons_of_neg (by simp)]
        exact without_of_not_mem hk
      rw [hwithout]
    · have hne : (key == k) = false := beq_false_of_ne hkey
      rw [List.lookup_cons, hne] at h
      have hwithout : without key ((k, b) :: rest) = (k, b) :: without key rest :=
        List.filter_cons_of_pos (bne_iff_ne.2 (Ne.symm hkey))
      rw [hwithout]
      exact (List.Perm.swap _ _ _).trans ((ih hrest h).cons _)

/-- Looking a thing up changes nothing but the order of the entries. -/
theorem get?_perm (h : c.Holds P) (key : String) :
    (c.get? key).2.entries.Perm c.entries := by
  unfold get?
  cases hfound : c.entries.lookup key with
  | none => exact .refl _
  | some a => exact lookup_perm h.distinct hfound

/-- The thing that is found under a key is as `P` says. -/
theorem Holds.of_get? (h : c.Holds P) {a : α} (hget : (c.get? key).1 = some a) : P key a := by
  unfold Cache.get? at hget
  cases hfound : c.entries.lookup key with
  | none => simp [hfound] at hget
  | some b =>
    simp only [hfound, Option.some.injEq] at hget
    subst hget
    exact h.entry (key, b) ((lookup_perm h.distinct hfound).mem_iff.1 (by simp))

theorem Holds.get? (h : c.Holds P) (key : String) : (c.get? key).2.Holds P :=
  h.of_perm (get?_perm h key)

/-- Putting a thing in that is as `P` says. -/
theorem Holds.set (h : c.Holds P) {a : α} (ha : P key a) : (c.set key a).Holds P := by
  have hsub : (c.set key a).entries.Sublist ((key, a) :: without key c.entries) :=
    List.take_sublist _ _
  have hwithout : (without key c.entries).Sublist c.entries := List.filter_sublist
  have hkey : key ∉ (without key c.entries).map Prod.fst := by
    simp [without]
  constructor
  · refine (hsub.map Prod.fst).nodup ?_
    exact List.nodup_cons.2 ⟨hkey, (hwithout.map Prod.fst).nodup h.distinct⟩
  · intro e he
    rcases List.mem_cons.1 (hsub.subset he) with rfl | he
    · exact ha
    · exact h.entry e (hwithout.subset he)

end BlogTheme.Cache
