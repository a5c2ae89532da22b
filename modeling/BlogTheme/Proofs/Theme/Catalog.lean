import BlogTheme.Theme.Catalog
import Mathlib.Data.List.Nodup

/-!
# What catalogs hold

Looking up a name finds the one thing of this name (`Catalog.find?_eq_some_iff`), and adding a thing
takes out at most the one of its name (`Catalog.mem_insert`). What names there are says in which
order they stand (`Catalog.names_eq`).
-/

namespace BlogTheme.Catalog

variable {α : Type} {name : α → String} {c c' : Catalog name} {a b : α} {n : String}

theorem names_ordered (c : Catalog name) : c.names.Pairwise (· < ·) :=
  List.pairwise_map.2 c.ordered

theorem names_nodup (c : Catalog name) : c.names.Nodup :=
  c.names_ordered.imp fun h => String.ne_of_lt h

/-- No two things in a catalog have one name. -/
theorem eq_of_name_eq (ha : a ∈ c.items) (hb : b ∈ c.items) (h : name a = name b) : a = b :=
  List.inj_on_of_nodup_map c.names_nodup ha hb h

theorem mem_of_find? (h : c.find? n = some a) : a ∈ c.items :=
  List.mem_of_find?_eq_some h

theorem name_of_find? (h : c.find? n = some a) : name a = n :=
  beq_iff_eq.1 (List.find?_some (p := fun b => name b == n) h)

theorem find?_eq_some_iff : c.find? n = some a ↔ a ∈ c.items ∧ name a = n := by
  refine ⟨fun h => ⟨mem_of_find? h, name_of_find? h⟩, fun ⟨ha, hname⟩ => ?_⟩
  cases hfind : c.find? n with
  | none => exact absurd (beq_iff_eq.2 hname) (List.find?_eq_none.1 hfind a ha)
  | some b => rw [eq_of_name_eq (mem_of_find? hfind) ha ((name_of_find? hfind).trans hname.symm)]

theorem find?_eq_none_iff : c.find? n = none ↔ n ∉ c.names := by
  simp [find?, names]

theorem mem_place {bs : List α} (h : bs.Pairwise fun x y => name x < name y) :
    b ∈ place name a bs ↔ b = a ∨ b ∈ bs ∧ name b ≠ name a := by
  induction bs with
  | nil => simp [place]
  | cons d bs ih =>
    obtain ⟨hd, hbs⟩ := List.pairwise_cons.1 h
    rw [place]
    split
    · -- Everything from `d` on comes after `a`.
      rename_i hlt
      have hne : b ∈ d :: bs → name b ≠ name a := by
        rintro (_ | ⟨_, hb⟩)
        · exact (String.ne_of_lt hlt).symm
        · exact (String.ne_of_lt (String.lt_trans hlt (hd b hb))).symm
      rw [List.mem_cons, and_iff_left_of_imp hne]
    · split
      · -- `d` is the one of this name.
        rename_i heq
        have hne : b ∈ bs → name b ≠ name a := fun hb => by
          rw [heq]
          exact (String.ne_of_lt (hd b hb)).symm
        grind
      · grind

/-- A thing that is added takes the place of the one of its name. -/
theorem mem_insert : b ∈ (c.insert a).items ↔ b = a ∨ b ∈ c.items ∧ name b ≠ name a :=
  mem_place c.ordered

theorem mem_names_iff : n ∈ c.names ↔ ∃ a ∈ c.items, name a = n :=
  List.mem_map

/-- The same names stand in the same order. -/
theorem names_eq {β : Type} {name' : β → String} {d : Catalog name'}
    (h : ∀ n, n ∈ c.names ↔ n ∈ d.names) : c.names = d.names :=
  ((List.perm_ext_iff_of_nodup c.names_nodup d.names_nodup).2 h).eq_of_pairwise
    (fun _ _ _ _ hlt hgt => absurd hgt (String.lt_asymm hlt)) c.names_ordered d.names_ordered

end BlogTheme.Catalog
