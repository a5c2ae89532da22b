/-!
# Catalogs

A catalog holds things that have names, at most one of each name, in the order
of the names. What it answers depends only on what it holds, not on how it was
filled.
-/

namespace BlogTheme

/-- Things in the order of their names, no two of one name. -/
structure Catalog {α : Type} (name : α → String) where
  items : List α
  ordered : items.Pairwise fun a b => name a < name b

namespace Catalog

variable {α : Type} {name : α → String}

/-- The catalog that holds nothing. -/
def empty : Catalog name :=
  { items := [], ordered := .nil }

instance : Inhabited (Catalog name) := ⟨empty⟩

/-- Puts `a` into a list in the order of names, in place of one of its name. -/
def place (name : α → String) (a : α) : List α → List α
  | [] => [a]
  | b :: bs =>
    if name a < name b then a :: b :: bs
    else if name a = name b then a :: bs
    else b :: place name a bs

theorem mem_of_mem_place {a x : α} {bs : List α} (h : x ∈ place name a bs) :
    x = a ∨ x ∈ bs := by
  induction bs with
  | nil => simpa [place] using h
  | cons b bs ih =>
    simp only [place] at h
    split at h
    · simpa using h
    · split at h <;> grind

theorem place_ordered (a : α) {bs : List α} (h : bs.Pairwise fun x y => name x < name y) :
    (place name a bs).Pairwise fun x y => name x < name y := by
  induction bs with
  | nil => simp [place]
  | cons b bs ih =>
    have hb := List.pairwise_cons.1 h
    simp only [place]
    split
    · refine List.pairwise_cons.2 ⟨fun x hx => ?_, h⟩
      rcases List.mem_cons.1 hx with rfl | hx
      · assumption
      · exact String.lt_trans ‹_› (hb.1 x hx)
    · split
      · exact List.pairwise_cons.2 ⟨fun x hx => by simp_all, hb.2⟩
      · refine List.pairwise_cons.2 ⟨fun x hx => ?_, ih hb.2⟩
        rcases mem_of_mem_place hx with rfl | hx
        · grind
        · exact hb.1 x hx

/-- Adds a thing, in place of an earlier one of its name. -/
def insert (c : Catalog name) (a : α) : Catalog name :=
  { items := place name a c.items, ordered := place_ordered a c.ordered }

/-- Takes out the thing of a name. -/
def erase (c : Catalog name) (n : String) : Catalog name :=
  { items := c.items.filter (fun a => name a != n), ordered := c.ordered.filter _ }

/-- The thing of a name. -/
def find? (c : Catalog name) (n : String) : Option α :=
  c.items.find? (fun a => name a == n)

/-- The names of what it holds, in order. -/
def names (c : Catalog name) : List String :=
  c.items.map name

/-- The number of things it holds. -/
def size (c : Catalog name) : Nat :=
  c.items.length

/-- Whether it holds nothing. -/
def isEmpty (c : Catalog name) : Bool :=
  c.items.isEmpty

end Catalog

end BlogTheme
