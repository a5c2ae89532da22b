import BlogTheme.Json.Codec
import BlogTheme.Proofs.Outcome
import Mathlib.Data.List.Nodup

/-!
# What codecs keep

A codec keeps a value if it reads the value from the document that it writes (`Codec.Keeps`). A
structure is written with all its fields, and reading it sets each of them in turn
(`Record.read_write`); whatever document a structure is read from, it comes about by setting the
fields that the document gives (`Record.sets_of_read`).
-/

namespace BlogTheme.Json

namespace Codec

/-- The codec reads the value from the document that it writes for it. -/
def Keeps (c : Codec α) (a : α) : Prop :=
  c.decode (c.encode a) = .ok a

theorem keeps_string (s : String) : string.Keeps s := rfl

theorem keeps_bool (b : Bool) : bool.Keeps b := rfl

theorem integer_ofInt {low high n : Int} (hlow : low ≤ n) (hhigh : n ≤ high) :
    Decode.integer low high (ofInt n) = .ok n := by
  rw [ofInt, Decode.integer, if_pos ⟨hlow, hhigh⟩]

theorem keeps_int64 (n : Int64) : int64.Keeps n := by
  show (Decode.integer _ _ (ofInt n.toInt)).map Int64.ofInt = .ok n
  rw [integer_ofInt n.minValue_le_toInt n.toInt_le, Except.map, Int64.ofInt_toInt]

theorem keeps_uint32 (n : UInt32) : uint32.Keeps n := by
  have hhigh : (n.toNat : Int) ≤ 4294967295 := by
    have hlt := n.toNat_lt
    omega
  show (Decode.integer _ _ (ofInt n.toNat)).map (fun n => UInt32.ofNat n.toNat) = .ok n
  rw [integer_ofInt (Int.natCast_nonneg _) hhigh, Except.map, Int.toNat_natCast,
    UInt32.ofNat_toNat]

variable {c : Codec α}

/-- A value that is not written as `null` is told apart from none. -/
theorem Keeps.option {o : Option α} (hnull : ∀ a, c.encode a ≠ .null) (h : ∀ a ∈ o, c.Keeps a) :
    c.option.Keeps o := by
  cases o with
  | none => rfl
  | some a =>
    have hdecode : Decode.option c.decode (c.encode a) = (c.decode (c.encode a)).map some := by
      unfold Decode.option
      split
      · next heq => exact absurd heq (hnull a)
      · rfl
    have ha : c.decode (c.encode a) = .ok a := h a rfl
    show Decode.option c.decode (c.encode a) = .ok (some a)
    rw [hdecode, ha]
    rfl

theorem Keeps.list {as : List α} (h : ∀ a ∈ as, c.Keeps a) : c.list.Keeps as := by
  have hitems : Decode.items c.decode (as.map c.encode) = .ok as := by
    induction as with
    | nil => rfl
    | cons a as ih =>
      obtain ⟨ha, has⟩ := List.forall_mem_cons.1 h
      rw [List.map_cons, Decode.items, show c.decode (c.encode a) = .ok a from ha, ih has]
      rfl
  show Decode.list c.decode (ofList (as.map c.encode)) = .ok as
  rw [ofList, Decode.list, hitems]
  rfl

/-! ## Decoded options and lists -/

theorem of_option_decode {P : α → Prop} (h : ∀ {j a}, c.decode j = .ok a → P a) {j : Json}
    {o : Option α} (ho : c.option.decode j = .ok o) : ∀ a ∈ o, P a := by
  replace ho : Decode.option c.decode j = .ok o := ho
  unfold Decode.option at ho
  split at ho
  · cases ho
    simp
  · obtain ⟨a, ha, rfl⟩ := ok_of_map ho
    simpa using h ha

theorem of_list_decode {P : α → Prop} (h : ∀ {j a}, c.decode j = .ok a → P a) {j : Json}
    {as : List α} (has : c.list.decode j = .ok as) : ∀ a ∈ as, P a := by
  have hitems {js : List Json} {as : List α} (has : Decode.items c.decode js = .ok as) :
      ∀ a ∈ as, P a := by
    induction js generalizing as with
    | nil =>
      cases has
      simp
    | cons j js ih =>
      obtain ⟨a, ha, has⟩ := ok_of_bind has
      obtain ⟨rest, hrest, has⟩ := ok_of_bind has
      cases has
      exact List.forall_mem_cons.2 ⟨h ha, ih hrest⟩
  replace has : Decode.list c.decode j = .ok as := has
  unfold Decode.list at has
  split at has
  · obtain ⟨as', has', has⟩ := ok_of_bind has
    split at has
    · cases has
      exact hitems has'
    · cases has
  · cases has

/-! ## Fields -/

theorem field_set_of_keeps {get : σ → α} {put : α → σ → σ} {name : String} {s : σ}
    (h : c.Keeps (get s)) (t : σ) :
    (c.field name get put).set ((c.field name get put).get s) t = .ok (put (get s) t) := by
  show (c.decode (c.encode (get s))).map _ = _
  rw [show c.decode (c.encode (get s)) = .ok (get s) from h]
  rfl

end Codec

namespace Record

variable {fields : List (Member σ)}

/-! ## Structures written and read -/

theorem find?_name (h : (fields.map Member.name).Nodup) {field : Member σ} (hf : field ∈ fields) :
    fields.find? (·.name == field.name) = some field := by
  induction fields with
  | nil => cases hf
  | cons f fields ih =>
    rw [List.map_cons, List.nodup_cons] at h
    obtain rfl | hf := List.mem_cons.1 hf
    · exact List.find?_cons_of_pos (by simp)
    · have hne : f.name ≠ field.name := fun heq => h.1 (heq ▸ List.mem_map_of_mem hf)
      rw [List.find?_cons_of_neg (by simpa using hne), ih h.2 hf]

/-- The members that stand for some of the fields, of which none was read before, set these. -/
theorem readMembers_map {later : List (Member σ)}
    (hfind : ∀ f ∈ later, fields.find? (·.name == f.name) = some f)
    (h : (later.map Member.name).Nodup) {seen : List String} (hseen : ∀ f ∈ later, f.name ∉ seen)
    (s t : σ) :
    readMembers fields seen t (later.map fun f => (some f.name, f.get s)) =
      later.foldlM (fun t f => f.set (f.get s) t) t := by
  induction later generalizing seen t with
  | nil => rfl
  | cons f rest ih =>
    obtain ⟨hf, hrest⟩ := List.forall_mem_cons.1 hfind
    obtain ⟨hunseen, hothers⟩ := List.forall_mem_cons.1 hseen
    rw [List.map_cons, List.nodup_cons] at h
    have hnext : ∀ g ∈ rest, g.name ∉ f.name :: seen := by
      intro g hg hmem
      obtain heq | hmem := List.mem_cons.1 hmem
      · exact h.1 (heq ▸ List.mem_map_of_mem hg)
      · exact hothers g hg hmem
    have hcontains : seen.contains f.name = false := by simpa using hunseen
    rw [List.map_cons, readMembers, hf, List.foldlM_cons]
    simp only [hcontains, Bool.false_eq_true, if_false]
    exact congrArg (f.set (f.get s) t >>= ·) (funext fun t' => ih hrest h.2 hnext t')

/-- A structure is written with all its fields, in order. -/
theorem write_eq (fields : List (Member σ)) (s : σ) :
    write fields s = .object (fields.map fun f => (some f.name, f.get s)) none := by
  rw [write, ofMembers, List.map_map]
  rfl

/-- A structure that is read as it was written has every field set to its own value. -/
theorem read_write (h : (fields.map Member.name).Nodup) (start s : σ) :
    read fields start (write fields s) = fields.foldlM (fun t f => f.set (f.get s) t) start := by
  have hseen : ∀ f ∈ fields, f.name ∉ [] := fun _ _ => List.not_mem_nil
  have hmembers := readMembers_map (fun _ hf => find?_name h hf) h hseen s start
  rw [write_eq, read, hmembers]
  exact bind_pure _

/-- A structure is kept if setting every field to its own value, from the start, gives it. -/
theorem keeps_record (h : (fields.map Member.name).Nodup) {start s : σ}
    (hset : fields.foldlM (fun t f => f.set (f.get s) t) start = .ok s) :
    (Codec.record fields start).Keeps s :=
  (read_write h start s).trans hset

/-! ## Structures that are read -/

/-- The field that a member of an object is read into. -/
def memberField? (fields : List (Member σ)) (member : Option String × Json) : Option (Member σ) :=
  member.1.bind fun key => fields.find? (·.name == key)

/-- The fields that a document gives, in its order: those of the members of an object, or the first
ones for the items of an array. -/
def given (fields : List (Member σ)) : Json → List (Member σ)
  | .object members _ => members.filterMap (memberField? fields)
  | .array items _ => fields.take items.length
  | _ => []

theorem mem_of_mem_given {j : Json} {f : Member σ} (h : f ∈ given fields j) : f ∈ fields := by
  unfold given at h
  split at h
  · obtain ⟨member, -, h⟩ := List.mem_filterMap.1 h
    obtain ⟨key, -, h⟩ := Option.bind_eq_some_iff.1 h
    exact List.mem_of_find?_eq_some h
  · exact List.mem_of_mem_take h
  · cases h

/-- A written structure gives all its fields. -/
theorem given_write (h : (fields.map Member.name).Nodup) (s : σ) :
    given fields (write fields s) = fields := by
  have hfind : ∀ f ∈ fields, memberField? fields (some f.name, f.get s) = some f :=
    fun _ hf => find?_name h hf
  rw [write_eq, given, List.filterMap_map]
  exact (List.filterMap_congr hfind).trans List.filterMap_some

/-- Setting the fields `fs` one after the other, each from some document, leads from the one
structure to the other. -/
inductive Sets : List (Member σ) → σ → σ → Prop
  | nil (s : σ) : Sets [] s s
  | cons {f : Member σ} {fs : List (Member σ)} {j : Json} {s s' t : σ} :
    f.set j s = .ok s' → Sets fs s' t → Sets (f :: fs) s t

theorem sets_of_readMembers {members : List (Option String × Json)} {seen : List String} {s t : σ}
    (h : readMembers fields seen s members = .ok t) (cut : Option Break) :
    Sets (given fields (.object members cut)) s t := by
  induction members generalizing seen s with
  | nil =>
    cases h
    exact .nil _
  | cons member members ih =>
    obtain ⟨key, value⟩ := member
    cases key with
    | none => cases h
    | some key =>
      rw [readMembers] at h
      split at h
      · next hnone =>
        have hgiven : given fields (.object ((some key, value) :: members) cut) =
          given fields (.object members cut) :=
            List.filterMap_cons_none (f := memberField? fields) hnone
        rw [hgiven]
        split at h
        · cases h
        · exact ih h
      · next field hfield =>
        have hgiven : given fields (.object ((some key, value) :: members) cut) =
          field :: given fields (.object members cut) :=
            List.filterMap_cons_some (f := memberField? fields) hfield
        rw [hgiven]
        split at h
        · cases h
        · obtain ⟨s', hset, h⟩ := ok_of_bind h
          exact .cons hset (ih h)

theorem sets_of_readItems {items rest : List Json} {s t : σ}
    (h : readItems fields s items = .ok (t, rest)) :
    Sets (fields.take items.length) s t := by
  induction fields generalizing items s with
  | nil =>
    cases h
    rw [List.take_nil]
    exact .nil _
  | cons f fields ih =>
    cases items with
    | nil =>
      cases h
      exact .nil _
    | cons item items =>
      obtain ⟨s', hset, h⟩ := ok_of_bind h
      exact .cons hset (ih h)

/-- A structure that is read comes about by setting the fields that the document gives. -/
theorem sets_of_read {start s : σ} {j : Json} (h : read fields start j = .ok s) :
    Sets (given fields j) start s := by
  unfold read at h
  split at h
  · obtain ⟨t, ht, h⟩ := ok_of_bind h
    split at h
    · cases h
      exact sets_of_readMembers ht _
    · cases h
  · obtain ⟨⟨t, surplus⟩, ht, h⟩ := ok_of_bind h
    dsimp only at h
    split at h
    · cases h
    · split at h
      · cases h
        exact sets_of_readItems ht
      · cases h
  · cases h

variable {P : σ → Prop} {fs : List (Member σ)} {s t : σ}

/-- What every field keeps holds of the structure if it holds at the start. -/
theorem Sets.preserves (h : Sets fs s t)
    (hset : ∀ f ∈ fs, ∀ {j s s'}, f.set j s = .ok s' → P s → P s') (hs : P s) : P t := by
  induction h with
  | nil => exact hs
  | cons h _ ih =>
    obtain ⟨hf, hfs⟩ := List.forall_mem_cons.1 hset
    exact ih hfs (hf h hs)

/-- What one of the fields brings about and the others keep holds of the structure. -/
theorem Sets.establishes (h : Sets fs s t) {f : Member σ} (hf : f ∈ fs)
    (hbring : ∀ {j s s'}, f.set j s = .ok s' → P s')
    (hset : ∀ g ∈ fs, ∀ {j s s'}, g.set j s = .ok s' → P s → P s') : P t := by
  induction h with
  | nil => cases hf
  | cons h hrest ih =>
    obtain ⟨-, hfs⟩ := List.forall_mem_cons.1 hset
    obtain rfl | hf := List.mem_cons.1 hf
    · exact hrest.preserves hfs (hbring h)
    · exact ih hf hfs

end Record

end BlogTheme.Json
