import BlogTheme.Proofs.Json.Codec
import BlogTheme.Proofs.Json.Scalar

/-!
# Documents read from their text

A document that breaks off nowhere is read from its text (`read_write`), and so it is decoded from
its text as it is (`decode_write`). Codecs write such documents (`Codec.WritesWhole`).
-/

namespace BlogTheme.Json

open BlogTheme.Text

/-! ## Whole documents -/

mutual

/-- The document breaks off nowhere, and all its strings have values. -/
def IsWhole : Json → Prop
  | .string s => s.isSome
  | .array items cut => ItemsWhole items ∧ cut = none
  | .object members cut => MembersWhole members ∧ cut = none
  | .broken _ => False
  | _ => True

@[inherit_doc IsWhole]
def ItemsWhole : List Json → Prop
  | [] => True
  | item :: items => IsWhole item ∧ ItemsWhole items

@[inherit_doc IsWhole]
def MembersWhole : List (Option String × Json) → Prop
  | [] => True
  | (key, value) :: members => key.isSome ∧ IsWhole value ∧ MembersWhole members

end

/-! ## Texts of documents -/

/-- The characters of the items of an array, without its brackets. -/
def itemsText (items : List Json) : List Char :=
  [','].intercalate ((writeItems items).map String.toList)

/-- The characters of the members of an object, without its braces. -/
def membersText (members : List (Option String × Json)) : List Char :=
  [','].intercalate ((writeMembers members).map String.toList)

theorem toList_writeString (s : String) :
    (writeString s).toList = '"' :: (s.toList.flatMap writeChar ++ ['"']) := by
  rw [writeString, String.toList_ofList, List.cons_append]

theorem toList_write_array (items : List Json) (cut : Option Break) :
    (write (.array items cut)).toList = '[' :: (itemsText items ++ [']']) := by
  simp [write, itemsText, String.toList_intercalate]

theorem toList_write_object (members : List (Option String × Json)) (cut : Option Break) :
    (write (.object members cut)).toList = '\x7b' :: (membersText members ++ ['\x7d']) := by
  simp [write, membersText, String.toList_intercalate]

theorem itemsText_cons_cons (j k : Json) (items : List Json) :
    itemsText (j :: k :: items) = j.write.toList ++ ',' :: itemsText (k :: items) := by
  simp only [itemsText, writeItems, List.map_cons, List.intercalate_cons_cons, List.append_assoc,
    List.cons_append, List.nil_append]

theorem itemsText_singleton (j : Json) : itemsText [j] = j.write.toList := by
  simp only [itemsText, writeItems, List.map_cons, List.map_nil, List.intercalate_singleton]

/-- The characters of a member of an object. -/
def memberText (key : Option String) (value : Json) : List Char :=
  '"' :: ((key.getD "").toList.flatMap writeChar ++ '"' :: ':' :: value.write.toList)

theorem toList_memberText (key : Option String) (value : Json) :
    (writeString (key.getD "") ++ ":" ++ write value).toList = memberText key value := by
  simp [toList_writeString, memberText]

theorem membersText_singleton (key : Option String) (value : Json) :
    membersText [(key, value)] = memberText key value := by
  simp only [membersText, writeMembers, List.map_cons, List.map_nil, List.intercalate_singleton,
    toList_memberText]

theorem membersText_cons_cons (key : Option String) (value : Json)
    (member : Option String × Json) (members : List (Option String × Json)) :
    membersText ((key, value) :: member :: members) =
      memberText key value ++ ',' :: membersText (member :: members) := by
  simp only [membersText, writeMembers, List.map_cons, List.intercalate_cons_cons,
    toList_memberText, List.append_assoc, List.cons_append, List.nil_append]

theorem memberText_append (key : String) (value : Json) (rest : List Char) :
    memberText (some key) value ++ rest =
      '"' :: (key.toList.flatMap writeChar ++ '"' :: ':' :: (value.write.toList ++ rest)) := by
  simp only [memberText, Option.getD_some, List.cons_append, List.append_assoc]

theorem length_memberText (key : Option String) (value : Json) :
    value.write.toList.length < (memberText key value).length := by
  simp only [memberText, List.length_cons, List.length_append]
  omega

/-- The text of an object begins with the quote of its first key. -/
theorem head_membersText (member : Option String × Json) (members : List (Option String × Json))
    (rest : List Char) : ∃ cs, membersText (member :: members) ++ rest = '"' :: cs := by
  obtain ⟨key, value⟩ := member
  cases members with
  | nil => exact ⟨_, by rw [membersText_singleton, memberText, List.cons_append]⟩
  | cons next members => exact ⟨_, by rw [membersText_cons_cons, memberText, List.cons_append]; rfl⟩

/-- The text of a document begins with no blank, and with no bracket that closes an array. -/
theorem head_write (j : Json) : ∃ c cs, j.write.toList = c :: cs ∧ c ≠ ']' ∧
    (c == ' ' || c == '\n' || c == '\t' || c == '\r') = false := by
  have hsigned {c : Char} (h : c = '-' ∨ isDigit c) : c ≠ ']' ∧
      (c == ' ' || c == '\n' || c == '\t' || c == '\r') = false := by
    have hne {d : Char} (hd : d ≠ '-' ∧ isDigit d = false) : c ≠ d := by
      rintro rfl
      simp [hd] at h
    simp only [Bool.or_eq_false_iff, beq_eq_false_iff_ne]
    exact ⟨hne (by decide), ⟨⟨hne (by decide), hne (by decide)⟩, hne (by decide)⟩, hne (by decide)⟩
  cases j with
  | null => exact ⟨'n', _, rfl, by decide, rfl⟩
  | bool b => cases b <;> exact ⟨_, _, rfl, by decide, rfl⟩
  | number n =>
    cases n with
    | integer n =>
      obtain ⟨c, cs, hcs, hc⟩ := head_intDigits n
      exact ⟨c, cs, by simp [write, showInt, hcs], hsigned hc⟩
    | real m e =>
      obtain ⟨c, cs, hcs, hc⟩ := head_intDigits m
      exact ⟨c, _, by simp [write, showInt, hcs]; rfl, hsigned hc⟩
  | string s =>
    cases s with
    | none => exact ⟨'n', _, rfl, by decide, rfl⟩
    | some s => exact ⟨'"', _, toList_writeString s, by decide, rfl⟩
  | array items cut => exact ⟨'[', _, toList_write_array items cut, by decide, rfl⟩
  | object members cut => exact ⟨'\x7b', _, toList_write_object members cut, by decide, rfl⟩
  | broken b => exact ⟨'n', _, by rw [write]; rfl, by decide, rfl⟩

/-! ## Reading -/

theorem value_digits (fuel n : Nat) (rest : List Char) :
    value (fuel + 1) (digits n ++ rest) = scalar .number (magnitude false (digits n ++ rest)) := by
  obtain ⟨c, ds, hds, hc⟩ := head_digits n
  have hne {d : Char} (hd : isDigit d = false) (cs : List Char) : c :: (ds ++ rest) ≠ d :: cs := by
    rw [← List.cons_append, ← hds]
    exact digits_append_ne hd n rest cs
  have hblank : skipBlanks (c :: (ds ++ rest)) = c :: (ds ++ rest) := by
    refine List.dropWhile_cons_of_neg ?_
    simp only [Bool.or_eq_true, beq_iff_eq]
    rintro (((rfl | rfl) | rfl) | rfl) <;> cases hc
  rw [hds, List.cons_append, value, hblank]
  split
  · next heq => cases heq
  · next heq => exact absurd heq (hne (by decide) _)
  · next heq => exact absurd heq (hne (by decide) _)
  · next heq => exact absurd heq (hne (by decide) _)
  · next heq => exact absurd heq (hne (by decide) _)
  · next heq => exact absurd heq (hne (by decide) _)
  · next heq => exact absurd heq (hne (by decide) _)
  · next heq => exact absurd heq (hne (by decide) _)
  · next heq =>
    cases heq
    rw [if_pos hc]

/-- A number without point and exponent is read as it was written. -/
theorem value_integer (n : Int) (fuel : Nat) {rest : List Char} (hrest : EndsNumber rest) :
    value (fuel + 1) (intDigits n ++ rest) = (.number (.integer n), some rest) := by
  by_cases hneg : n < 0
  · have habs : -(n.natAbs : Int) = n := by omega
    have hread : magnitude true (digits n.natAbs ++ rest) =
        .ok (.integer (-(n.natAbs : Int)), rest) :=
      magnitude_integer (fun _ => show n.natAbs ≠ 0 by omega) hrest
    rw [intDigits, if_pos hneg]
    show scalar .number (magnitude true (digits n.natAbs ++ rest)) = _
    rw [hread, habs]
    rfl
  · have habs : (n.natAbs : Int) = n := by omega
    have hread : magnitude false (digits n.natAbs ++ rest) = .ok (.integer n.natAbs, rest) :=
      magnitude_integer (fun h => absurd h Bool.false_ne_true) hrest
    rw [intDigits, if_neg hneg, value_digits, hread, habs]
    rfl

theorem value_real (m e : Int) (fuel : Nat) {rest : List Char} (hrest : EndsNumber rest) :
    value (fuel + 1) (intDigits m ++ 'e' :: (intDigits e ++ rest)) =
      (.number (.real m e), some rest) := by
  by_cases hneg : m < 0
  · have habs : -(m.natAbs : Int) = m := by omega
    rw [intDigits, if_pos hneg]
    show scalar .number (magnitude true (digits m.natAbs ++ 'e' :: (intDigits e ++ rest))) = _
    rw [magnitude_real e hrest, if_pos rfl, habs]
    rfl
  · have habs : (m.natAbs : Int) = m := by omega
    rw [intDigits, if_neg hneg, value_digits, magnitude_real e hrest, if_neg Bool.false_ne_true,
      habs]
    rfl

theorem value_string (s : String) (fuel : Nat) (rest : List Char) :
    value (fuel + 1) ((writeString s).toList ++ rest) = (.string (some s), some rest) := by
  rw [toList_writeString, List.cons_append, List.append_assoc, List.singleton_append]
  show scalar _ (stringFrom _ [] true (s.toList.flatMap writeChar ++ '"' :: rest)) = _
  rw [stringFrom_writeString]
  rfl

theorem endsNumber_cons {c : Char} (h : isDigit c = false ∧ c ≠ '.' ∧ c ≠ 'e' ∧ c ≠ 'E')
    (rest : List Char) : EndsNumber (c :: rest) := by
  rintro d ⟨⟩
  exact h

/-- The text of a document is not empty. -/
theorem length_write_pos (j : Json) : 0 < j.write.toList.length := by
  obtain ⟨c, cs, hcs, -⟩ := head_write j
  rw [hcs, List.length_cons]
  exact Nat.succ_pos _

/-- The text can begin an item of an array: no blank, no closing bracket, and not the end. -/
structure BeginsItem (cs : List Char) : Prop where
  skipBlanks_eq : skipBlanks cs = cs
  ne_nil : cs ≠ []
  ne_bracket : ∀ rest, cs ≠ ']' :: rest

theorem beginsItem_write (j : Json) (rest : List Char) : BeginsItem (j.write.toList ++ rest) := by
  obtain ⟨c, cs, hcs, hbracket, hblank⟩ := head_write j
  rw [hcs, List.cons_append]
  exact {
    skipBlanks_eq := List.dropWhile_cons_of_neg (by simp only [hblank]; decide)
    ne_nil := List.cons_ne_nil _ _
    ne_bracket := fun _ heq => hbracket (List.cons.inj heq).1 }

theorem beginsItem_itemsText (item : Json) (items : List Json) (rest : List Char) :
    BeginsItem (itemsText (item :: items) ++ rest) := by
  cases items with
  | nil =>
    rw [itemsText_singleton]
    exact beginsItem_write item rest
  | cons next items =>
    rw [itemsText_cons_cons, List.append_assoc]
    exact beginsItem_write item _

section

variable {fuel : Nat} {cs next rest : List Char}

theorem value_array {items : List Json} (hcs : BeginsItem cs)
    (h : arrayItems fuel cs = ((items, none), some rest)) :
    value (fuel + 1) ('[' :: cs) = (.array items none, some rest) := by
  have hopen : skipBlanks ('[' :: cs) = '[' :: cs := rfl
  rw [value, hopen]
  simp only [hcs.skipBlanks_eq]
  split
  · next heq => exact absurd rfl hcs.ne_nil
  · next heq => exact absurd rfl (hcs.ne_bracket _)
  · rw [h]

theorem arrayItems_last {item : Json} (h : value fuel cs = (item, some (']' :: rest))) :
    arrayItems (fuel + 1) cs = (([item], none), some rest) := by
  have hclose : skipBlanks (']' :: rest) = ']' :: rest := rfl
  rw [arrayItems, h]
  simp only [hclose]

theorem arrayItems_next {item : Json} {items : List Json}
    (h : value fuel cs = (item, some (',' :: next))) (hnext : BeginsItem next)
    (hitems : arrayItems fuel next = ((items, none), some rest)) :
    arrayItems (fuel + 1) cs = ((item :: items, none), some rest) := by
  have hcomma : skipBlanks (',' :: next) = ',' :: next := rfl
  rw [arrayItems, h]
  simp only [hcomma, hnext.skipBlanks_eq]
  split
  · next heq => exact absurd rfl hnext.ne_nil
  · next heq => exact absurd rfl (hnext.ne_bracket _)
  · rw [hitems]

theorem value_object {members : List (Option String × Json)}
    (h : objectMembers fuel ('"' :: cs) = ((members, none), some rest)) :
    value (fuel + 1) ('\x7b' :: '"' :: cs) = (.object members none, some rest) := by
  have hopen : skipBlanks ('\x7b' :: '"' :: cs) = '\x7b' :: '"' :: cs := rfl
  have hquote : skipBlanks ('"' :: cs) = '"' :: cs := rfl
  rw [value, hopen]
  simp only [hquote]
  show (Json.object (objectMembers fuel _).1.1 (objectMembers fuel _).1.2,
    (objectMembers fuel _).2) = _
  rw [h]

variable {key : Option String} {v : Json} {text : List Char}

theorem objectMembers_last
    (hkey : stringFrom (cs.length + 1) [] true cs = .ok (key, ':' :: text))
    (h : value fuel text = (v, some ('\x7d' :: rest))) :
    objectMembers (fuel + 1) ('"' :: cs) = (([(key, v)], none), some rest) := by
  have hcolon : skipBlanks (':' :: text) = ':' :: text := rfl
  have hclose : skipBlanks ('\x7d' :: rest) = '\x7d' :: rest := rfl
  rw [objectMembers]
  simp only [hkey, hcolon, h, hclose]

theorem objectMembers_next {members : List (Option String × Json)}
    (hkey : stringFrom (cs.length + 1) [] true cs = .ok (key, ':' :: text))
    (h : value fuel text = (v, some (',' :: '"' :: next)))
    (hmembers : objectMembers fuel ('"' :: next) = ((members, none), some rest)) :
    objectMembers (fuel + 1) ('"' :: cs) = (((key, v) :: members, none), some rest) := by
  have hcolon : skipBlanks (':' :: text) = ':' :: text := rfl
  have hcomma : skipBlanks (',' :: '"' :: next) = ',' :: '"' :: next := rfl
  have hquote : skipBlanks ('"' :: next) = '"' :: next := rfl
  rw [objectMembers]
  simp only [hkey, hcolon, h, hcomma, hquote, hmembers]

end

-- By induction on the document. The text has at least as many characters as the reader needs steps,
-- since the brackets of an array or an object, and every comma in it, pay for one step each.
mutual

/-- A whole document is read from its text, and what follows it is left. -/
theorem value_write (j : Json) (h : j.IsWhole) {fuel : Nat}
    (hfuel : j.write.toList.length ≤ fuel) (rest : List Char) (hrest : EndsNumber rest) :
    value fuel (j.write.toList ++ rest) = (j, some rest) := by
  obtain ⟨fuel, rfl⟩ := Nat.exists_eq_add_one.2 ((length_write_pos j).trans_le hfuel)
  cases j with
  | null => rfl
  | bool b => cases b <;> rfl
  | number n =>
    cases n with
    | integer n => rw [write, showInt, String.toList_ofList, value_integer n fuel hrest]
    | real m e =>
      have hread := value_real m e fuel hrest
      simpa [write, showInt] using hread
  | string s =>
    obtain ⟨s, rfl⟩ := Option.isSome_iff_exists.1 h
    exact value_string s fuel rest
  | array items cut =>
    obtain ⟨hitems, rfl⟩ := h
    rw [toList_write_array] at hfuel ⊢
    cases items with
    | nil => rfl
    | cons item items =>
      have hlength : (itemsText (item :: items)).length < fuel := by
        simp only [List.length_cons, List.length_append, List.length_nil] at hfuel
        omega
      have hread := arrayItems_write (item :: items) hitems (List.cons_ne_nil _ _) hlength rest
      rw [List.cons_append, List.append_assoc, List.singleton_append]
      exact value_array (beginsItem_itemsText item items _) hread
  | object members cut =>
    obtain ⟨hmembers, rfl⟩ := h
    rw [toList_write_object] at hfuel ⊢
    cases members with
    | nil => rfl
    | cons member members =>
      have hlength : (membersText (member :: members)).length < fuel := by
        simp only [List.length_cons, List.length_append, List.length_nil] at hfuel
        omega
      have hread := objectMembers_write (member :: members) hmembers (List.cons_ne_nil _ _) hlength
        rest
      obtain ⟨text, htext⟩ := head_membersText member members ('\x7d' :: rest)
      rw [List.cons_append, List.append_assoc, List.singleton_append]
      rw [htext] at hread ⊢
      exact value_object hread
  | broken b => exact h.elim

/-- The items of an array are read up to its closing bracket. -/
theorem arrayItems_write (items : List Json) (h : ItemsWhole items) (hne : items ≠ [])
    {fuel : Nat} (hfuel : (itemsText items).length < fuel) (rest : List Char) :
    arrayItems fuel (itemsText items ++ ']' :: rest) = ((items, none), some rest) := by
  obtain ⟨fuel, rfl⟩ := Nat.exists_eq_add_one.2 (Nat.zero_lt_of_lt hfuel)
  cases items with
  | nil => exact absurd rfl hne
  | cons item items =>
    have hitem {rest : List Char} (hle : item.write.toList.length ≤ fuel) :=
      value_write item h.1 hle rest
    have hitems (hne : items ≠ []) (hlt : (itemsText items).length < fuel) :=
      arrayItems_write items h.2 hne hlt rest
    cases items with
    | nil =>
      rw [itemsText_singleton] at hfuel ⊢
      exact arrayItems_last (hitem (Nat.le_of_lt_succ hfuel) (endsNumber_cons (by decide) _))
    | cons next items =>
      rw [itemsText_cons_cons] at hfuel ⊢
      simp only [List.length_append, List.length_cons] at hfuel
      rw [List.append_assoc, List.cons_append]
      exact arrayItems_next (hitem (by omega) (endsNumber_cons (by decide) _))
        (beginsItem_itemsText next items _) (hitems (List.cons_ne_nil _ _) (by omega))

/-- The members of an object are read up to its closing brace. -/
theorem objectMembers_write (members : List (Option String × Json)) (h : MembersWhole members)
    (hne : members ≠ []) {fuel : Nat} (hfuel : (membersText members).length < fuel)
    (rest : List Char) :
    objectMembers fuel (membersText members ++ '\x7d' :: rest) =
      ((members, none), some rest) := by
  obtain ⟨fuel, rfl⟩ := Nat.exists_eq_add_one.2 (Nat.zero_lt_of_lt hfuel)
  cases members with
  | nil => exact absurd rfl hne
  | cons member members =>
    obtain ⟨key, v⟩ := member
    obtain ⟨key, rfl⟩ := Option.isSome_iff_exists.1 h.1
    have hv {rest : List Char} (hle : v.write.toList.length ≤ fuel) :=
      value_write v h.2.1 hle rest
    have hmembers (hne : members ≠ []) (hlt : (membersText members).length < fuel) :=
      objectMembers_write members h.2.2 hne hlt rest
    cases members with
    | nil =>
      rw [membersText_singleton] at hfuel ⊢
      have hlength := length_memberText (some key) v
      rw [memberText_append]
      exact objectMembers_last (stringFrom_writeString _ _)
        (hv (by omega) (endsNumber_cons (by decide) _))
    | cons next members =>
      rw [membersText_cons_cons] at hfuel ⊢
      have hlength := length_memberText (some key) v
      simp only [List.length_append, List.length_cons] at hfuel
      have hnext := hmembers (List.cons_ne_nil _ _) (by omega)
      obtain ⟨text, htext⟩ := head_membersText next members ('\x7d' :: rest)
      rw [List.append_assoc, List.cons_append, memberText_append]
      rw [htext] at hnext ⊢
      exact objectMembers_next (stringFrom_writeString _ _)
        (hv (by omega) (endsNumber_cons (by decide) _)) hnext

end

/-- The text of a whole document is read as the document. -/
theorem read_write {j : Json} (h : j.IsWhole) : read j.write = (j, some []) := by
  have hread := value_write j h (Nat.le_succ _) [] nofun
  rw [List.append_nil] at hread
  exact hread

/-- A whole document is decoded from its text as it is. -/
theorem decode_write {j : Json} (h : j.IsWhole) (decoder : Decoder α) :
    decode decoder j.write = decoder j := by
  rw [decode, read_write h]
  exact bind_pure _

/-! ## Codecs -/

/-- The codec writes every value as a whole document. -/
def Codec.WritesWhole (c : Codec α) : Prop :=
  ∀ a, (c.encode a).IsWhole

/-- The field has a whole document for its value, whatever the structure. -/
def Member.WritesWhole (f : Member σ) : Prop :=
  ∀ s, (f.get s).IsWhole

namespace Codec

theorem writesWhole_string : string.WritesWhole := fun _ => rfl

theorem writesWhole_bool : bool.WritesWhole := fun _ => trivial

theorem writesWhole_int64 : int64.WritesWhole := fun _ => trivial

theorem writesWhole_uint32 : uint32.WritesWhole := fun _ => trivial

variable {c : Codec α}

theorem WritesWhole.option (h : c.WritesWhole) : c.option.WritesWhole
  | none => trivial
  | some a => h a

theorem WritesWhole.list (h : c.WritesWhole) : c.list.WritesWhole := by
  intro as
  have hitems : ItemsWhole (as.map c.encode) := by
    induction as with
    | nil => trivial
    | cons a as ih => exact ⟨h a, ih⟩
  exact ⟨hitems, rfl⟩

theorem WritesWhole.field (h : c.WritesWhole) {name : String} {get : σ → α} {put : α → σ → σ} :
    (c.field name get put).WritesWhole :=
  fun s => h (get s)

theorem writesWhole_record {fields : List (Member σ)} (h : ∀ f ∈ fields, f.WritesWhole)
    (start : σ) : (record fields start).WritesWhole := by
  intro s
  have hmembers : MembersWhole (fields.map fun f => (some f.name, f.get s)) := by
    induction fields with
    | nil => trivial
    | cons f fields ih =>
      obtain ⟨hf, hfields⟩ := List.forall_mem_cons.1 h
      exact ⟨rfl, hf s, ih hfields⟩
  show (Record.write fields s).IsWhole
  rw [Record.write_eq]
  exact ⟨hmembers, rfl⟩

end Codec

end BlogTheme.Json
