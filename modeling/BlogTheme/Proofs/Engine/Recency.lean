import BlogTheme.Engine.Cache
import Mathlib.Data.Finset.Card
import Mathlib.Data.List.Dedup

/-!
# What a cache keeps

The entries of a cache that started empty are those used last: as long as nothing is taken out,
its keys are the keys used so far, each at the place of its last use, those used last in front,
up to its capacity (`Cache.Recent`). This is an invariant of the accesses
(`Cache.Recent.access`), and a run of them carries it along with the keys that it uses
(`Cache.Recent.run`). So a key is held if fewer other keys than the cache has room for were used
since its own last use (`Cache.memory_keeps_recent`).
-/

namespace BlogTheme.Cache

variable {α : Type} {c : Cache α} {key other : String} {a : α} {past : List String}

/-- What uses a cache or asks it something. -/
inductive Access (α : Type) where
  | set (key : String) (a : α)
  | get (key : String)
  | getFresh (fresh : α → Bool) (key : String)
  | contains (key : String)

/-- What can be done with a cache. -/
inductive Operation (α : Type) where
  | access (access : Access α)
  | remove (key : String)
  | clear

/-- The cache after an access. -/
def access (c : Cache α) : Access α → Cache α
  | .set key a => c.set key a
  | .get key => (c.get? key).2
  | .getFresh fresh key => (c.getFresh? fresh key).2
  | .contains _ => c

/-- The cache after an operation. -/
def perform (c : Cache α) : Operation α → Cache α
  | .access access => c.access access
  | .remove key => c.remove key
  | .clear => c.clear

/-- The key that an access uses. A key that is looked up is used if it is held, also if what is
found under it is no longer fresh. -/
def use? (c : Cache α) : Access α → Option String
  | .set key _ => some key
  | .get key | .getFresh _ key => if c.contains key then some key else none
  | .contains _ => none

/-- The keys that accesses use one after another. -/
def uses (c : Cache α) : List (Access α) → List String
  | [] => []
  | access :: accesses => (c.use? access).toList ++ (c.access access).uses accesses

/-- The keys of the entries, those used last in front. -/
def keys (c : Cache α) : List String :=
  c.entries.map Prod.fst

/-! ## Single steps -/

theorem contains_iff_mem_keys : c.contains key ↔ key ∈ c.keys := by
  simp only [contains, keys, List.lookup_isSome_iff, beq_iff_eq, List.mem_map]
  exact ⟨fun ⟨e, he, h⟩ => ⟨e, he, h.symm⟩, fun ⟨e, he, h⟩ => ⟨e, he, h.symm⟩⟩

theorem get?_fst (c : Cache α) (key : String) : (c.get? key).1 = c.entries.lookup key := by
  unfold get?
  cases c.entries.lookup key <;> rfl

/-- Looking up a key that is not held changes nothing. -/
theorem get?_of_not_contains (h : c.contains key = false) : c.get? key = (none, c) := by
  have hnone : c.entries.lookup key = none := by simpa [contains] using h
  simp [get?, hnone]

theorem length_get?_le (c : Cache α) (key : String) :
    (c.get? key).2.entries.length ≤ c.entries.length := by
  unfold get?
  cases hfound : c.entries.lookup key with
  | none => exact le_rfl
  | some a =>
    obtain ⟨e, he, hkey⟩ := List.lookup_isSome_iff.1 (Option.isSome_of_eq_some hfound)
    exact List.length_filter_lt_length_iff_exists.2 ⟨e, he, by simp [beq_iff_eq.1 hkey]⟩

/-- Things under other keys are found without an entry. -/
theorem lookup_without (entries : List (String × α)) (h : other ≠ key) :
    (without key entries).lookup other = entries.lookup other := by
  induction entries with
  | nil => rfl
  | cons e rest ih =>
    obtain ⟨k, b⟩ := e
    by_cases hk : k = key
    · subst hk
      rw [without, List.filter_cons_of_neg (by simp), List.lookup_cons, beq_false_of_ne h]
      exact ih
    · rw [without, List.filter_cons_of_pos (by simpa using hk), List.lookup_cons, List.lookup_cons]
      split
      · rfl
      · exact ih

/-- In front of the others an entry is found under its key, and they under theirs. -/
theorem lookup_front (entries : List (String × α)) (key other : String) (a : α) :
    ((key, a) :: without key entries).lookup other =
      if other = key then some a else entries.lookup other := by
  split
  · next h => rw [h, List.lookup_cons_self]
  · next h =>
    rw [List.lookup_cons, beq_false_of_ne h]
    exact lookup_without _ h

/-- A thing found among the first entries is found among all. -/
theorem lookup_take {entries : List (String × α)} {n : Nat}
    (h : (entries.take n).lookup key = some a) : entries.lookup key = some a := by
  rw [← List.take_append_drop n entries, List.lookup_append, h]
  rfl

/-- Looking a key up leaves the thing under every key. -/
theorem lookup_get? (c : Cache α) (key other : String) :
    (c.get? key).2.entries.lookup other = c.entries.lookup other := by
  unfold get?
  cases hfound : c.entries.lookup key with
  | none => rfl
  | some a =>
    refine (lookup_front c.entries key other a).trans ?_
    split
    · next h => rw [h, hfound]
    · rfl

theorem contains_remove (c : Cache α) (h : other ≠ key) :
    (c.remove key).contains other = c.contains other := by
  rw [contains, remove, lookup_without _ h, contains]

/-- What is found under a key after an access was put in by it, or was there before and the
access put nothing in under this key. -/
theorem lookup_access {access : Access α} (h : (c.access access).entries.lookup key = some a) :
    access = .set key a ∨ (∀ b, access ≠ .set key b) ∧ c.entries.lookup key = some a := by
  cases access with
  | set k b =>
    have hfront : ((k, b) :: without k c.entries).lookup key = some a := lookup_take h
    rw [lookup_front] at hfront
    split at hfront
    · next hk =>
      cases hfront
      exact .inl (hk ▸ rfl)
    · next hk => exact .inr ⟨fun b' heq => hk (Access.set.inj heq).1.symm, hfront⟩
  | get k => exact .inr ⟨fun _ => nofun, (lookup_get? c k key).symm.trans h⟩
  | getFresh fresh k => exact .inr ⟨fun _ => nofun, (lookup_get? c k key).symm.trans h⟩
  | contains k => exact .inr ⟨fun _ => nofun, h⟩

/-- What is found under a key after accesses is what was put in last under it, or was there
before if they put nothing in under it. -/
theorem lookup_run {accesses : List (Access α)}
    (h : (accesses.foldl access c).entries.lookup key = some a) :
    (∃ earlier later, accesses = earlier ++ .set key a :: later ∧ ∀ b, .set key b ∉ later) ∨
      (∀ b, .set key b ∉ accesses) ∧ c.entries.lookup key = some a := by
  induction accesses generalizing c with
  | nil => exact .inr ⟨by simp, h⟩
  | cons first rest ih =>
    rcases ih h with ⟨earlier, later, rfl, hlater⟩ | ⟨hrest, hfound⟩
    · exact .inl ⟨first :: earlier, later, rfl, hlater⟩
    · rcases lookup_access hfound with rfl | ⟨hfirst, hbefore⟩
      · exact .inl ⟨[], rest, rfl, hrest⟩
      · refine .inr ⟨fun b hb => ?_, hbefore⟩
        rcases List.mem_cons.1 hb with hb | hb
        · exact hfirst b hb.symm
        · exact hrest b hb

/-! ## The order of uses -/

/-- A key that is used moves to the end of the keys used so far. -/
theorem dedup_concat (past : List String) (key : String) :
    (past ++ [key]).dedup = past.dedup.filter (· != key) ++ [key] := by
  induction past with
  | nil => rfl
  | cons k past ih =>
    rw [List.cons_append, List.dedup_cons, List.dedup_cons, ih]
    by_cases hk : k = key
    · subst hk
      by_cases hmem : k ∈ past <;> simp [hmem]
    · by_cases hmem : k ∈ past <;> simp [hmem, hk]

/-- Leaving out one key among a first few leaves the first others of all, one fewer. -/
theorem take_filter_take {l : List String} (h : l.Nodup) (key : String) (n : Nat) :
    ((l.take (n + 1)).filter (· != key)).take n = (l.filter (· != key)).take n := by
  induction l generalizing n with
  | nil => rfl
  | cons k l ih =>
    obtain ⟨hk, hl⟩ := List.nodup_cons.1 h
    rw [List.take_succ_cons]
    by_cases hkey : k = key
    · subst hkey
      have hself : l.filter (· != k) = l :=
        List.filter_eq_self.2 fun x hx => bne_iff_ne.2 fun heq => hk (heq ▸ hx)
      have htake : (l.take n).filter (· != k) = l.take n :=
        List.filter_eq_self.2 fun x hx =>
          bne_iff_ne.2 fun heq => hk (heq ▸ List.mem_of_mem_take hx)
      rw [List.filter_cons_of_neg (by simp), List.filter_cons_of_neg (by simp), hself, htake,
        List.take_take, Nat.min_self]
    · rw [List.filter_cons_of_pos (by simpa using hkey),
        List.filter_cons_of_pos (by simpa using hkey)]
      cases n with
      | zero => rfl
      | succ n => rw [List.take_succ_cons, List.take_succ_cons, ih hl]

/-- A key is among the first of those used last if fewer keys were used since its last use. -/
theorem mem_take_dedup_append {before after : List String} (h : key ∉ after) (n : Nat) :
    key ∈ (before ++ key :: after).dedup.reverse.take n ↔ after.toFinset.card < n := by
  obtain ⟨earlier, hearlier⟩ := List.suffix_union_right before (key :: after.dedup)
  have hsplit : (before ++ key :: after).dedup.reverse =
      after.dedup.reverse ++ key :: earlier.reverse := by
    rw [List.dedup_append, List.dedup_cons_of_notMem h, ← hearlier]
    simp
  have hafter : key ∉ after.dedup.reverse := by simpa using h
  have hmem : key ∈ (before ++ key :: after).dedup.reverse := by simp
  rw [List.mem_take_iff_idxOf_lt hmem, hsplit, List.idxOf_append_of_notMem hafter,
    List.card_toFinset]
  simp

theorem mem_take_dedup (past : List String) (key : String) (n : Nat) :
    key ∈ past.dedup.reverse.take n ↔
      ∃ before after, past = before ++ key :: after ∧ key ∉ after ∧ after.toFinset.card < n := by
  constructor
  · intro h
    have hpast : key ∈ past.reverse := by simpa using List.mem_of_mem_take h
    obtain ⟨newer, older, hsplit, hnewer⟩ := List.eq_append_cons_of_mem hpast
    have hpast : past = older.reverse ++ key :: newer.reverse := by
      rw [← List.reverse_reverse past, hsplit]
      simp
    have hnewer : key ∉ newer.reverse := by simpa using hnewer
    rw [hpast] at h
    exact ⟨_, _, hpast, hnewer, (mem_take_dedup_append hnewer n).1 h⟩
  · rintro ⟨before, after, rfl, hafter, hcard⟩
    exact (mem_take_dedup_append hafter n).2 hcard

/-! ## The invariant -/

/-- The keys of a cache are the first of the keys used so far, those used last in front. -/
structure Recent (c : Cache α) (past : List String) : Prop where
  room : 0 < c.capacity
  keys : c.keys = past.dedup.reverse.take c.capacity

theorem Recent.ofCapacity (n : Nat) : (ofCapacity n : Cache α).Recent [] where
  room := by simp [Cache.ofCapacity]
  keys := by simp [Cache.ofCapacity, Cache.keys]

theorem keys_without (entries : List (String × α)) (key : String) :
    (without key entries).map Prod.fst = (entries.map Prod.fst).filter (· != key) := by
  rw [without, List.filter_map]
  rfl

theorem keys_set (c : Cache α) (key : String) (a : α) :
    (c.set key a).keys = (key :: c.keys.filter (· != key)).take c.capacity := by
  rw [keys, set, List.map_take, List.map_cons, keys_without, keys]

theorem keys_get? (h : c.contains key) :
    (c.get? key).2.keys = key :: c.keys.filter (· != key) := by
  obtain ⟨a, ha⟩ := Option.isSome_iff_exists.1 h
  rw [get?, ha, keys, List.map_cons, keys_without, keys]

theorem capacity_access (c : Cache α) (access : Access α) :
    (c.access access).capacity = c.capacity := by
  cases access with
  | set | contains => rfl
  | get key | getFresh fresh key =>
    show (c.get? key).2.capacity = c.capacity
    unfold Cache.get?
    cases c.entries.lookup key <;> rfl

theorem capacity_run (accesses : List (Access α)) (c : Cache α) :
    (accesses.foldl access c).capacity = c.capacity := by
  induction accesses generalizing c with
  | nil => rfl
  | cons first rest ih => exact (ih _).trans (capacity_access c first)

/-- A cache in which a key was put in front of the others is as if it had been used. -/
theorem Recent.use {c' : Cache α} (h : c.Recent past) (hroom : c'.capacity = c.capacity)
    (hkeys : c'.keys = (key :: c.keys.filter (· != key)).take c.capacity) :
    c'.Recent (past ++ [key]) where
  room := hroom ▸ h.room
  keys := by
    obtain ⟨room, hcapacity⟩ : ∃ room, c.capacity = room + 1 := ⟨_, (Nat.succ_pred h.room.ne').symm⟩
    have hdistinct : past.dedup.reverse.Nodup := List.nodup_reverse.2 past.nodup_dedup
    rw [hkeys, hroom, h.keys, hcapacity, List.take_succ_cons, take_filter_take hdistinct,
      dedup_concat, List.reverse_concat, List.take_succ_cons, List.filter_reverse]

/-- A key that is held and is put in front needs no more room. -/
theorem Recent.get? (h : c.Recent past) (key : String) :
    (c.get? key).2.Recent (past ++ (c.use? (.get key)).toList) := by
  cases hheld : c.contains key with
  | false => simpa [use?, hheld, get?_of_not_contains hheld] using h
  | true =>
    have hlength : (c.get? key).2.keys.length ≤ c.capacity :=
      calc (c.get? key).2.keys.length ≤ c.keys.length := by
            simpa [Cache.keys] using length_get?_le c key
        _ ≤ c.capacity := by
            rw [h.keys]
            exact List.length_take_le _ _
    have hkeys : (c.get? key).2.keys = (key :: c.keys.filter (· != key)).take c.capacity := by
      rw [← keys_get? hheld, List.take_of_length_le hlength]
    have hrecent : (c.get? key).2.Recent (past ++ [key]) :=
      h.use (capacity_access c (.get key)) hkeys
    simpa [use?, hheld] using hrecent

theorem Recent.access (h : c.Recent past) (access : Access α) :
    (c.access access).Recent (past ++ (c.use? access).toList) := by
  cases access with
  | set key a => exact h.use rfl (keys_set c key a)
  | get key => exact h.get? key
  | getFresh fresh key => exact h.get? key
  | contains key => simpa [Cache.access, use?] using h

theorem Recent.run (h : c.Recent past) (accesses : List (Access α)) :
    (accesses.foldl Cache.access c).Recent (past ++ c.uses accesses) := by
  induction accesses generalizing c past with
  | nil => simpa [uses] using h
  | cons first rest ih =>
    rw [uses, ← List.append_assoc]
    exact ih (h.access first)

/-- A cache holds a key that is among the first of those used last. -/
theorem Recent.contains_iff (h : c.Recent past) (key : String) :
    c.contains key ↔ ∃ before after,
      past = before ++ key :: after ∧ key ∉ after ∧ after.toFinset.card < c.capacity := by
  rw [contains_iff_mem_keys, h.keys, mem_take_dedup]

/-! ## The number of entries -/

/-- A cache has room for its entries, and no other room than it had. -/
theorem length_perform_le (operation : Operation α) (h : c.entries.length ≤ c.capacity) :
    (c.perform operation).entries.length ≤ c.capacity := by
  cases operation with
  | access access =>
    cases access with
    | set key a => exact List.length_take_le _ _
    | get key => exact (length_get?_le c key).trans h
    | getFresh fresh key => exact (length_get?_le c key).trans h
    | contains key => exact h
  | remove key => exact (List.length_filter_le _ _).trans h
  | clear => exact Nat.zero_le _

theorem capacity_perform (c : Cache α) (operation : Operation α) :
    (c.perform operation).capacity = c.capacity := by
  cases operation with
  | access access => exact capacity_access c access
  | remove | clear => rfl

theorem length_run_le (operations : List (Operation α)) (h : c.entries.length ≤ c.capacity) :
    (operations.foldl perform c).entries.length ≤ c.capacity := by
  induction operations generalizing c with
  | nil => exact h
  | cons first rest ih =>
    have hcapacity := capacity_perform c first
    have hrest := ih (c := c.perform first) (hcapacity ▸ length_perform_le first h)
    exact hcapacity ▸ hrest

/-- No more keys are held than there are entries. -/
theorem card_le_length (c : Cache α) {held : Finset String} (h : ∀ key ∈ held, c.contains key) :
    held.card ≤ c.entries.length := by
  have hsub : held ⊆ c.keys.toFinset := fun key hkey =>
    List.mem_toFinset.2 (contains_iff_mem_keys.1 (h key hkey))
  calc held.card ≤ c.keys.toFinset.card := Finset.card_le_card hsub
    _ ≤ c.keys.length := c.keys.toFinset_card_le
    _ = c.entries.length := List.length_map _

/-- A cache that starts empty keeps what was used last. After accesses it holds a key if
something was put in under it and fewer other keys than there is room for were used since its
own last use, and what it holds is what was put in last. It never holds more keys than it has
room for, also if things are taken out. Asking whether a key is held and looking up one that is
not change nothing. -/
theorem memory_keeps_recent (n : Nat) :
    (∀ (accesses : List (Access α)) (key : String),
      let c := accesses.foldl access (ofCapacity n)
      (c.contains key ↔
        (∃ a, .set key a ∈ accesses) ∧
        ∃ before after, (ofCapacity n).uses accesses = before ++ key :: after ∧ key ∉ after ∧
          after.toFinset.card < max 1 n) ∧
      (c.contains key →
        ∃ a, (c.get? key).1 = some a ∧
        ∃ earlier later, accesses = earlier ++ .set key a :: later ∧ ∀ b, .set key b ∉ later)) ∧
    ∀ operations : List (Operation α),
      let c := operations.foldl perform (ofCapacity n)
      (∀ held : Finset String, (∀ key ∈ held, c.contains key) → held.card ≤ max 1 n) ∧
      ∀ key,
        c.perform (.access (.contains key)) = c ∧
        (c.contains key = false →
          c.perform (.access (.get key)) = c ∧
          ∀ fresh, c.perform (.access (.getFresh fresh key)) = c) ∧
        (∀ other, other ≠ key → (c.perform (.remove key)).contains other = c.contains other) ∧
        (c.perform .clear).contains key = false := by
  refine ⟨fun accesses key => ?_, fun operations => ⟨fun held hheld => ?_, fun key => ⟨rfl, ?_⟩⟩⟩
  · intro c
    have hrecent : c.Recent ((ofCapacity n).uses accesses) := (Recent.ofCapacity n).run accesses
    have hcapacity : c.capacity = max 1 n := capacity_run accesses (ofCapacity n)
    have hlast : c.contains key →
        ∃ a, (c.get? key).1 = some a ∧
        ∃ earlier later, accesses = earlier ++ .set key a :: later ∧ ∀ b, .set key b ∉ later := by
      intro hheld
      obtain ⟨a, ha⟩ := Option.isSome_iff_exists.1 hheld
      rcases lookup_run ha with hset | ⟨-, hempty⟩
      · exact ⟨a, (get?_fst c key).trans ha, hset⟩
      · cases hempty
    refine ⟨?_, hlast⟩
    rw [← hcapacity, ← hrecent.contains_iff key]
    refine ⟨fun hheld => ⟨?_, hheld⟩, And.right⟩
    obtain ⟨a, -, earlier, later, rfl, -⟩ := hlast hheld
    exact ⟨a, List.mem_append_cons_self⟩
  · exact (card_le_length _ hheld).trans (length_run_le operations (Nat.zero_le _))
  · refine ⟨fun hmiss => ?_, fun other hother => contains_remove _ hother, rfl⟩
    have hget := get?_of_not_contains hmiss
    exact ⟨congrArg Prod.snd hget, fun fresh => congrArg Prod.snd hget⟩

/-- A thing that is found to be stale has been used: of two, the other makes room for a third. -/
theorem memory_keeps_recent_stale :
    let accesses : List (Access Nat) := [.set "post" 1, .set "page" 2,
      .getFresh (· == 0) "post", .contains "page", .get "tag", .set "tag" 3]
    let c := accesses.foldl access (ofCapacity 2)
    c.contains "post" ∧ (∃ a, (c.get? "post").1 = some a) ∧ c.contains "page" = false ∧
      c.perform (.access (.get "page")) = c := by
  intro accesses c
  obtain ⟨haccesses, hoperations⟩ := memory_keeps_recent (α := Nat) 2
  obtain ⟨hpost, hheld⟩ := haccesses accesses "post"
  have hpost : c.contains "post" :=
    hpost.2 ⟨⟨1, by simp [accesses]⟩, ["post", "page"], ["tag"], by decide, by decide, by decide⟩
  have hpage : c.contains "page" = false := by decide
  obtain ⟨a, ha, -⟩ := hheld hpost
  exact ⟨hpost, ⟨a, ha⟩, hpage, (((hoperations (accesses.map .access)).2 "page").2.1 hpage).1⟩

end BlogTheme.Cache
