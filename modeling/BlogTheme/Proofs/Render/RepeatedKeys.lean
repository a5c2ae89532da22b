import BlogTheme.Proofs.Render.Expressions
import BlogTheme.Proofs.Render.Plain
import BlogTheme.Proofs.Template.Balanced
import BlogTheme.Proofs.Template.Tiling
import Mathlib.Data.List.Dedup

/-!
# Arguments with one key

Of the arguments of a tag with one key the last counts (`lastOfEach`): the keys stand in the order
of their last occurrences (`keys_lastOfEach`), and what is found first under a key is what was
written last (`lookup_lastOfEach`). So the invocation of a tag has the arguments that
`Invocation.HasArguments` tells, as it is added to those before it, and in the tree of a source
(`Template.last_argument_counts`).
-/

namespace BlogTheme

open Template (Argument Invocation)

/-- A call finds under a key what its invocation has there. -/
theorem Page.lookup_call (page : Page) (inclusion : Inclusion) (i : Invocation) (key : String) :
    (page.call inclusion i).hash.lookup key = (i.hashValue? key).map (page.give inclusion) :=
  lookup_map_values (page.give inclusion) i.hash key

namespace Template

/-! ## The last entry of each key -/

section

variable {entries : List (String × Argument)} {key : String}

theorem any_key_iff :
    (entries.any fun entry => entry.1 == key) = true ↔ key ∈ entries.map Prod.fst := by
  simp only [List.any_eq_true, beq_iff_eq, List.mem_map]

theorem lookup_reverse_eq_none_iff :
    entries.reverse.lookup key = none ↔ key ∉ entries.map Prod.fst := by
  simp only [List.lookup_eq_none_iff, List.mem_reverse, bne_iff_ne, List.mem_map, not_exists,
    not_and, ne_comm]

/-- Each key is kept where it stands last. -/
theorem keys_lastOfEach (entries : List (String × Argument)) :
    (lastOfEach entries).map Prod.fst = (entries.map Prod.fst).dedup := by
  induction entries with
  | nil => rfl
  | cons entry entries ih =>
    rw [lastOfEach, List.map_cons, List.dedup_cons, ← ih]
    simp only [any_key_iff]
    split <;> rfl

/-- Of the entries that are kept the one with a key is the last there was. -/
theorem lookup_lastOfEach (entries : List (String × Argument)) (key : String) :
    (lastOfEach entries).lookup key = entries.reverse.lookup key := by
  induction entries with
  | nil => rfl
  | cons entry entries ih =>
    obtain ⟨k, a⟩ := entry
    rw [lastOfEach, List.reverse_cons, List.lookup_append, ← ih]
    simp only [any_key_iff]
    by_cases hkey : key = k
    · subst hkey
      rw [List.lookup_cons_self]
      split
      · -- Here the entry is dropped, since its key is found behind it.
        rename_i hlater
        have hfound : entries.reverse.lookup key ≠ none :=
          mt lookup_reverse_eq_none_iff.1 (not_not_intro hlater)
        rw [ih, Option.or_of_isSome (Option.isSome_iff_ne_none.2 hfound)]
      · rename_i hlast
        rw [List.lookup_cons_self, ih, lookup_reverse_eq_none_iff.2 hlast]
        rfl
    · have hskip (rest : List (String × Argument)) :
          ((k, a) :: rest).lookup key = rest.lookup key := by
        rw [List.lookup_cons, beq_false_of_ne hkey]
      rw [hskip, List.lookup_nil, Option.or_none]
      split
      · rfl
      · exact hskip _

/-- The entry behind which its key does not stand again is found. -/
theorem lookup_reverse_of_last {before after : List (String × Argument)} {a : Argument}
    (hentries : entries = before ++ (key, a) :: after) (hlast : key ∉ after.map Prod.fst) :
    entries.reverse.lookup key = some a := by
  rw [hentries, List.reverse_append, List.reverse_cons, List.append_assoc, List.lookup_append,
    lookup_reverse_eq_none_iff.2 hlast]
  exact List.lookup_cons_self

end

/-! ## The arguments of a tag -/

namespace Segment

/-- Whether the segment is a tag that invokes something. -/
def invokes : Segment → Bool
  | .expression .. | .inclusion .. | .layout _ | .blockOpen .. => true
  | _ => false

/-- What stands in front of the arguments of a tag: the name of a partial, as it is written. -/
def leading : Segment → List Argument
  | .inclusion name _ => [.string name.value.literalText]
  | _ => []

/-- The arguments of a tag in the order of the source. -/
def args : Segment → List Arg
  | .expression _ args _ | .inclusion _ args | .blockOpen _ args => args
  | .layout arg => [arg]
  | _ => []

end Segment

/-- The invocation has the arguments of a tag: behind `leading` the positional ones in their order,
and each key once, where it stands last (`List.dedup` keeps the last of equal keys). Under each of
these keys there is what was written last, and under other keys there is nothing. -/
structure Invocation.HasArguments (i : Invocation) (leading : List Argument) (args : List Arg) :
    Prop where
  params : i.params = leading ++ positional args
  keys : i.hash.map Prod.fst = ((keyed args).map Prod.fst).dedup
  distinct : (i.hash.map Prod.fst).Nodup
  written : ∀ before key a after, keyed args = before ++ (key, a) :: after →
    key ∉ after.map Prod.fst → (key, a) ∈ i.hash ∧ i.hashValue? key = some a ∧
      ∀ page inclusion, (Page.call page inclusion i).hash.lookup key =
        some (page.give inclusion a)
  unwritten : ∀ key, key ∉ (keyed args).map Prod.fst → i.hashValue? key = none ∧
    ∀ page inclusion, (Page.call page inclusion i).hash.lookup key = none

namespace Placed

variable {p : Placed}

theorem invocation_hasArguments (p : Placed) (name : String) (leading : List Argument)
    (args : List Arg) : (p.invocation name leading args).HasArguments leading args where
  params := rfl
  keys := keys_lastOfEach (keyed args)
  distinct := keys_lastOfEach (keyed args) ▸ List.nodup_dedup _
  written before key a after hargs hlast := by
    have hfound : (p.invocation name leading args).hashValue? key = some a :=
      (lookup_lastOfEach (keyed args) key).trans (lookup_reverse_of_last hargs hlast)
    refine ⟨mem_of_lookup hfound, hfound, fun page inclusion => ?_⟩
    rw [Page.lookup_call, hfound]
    rfl
  unwritten key hkey := by
    have hfound : (p.invocation name leading args).hashValue? key = none :=
      (lookup_lastOfEach (keyed args) key).trans (lookup_reverse_eq_none_iff.2 hkey)
    refine ⟨hfound, fun page inclusion => ?_⟩
    rw [Page.lookup_call, hfound]
    rfl

/-- A tag that invokes something makes an invocation with its arguments. -/
theorem invocation?_of_invokes (h : p.segment.invokes) :
    ∃ i, p.invocation? = some i ∧ i.HasArguments p.segment.leading p.segment.args := by
  unfold invocation? item?
  cases hsegment : p.segment with
  | expression | inclusion | layout | blockOpen =>
    exact ⟨_, rfl, p.invocation_hasArguments _ _ _⟩
  | _ =>
    rw [hsegment] at h
    cases h

theorem invocation?_of_not_invokes (h : p.segment.invokes = false) : p.invocation? = none := by
  unfold invocation? item?
  cases hsegment : p.segment with
  | expression | inclusion | layout | blockOpen =>
    rw [hsegment] at h
    cases h
  | _ => rfl

/-- The invocations of segments are those of the tags that invoke something, in their order. -/
theorem invocations_hasArguments (ps : List Placed) :
    List.Forall₂ (fun p i => i.HasArguments p.segment.leading p.segment.args)
      (ps.filter fun p => p.segment.invokes) (ps.filterMap invocation?) := by
  induction ps with
  | nil => exact .nil
  | cons p ps ih =>
    cases hp : p.segment.invokes with
    | false =>
      rw [List.filterMap_cons_none (invocation?_of_not_invokes hp), List.filter_cons, hp]
      exact ih
    | true =>
      obtain ⟨i, hi, hargs⟩ := invocation?_of_invokes hp
      rw [List.filterMap_cons_some hi, List.filter_cons, hp]
      exact .cons hargs ih

end Placed

namespace Nesting

/-- The invocations that were read, in the order of the source. -/
def invocations (s : Nesting) : List Invocation :=
  s.items.filterMap Item.invocation?

/-- A tag is taken if its numbers fit in 64 bits. -/
theorem step_of_invokes (s : Nesting) {p : Placed} (h : p.segment.invokes)
    (hwords : firstExcess? p.segment.words = none) : ∃ s', s.step p = .ok s' := by
  cases hstep : s.step p with
  | ok s' => exact ⟨s', rfl⟩
  | error f =>
    have hinverse : p.segment ≠ .inverse := by
      intro hp
      rw [hp] at h
      cases h
    have hclose (name : String) : p.segment ≠ .blockClose name := by
      intro hp
      rw [hp] at h
      cases h
    have hexcess := (offends_iff_excess hinverse hclose).1 (step_error_iff.1 hstep)
    rw [hwords] at hexcess
    cases hexcess

/-- Taking a segment adds its invocation to those that were read. -/
theorem invocations_step {s s' : Nesting} {p : Placed} (h : s.step p = .ok s') :
    s'.invocations = s.invocations ++ p.invocation?.toList := by
  rw [invocations, (step_ok h).2.items_eq, List.filterMap_append]
  unfold Placed.invocation?
  cases p.item? <;> rfl

end Nesting

/-- A tag that invokes something and whose numbers fit in 64 bits adds an invocation with its
arguments, whatever was read before. In the tree of a source the invocations are those of its tags,
in their order. -/
theorem last_argument_counts :
    (∀ (s : Nesting) (p : Placed), p.segment.invokes → firstExcess? p.segment.words = none →
      ∃ s' i, s.step p = .ok s' ∧ s'.invocations = s.invocations ++ [i] ∧
        i.HasArguments p.segment.leading p.segment.args) ∧
      ∀ source name t, parse source name = .ok t →
        List.Forall₂ (fun p i => i.HasArguments p.segment.leading p.segment.args)
          ((Segment.sequence source.toList).1.filter fun p => p.segment.invokes)
          (invocations t.body) := by
  refine ⟨fun s p hinvokes hwords => ?_, fun source name t hparse => ?_⟩
  · obtain ⟨s', hstep⟩ := s.step_of_invokes hinvokes hwords
    obtain ⟨i, hi, hargs⟩ := Placed.invocation?_of_invokes hinvokes
    have hinvocations := Nesting.invocations_step hstep
    rw [hi] at hinvocations
    exact ⟨s', i, hstep, hinvocations, hargs⟩
  · rw [invocations_nest (segments_of_parse hparse).2]
    exact Placed.invocations_hasArguments _

/-- A key written twice in an expression, and two positional arguments among keys, one of them
written twice, in the tag of a partial. -/
theorem last_argument_counts_twice :
    let tag : Placed :=
      { segment := .expression "plural" [{ key := some "singular", word := .string "% post" },
          { key := none, word := .path "../pagination.total" },
          { key := some "singular", word := .string "one post" }] true
        start := .start
        stop := .start }
    let source := "\x7b\x7b> card a x=1 b y=2 x=3\x7d\x7d"
    (∃ s i, Nesting.empty.step tag = .ok s ∧ s.invocations = [i] ∧
      i.params = [.path "../pagination.total"] ∧
      i.hashValue? "singular" = some (.string "one post")) ∧
      ∃ t i, parse source "page" = .ok t ∧ invocations t.body = [i] ∧
        i.params = [.string "card", .path "a", .path "b"] ∧ i.hash.map Prod.fst = ["y", "x"] ∧
        i.hashValue? "x" = some (.number 3) ∧ i.hashValue? "z" = none := by
  intro tag source
  obtain ⟨htaken, htree⟩ := last_argument_counts
  constructor
  · obtain ⟨s, i, hstep, hinvocations, hargs⟩ := htaken .empty tag rfl (by decide)
    have hlast := hargs.written [("singular", .string "% post")] "singular" _ [] rfl (by simp)
    exact ⟨s, i, hstep, hinvocations, hargs.params, hlast.2.1⟩
  · let said (p : Placed) := (p.segment.leading, positional p.segment.args, keyed p.segment.args)
    have htags : ((Segment.sequence source.toList).1.filter fun p => p.segment.invokes).map said =
        [([.string "card"], [.path "a", .path "b"],
          [("x", .number 1), ("y", .number 2), ("x", .number 3)])] := by
      decide +kernel
    have hok : (parseBody source.toList).toOption.isSome := by decide +kernel
    obtain ⟨body, hbody⟩ : ∃ body, parseBody source.toList = .ok body := by
      cases hbody : parseBody source.toList with
      | ok body => exact ⟨body, rfl⟩
      | error f =>
        rw [hbody] at hok
        cases hok
    have hparse : parse source "page" = .ok { name := "page", body } :=
      parse_ok_iff.2 ⟨rfl, hbody⟩
    obtain ⟨p, rest, hp, hsaid, hrest⟩ := List.map_eq_cons_iff.1 htags
    obtain rfl := List.map_eq_nil_iff.1 hrest
    have hall := htree source "page" _ hparse
    rw [hp] at hall
    obtain ⟨i, _, hargs, hnil, hinvocations⟩ := List.forall₂_cons_left_iff.1 hall
    obtain rfl := List.forall₂_nil_left_iff.1 hnil
    obtain ⟨hleading, hpositional, hkeyed⟩ :
        p.segment.leading = [.string "card"] ∧
          positional p.segment.args = [.path "a", .path "b"] ∧
          keyed p.segment.args = [("x", .number 1), ("y", .number 2), ("x", .number 3)] := by
      simpa only [said, Prod.mk.injEq] using hsaid
    have hlast := hargs.written [("x", .number 1), ("y", .number 2)] "x" _ [] hkeyed (by simp)
    refine ⟨_, i, hparse, hinvocations, ?_, ?_, hlast.2.1, (hargs.unwritten "z" ?_).1⟩
    · rw [hargs.params, hleading, hpositional]
      rfl
    · rw [hargs.keys, hkeyed]
      decide
    · rw [hkeyed]
      decide

end Template

end BlogTheme
