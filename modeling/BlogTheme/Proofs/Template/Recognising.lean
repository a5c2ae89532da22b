import BlogTheme.Template.Recogniser
import Mathlib.Data.List.Forall2
import Mathlib.Data.List.TakeWhile

/-!
# What recognisers read

`Reads p cs rest P` says that in front of `rest` the recogniser `p` reads exactly `cs`, as
something that satisfies `P`; `Refuses p cs` that it reads nothing of `cs`. `Takes p R` goes
the other way: whatever `p` reads is related by `R` to the text read and the text after it.

There is a rule for each way of building recognisers. As choices are final, a choice reads what
its second alternative does only where the first refuses, and often that follows from what the
first could take.
-/

namespace BlogTheme.Template

/-- Where the cursor stands does not matter for what it moves over. -/
theorem Position.after_append (p : Position) (cs ds : List Char) :
    p.after (cs ++ ds) = (p.after cs).after ds := by
  simp [after, List.foldl_append]

namespace Recogniser

/-- In front of `rest` the recogniser reads `cs`, as something that satisfies `P`. -/
def Reads (p : Recogniser α) (cs rest : List Char) (P : α → Prop) : Prop :=
  ∀ pos, ∃ a, p.read ⟨cs ++ rest, pos⟩ = some (a, ⟨rest, pos.after cs⟩) ∧ P a

/-- The recogniser reads nothing of `cs`. -/
def Refuses (p : Recogniser α) (cs : List Char) : Prop :=
  ∀ pos, p.read ⟨cs, pos⟩ = none

/-- Whatever the recogniser reads is related to the text read and the text after it. -/
def Takes (p : Recogniser α) (R : List Char → α → List Char → Prop) : Prop :=
  ∀ c a c', p.read c = some (a, c') → ∃ cs, c.rest = cs ++ c'.rest ∧ R cs a c'.rest

/-! ## Reading -/

namespace Reads

variable {p : Recogniser α} {q : Recogniser β} {cs ds rest : List Char} {P : α → Prop}
  {Q : β → Prop}

theorem mono (h : Reads p cs rest P) {P' : α → Prop} (hP : ∀ a, P a → P' a) :
    Reads p cs rest P' := by
  intro pos
  obtain ⟨a, hread, ha⟩ := h pos
  exact ⟨a, hread, hP a ha⟩

theorem literal (text : String) (rest : List Char) :
    Reads (literal text) text.toList rest fun _ => True := by
  intro pos
  refine ⟨(), ?_, trivial⟩
  simp [Recogniser.literal, plain, Cursor.literal?, Cursor.advance]

theorem run {class' : Char → Bool} (hcs : ∀ c ∈ cs, class' c)
    (hrest : rest.head?.any class' = false) : Reads (run class') cs rest (· = cs) := by
  have hend : rest.takeWhile class' = [] ∧ rest.dropWhile class' = rest := by
    cases rest with
    | nil => simp
    | cons c rest => simp_all
  intro pos
  refine ⟨cs, ?_, rfl⟩
  simp [Recogniser.run, plain, Cursor.takeWhile, Cursor.advance,
    List.takeWhile_append_of_pos hcs, List.dropWhile_append_of_pos hcs, hend]

theorem run1 {class' : Char → Bool} (hne : cs ≠ []) (hcs : ∀ c ∈ cs, class' c)
    (hrest : rest.head?.any class' = false) : Reads (run1 class') cs rest (· = cs) := by
  intro pos
  obtain ⟨a, hread, rfl⟩ := run hcs hrest pos
  have htake : Cursor.takeWhile class' ⟨a ++ rest, pos⟩ = (a, ⟨rest, pos.after a⟩) :=
    Option.some.inj hread
  refine ⟨a, ?_, rfl⟩
  simp [Recogniser.run1, plain, htake, hne]

theorem position (rest : List Char) : Reads position [] rest fun _ => True :=
  fun pos => ⟨pos, rfl, trivial⟩

theorem map (h : Reads p cs rest P) {f : α → β} (hf : ∀ a, P a → Q (f a)) :
    Reads (p.map f) cs rest Q := by
  intro pos
  obtain ⟨a, hread, ha⟩ := h pos
  exact ⟨f a, by simp [Recogniser.map, hread], hf a ha⟩

theorem both (hp : Reads p cs (ds ++ rest) P) (hq : Reads q ds rest Q) :
    Reads (p.both q) (cs ++ ds) rest fun ab => P ab.1 ∧ Q ab.2 := by
  intro pos
  obtain ⟨a, hread, ha⟩ := hp pos
  obtain ⟨b, hread', hb⟩ := hq (pos.after cs)
  refine ⟨(a, b), ?_, ha, hb⟩
  rw [List.append_assoc, Position.after_append]
  simp [Recogniser.both, hread, hread']

theorem before (hp : Reads p cs (ds ++ rest) P) (hq : Reads q ds rest Q) :
    Reads (p.before q) (cs ++ ds) rest P :=
  (hp.both hq).map fun _ h => h.1

theorem after (hp : Reads p cs (ds ++ rest) P) (hq : Reads q ds rest Q) :
    Reads (p.after q) (cs ++ ds) rest Q :=
  (hp.both hq).map fun _ h => h.2

variable {p' : Recogniser α}

theorem orElse_left (h : Reads p cs rest P) : Reads (p.orElse p') cs rest P := by
  intro pos
  obtain ⟨a, hread, ha⟩ := h pos
  exact ⟨a, by simp [Recogniser.orElse, hread], ha⟩

theorem orElse_right (hp : Refuses p (cs ++ rest)) (h : Reads p' cs rest P) :
    Reads (p.orElse p') cs rest P := by
  intro pos
  obtain ⟨a, hread, ha⟩ := h pos
  exact ⟨a, by simp [Recogniser.orElse, hp pos, hread], ha⟩

theorem notBefore (h : Reads p cs rest P) {class' : Char → Bool}
    (hrest : rest.head?.any class' = false) : Reads (p.notBefore class') cs rest P := by
  intro pos
  obtain ⟨a, hread, ha⟩ := h pos
  exact ⟨a, by simp [Recogniser.notBefore, hread, hrest], ha⟩

theorem named (h : Reads p cs rest P) (rule : Rule) : Reads (named rule p) cs rest P := h

end Reads

/-! ## Reading again and again -/

/-- In front of `rest` the recogniser reads `cs` in pieces, and what it reads satisfies `P`. -/
def Repeats (p : Recogniser α) (cs rest : List Char) (P : List α → Prop) : Prop :=
  ∀ pos, ∃ as, P as ∧ as.length ≤ cs.length ∧ ∀ fuel,
    p.collect (as.length + fuel) ⟨cs ++ rest, pos⟩ =
      (as ++ (p.collect fuel ⟨rest, pos.after cs⟩).1, (p.collect fuel ⟨rest, pos.after cs⟩).2)

namespace Repeats

variable {p : Recogniser α} {cs ds rest : List Char} {P Q : List α → Prop}

theorem mono (h : Repeats p cs rest P) (hP : ∀ as, P as → Q as) : Repeats p cs rest Q := by
  intro pos
  obtain ⟨as, has, hrepeats⟩ := h pos
  exact ⟨as, hP as has, hrepeats⟩

theorem nil (p : Recogniser α) (rest : List Char) : Repeats p [] rest (· = []) :=
  fun pos => ⟨[], rfl, Nat.le_refl _, fun fuel => by rw [List.length_nil, Nat.zero_add]; rfl⟩

theorem single {P : α → Prop} (hne : cs ≠ []) (h : Reads p cs rest P) :
    Repeats p cs rest fun as => ∃ a, as = [a] ∧ P a := by
  intro pos
  obtain ⟨a, hread, ha⟩ := h pos
  refine ⟨[a], ⟨a, rfl, ha⟩, List.length_pos_iff.2 hne, fun fuel => ?_⟩
  rw [List.length_singleton, Nat.add_comm, Recogniser.collect, hread]
  rfl

theorem append (hcs : Repeats p cs (ds ++ rest) P) (hds : Repeats p ds rest Q) :
    Repeats p (cs ++ ds) rest fun as => ∃ front back, as = front ++ back ∧ P front ∧ Q back := by
  intro pos
  obtain ⟨front, hfront, hlength, hcollect⟩ := hcs pos
  obtain ⟨back, hback, hlength', hcollect'⟩ := hds (pos.after cs)
  refine ⟨front ++ back, ⟨front, back, rfl, hfront, hback⟩, ?_, fun fuel => ?_⟩
  · rw [List.length_append, List.length_append]
    omega
  · rw [List.length_append, Nat.add_assoc, List.append_assoc, hcollect, hcollect',
      Position.after_append, List.append_assoc]

/-- Pieces are read until nothing more can be read. -/
theorem many (h : Repeats p cs rest P) (hrest : Refuses p rest) : Reads p.many cs rest P := by
  intro pos
  obtain ⟨as, has, hlength, hcollect⟩ := h pos
  obtain ⟨fuel, hfuel⟩ : ∃ fuel, (cs ++ rest).length + 1 = as.length + (fuel + 1) := by
    refine ⟨(cs ++ rest).length - as.length, ?_⟩
    rw [List.length_append]
    omega
  have hstop : p.collect (fuel + 1) ⟨rest, pos.after cs⟩ = ([], ⟨rest, pos.after cs⟩) := by
    rw [Recogniser.collect, hrest]
  refine ⟨as, ?_, has⟩
  simp only [Recogniser.many, hfuel, hcollect, hstop, List.append_nil]

theorem flatMap {pieces : List γ} {text : γ → List Char} {R : γ → α → Prop}
    (hne : ∀ c ∈ pieces, text c ≠ [])
    (hpieces : ∀ c ∈ pieces, ∀ after, Reads p (text c) (List.flatMap text after ++ rest) (R c)) :
    Repeats p (pieces.flatMap text) rest (List.Forall₂ R pieces) := by
  induction pieces with
  | nil => exact (nil p rest).mono fun as has => has ▸ .nil
  | cons c pieces ih =>
    obtain ⟨hc, hpieces⟩ := List.forall_mem_cons.1 hpieces
    obtain ⟨hcne, hne⟩ := List.forall_mem_cons.1 hne
    refine ((single hcne (hc pieces)).append (ih hne hpieces)).mono ?_
    rintro _ ⟨_, back, rfl, ⟨a, rfl, ha⟩, hback⟩
    exact .cons ha hback

end Repeats

/-! ## Refusing -/

namespace Refuses

variable {p : Recogniser α} {q : Recogniser β} {cs ds rest : List Char} {P : α → Prop}

theorem literal {text : String} (h : text.toList.isPrefixOf cs = false) :
    Refuses (literal text) cs :=
  fun pos => by simp only [Recogniser.literal, plain, Cursor.literal?, h]; rfl

theorem run1 {class' : Char → Bool} (h : cs.head?.any class' = false) :
    Refuses (run1 class') cs := by
  have hnone : cs.takeWhile class' = [] := by
    cases cs with
    | nil => rfl
    | cons c cs => simp_all
  exact fun pos => by simp only [Recogniser.run1, plain, Cursor.takeWhile, hnone]; rfl

theorem map (h : Refuses p cs) (f : α → β) : Refuses (p.map f) cs :=
  fun pos => by simp [Recogniser.map, h pos]

theorem both_left (h : Refuses p cs) : Refuses (p.both q) cs :=
  fun pos => by simp [Recogniser.both, h pos]

theorem both_right (hp : Reads p cs rest P) (hq : Refuses q rest) :
    Refuses (p.both q) (cs ++ rest) := by
  intro pos
  obtain ⟨a, hread, -⟩ := hp pos
  simp [Recogniser.both, hread, hq _]

theorem orElse {p' : Recogniser α} (hp : Refuses p cs) (hp' : Refuses p' cs) :
    Refuses (p.orElse p') cs :=
  fun pos => by simp [Recogniser.orElse, hp pos, hp' pos]

theorem notBefore (h : Refuses p cs) (class' : Char → Bool) : Refuses (p.notBefore class') cs :=
  fun pos => by simp [Recogniser.notBefore, h pos]

theorem named (h : Refuses p cs) (rule : Rule) : Refuses (named rule p) cs := h

theorem not_reads (h : ∃ pos, p.read ⟨cs ++ rest, pos⟩ = none) : ¬ Reads p cs rest P := by
  intro hreads
  obtain ⟨pos, hnone⟩ := h
  obtain ⟨a, hread, -⟩ := hreads pos
  rw [hnone] at hread
  cases hread

/-- A recogniser that can take nothing of a text refuses it. -/
theorem of_takes {R : List Char → α → List Char → Prop} (h : Takes p R)
    (hcs : ∀ ds a rest, cs = ds ++ rest → ¬ R ds a rest) : Refuses p cs := by
  intro pos
  cases hread : p.read ⟨cs, pos⟩ with
  | none => rfl
  | some result =>
    obtain ⟨a, c'⟩ := result
    obtain ⟨ds, hds, hR⟩ := h _ _ _ hread
    exact absurd hR (hcs ds a c'.rest hds)

end Refuses

/-! ## Taking -/

namespace Takes

variable {p p' : Recogniser α} {q : Recogniser β} {R R' : List Char → α → List Char → Prop}
  {S : List Char → β → List Char → Prop}

theorem mono (h : Takes p R) (hR : ∀ cs a rest, R cs a rest → R' cs a rest) : Takes p R' := by
  intro c a c' hread
  obtain ⟨cs, hcs, ha⟩ := h c a c' hread
  exact ⟨cs, hcs, hR _ _ _ ha⟩

theorem literal (text : String) : Takes (literal text) fun cs _ _ => cs = text.toList := by
  intro c a c' hread
  simp only [Recogniser.literal, plain, Cursor.literal?, Option.map_eq_some_iff] at hread
  obtain ⟨c'', hstarts, heq⟩ := hread
  split at hstarts
  · rename_i hpre
    cases hstarts
    cases heq
    obtain ⟨rest, hrest⟩ := List.isPrefixOf_iff_prefix.1 hpre
    exact ⟨text.toList, by simp [Cursor.advance, ← hrest], rfl⟩
  · cases hstarts

theorem head?_dropWhile (class' : Char → Bool) (cs : List Char) :
    (cs.dropWhile class').head?.any class' = false := by
  cases h : cs.dropWhile class' with
  | nil => rfl
  | cons c rest =>
    have hc := List.head?_dropWhile_not class' cs
    rw [h] at hc
    simpa using hc

theorem run (class' : Char → Bool) : Takes (run class') fun cs a rest =>
    a = cs ∧ (∀ c ∈ cs, class' c) ∧ rest.head?.any class' = false := by
  intro c a c' hread
  cases hread
  refine ⟨c.rest.takeWhile class', List.takeWhile_append_dropWhile.symm, rfl, ?_,
    head?_dropWhile class' c.rest⟩
  exact fun x hx => List.mem_takeWhile_imp hx

theorem run1 (class' : Char → Bool) : Takes (run1 class') fun cs a rest =>
    a = cs ∧ cs ≠ [] ∧ (∀ c ∈ cs, class' c) ∧ rest.head?.any class' = false := by
  intro c a c' hread
  simp only [Recogniser.run1, plain] at hread
  split at hread
  · cases hread
  · rename_i hne
    obtain ⟨cs, hcs, rfl, hall, hrest⟩ := run class' c a c' hread
    refine ⟨a, hcs, rfl, ?_, hall, hrest⟩
    rintro rfl
    have htake : c.takeWhile class' = ([], c') := Option.some.inj hread
    exact hne (by rw [htake]; rfl)

theorem position : Takes position fun cs _ _ => cs = [] := by
  intro c a c' hread
  cases hread
  exact ⟨[], rfl, rfl⟩

theorem map (h : Takes p R) (f : α → β) :
    Takes (p.map f) fun cs b rest => ∃ a, b = f a ∧ R cs a rest := by
  intro c b c' hread
  simp only [Recogniser.map, Option.map_eq_some_iff] at hread
  obtain ⟨⟨a, c''⟩, hread, heq⟩ := hread
  cases heq
  obtain ⟨cs, hcs, ha⟩ := h c a c'' hread
  exact ⟨cs, hcs, a, rfl, ha⟩

theorem both (hp : Takes p R) (hq : Takes q S) :
    Takes (p.both q) fun cs ab rest =>
      ∃ front back, cs = front ++ back ∧ R front ab.1 (back ++ rest) ∧ S back ab.2 rest := by
  intro c ab c' hread
  simp only [Recogniser.both, bind, Option.bind_eq_some_iff] at hread
  obtain ⟨⟨a, c₁⟩, hread, ⟨b, c₂⟩, hread', heq⟩ := hread
  cases heq
  obtain ⟨front, hfront, ha⟩ := hp _ _ _ hread
  obtain ⟨back, hback, hb⟩ := hq _ _ _ hread'
  exact ⟨front ++ back, by rw [hfront, hback, List.append_assoc], front, back, rfl,
    hback ▸ ha, hb⟩

theorem before (hp : Takes p R) (hq : Takes q S) :
    Takes (p.before q) fun cs a rest =>
      ∃ front back b, cs = front ++ back ∧ R front a (back ++ rest) ∧ S back b rest := by
  refine ((hp.both hq).map Prod.fst).mono fun cs a rest h => ?_
  obtain ⟨ab, rfl, front, back, hcs, ha, hb⟩ := h
  exact ⟨front, back, ab.2, hcs, ha, hb⟩

theorem after (hp : Takes p R) (hq : Takes q S) :
    Takes (p.after q) fun cs b rest =>
      ∃ front back a, cs = front ++ back ∧ R front a (back ++ rest) ∧ S back b rest := by
  refine ((hp.both hq).map Prod.snd).mono fun cs b rest h => ?_
  obtain ⟨ab, rfl, front, back, hcs, ha, hb⟩ := h
  exact ⟨front, back, ab.1, hcs, ha, hb⟩

theorem orElse (hp : Takes p R) (hp' : Takes p' R) : Takes (p.orElse p') R := by
  intro c a c' hread
  simp only [Recogniser.orElse, Option.or_eq_some_iff] at hread
  obtain hread | ⟨-, hread⟩ := hread
  · exact hp c a c' hread
  · exact hp' c a c' hread

/-- What the second alternative takes is what the first has refused. -/
theorem orElse_refused {R'' : List Char → α → List Char → Prop} (hp : Takes p R)
    (hp' : Takes p' R')
    (hR : ∀ cs a rest, (∃ pos, p.read ⟨cs ++ rest, pos⟩ = none) → R' cs a rest → R'' cs a rest)
    (hR' : ∀ cs a rest, R cs a rest → R'' cs a rest) : Takes (p.orElse p') R'' := by
  intro c a c' hread
  simp only [Recogniser.orElse, Option.or_eq_some_iff] at hread
  obtain hread | ⟨hnone, hread⟩ := hread
  · exact hp.mono hR' c a c' hread
  · obtain ⟨cs, hcs, ha⟩ := hp' c a c' hread
    refine ⟨cs, hcs, hR cs a c'.rest ⟨c.position, ?_⟩ ha⟩
    rw [← hcs]
    exact hnone

theorem notBefore (h : Takes p R) (class' : Char → Bool) :
    Takes (p.notBefore class') fun cs a rest => R cs a rest ∧ rest.head?.any class' = false := by
  intro c a c' hread
  simp only [Recogniser.notBefore, Option.filter_eq_some_iff] at hread
  obtain ⟨hread, hclass⟩ := hread
  obtain ⟨cs, hcs, ha⟩ := h c a c' hread
  exact ⟨cs, hcs, ha, by simpa using hclass⟩

theorem named (h : Takes p R) (rule : Rule) : Takes (named rule p) R := h

theorem collect {P : α → Prop} (h : Takes p fun _ a _ => P a) (fuel : Nat) (c : Cursor) :
    (∀ a ∈ (p.collect fuel c).1, P a) ∧
      ∃ cs, c.rest = cs ++ (p.collect fuel c).2.rest ∧ ((p.collect fuel c).1 = [] → cs = []) := by
  induction fuel generalizing c with
  | zero => exact ⟨nofun, [], rfl, fun _ => rfl⟩
  | succ fuel ih =>
    rw [Recogniser.collect]
    cases hread : p.read c with
    | none => exact ⟨nofun, [], rfl, fun _ => rfl⟩
    | some result =>
      obtain ⟨a, c'⟩ := result
      obtain ⟨cs, hcs, ha⟩ := h c a c' hread
      obtain ⟨has, ds, hds, -⟩ := ih c'
      exact ⟨List.forall_mem_cons.2 ⟨ha, has⟩, cs ++ ds, by rw [hcs, hds, List.append_assoc], nofun⟩

theorem many {P : α → Prop} (h : Takes p fun _ a _ => P a) :
    Takes p.many fun cs as _ => (∀ a ∈ as, P a) ∧ (as = [] → cs = []) := by
  intro c as c' hread
  obtain ⟨has, cs, hcs, hnil⟩ := collect h (c.rest.length + 1) c
  have hcollect : p.collect (c.rest.length + 1) c = (as, c') := Option.some.inj hread
  rw [hcollect] at has hcs hnil
  exact ⟨cs, hcs, has, hnil⟩

end Takes

end Recogniser

end BlogTheme.Template
