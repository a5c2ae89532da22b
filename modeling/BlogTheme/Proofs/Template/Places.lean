import BlogTheme.Proofs.Template.Items
import Mathlib.Data.List.DropRight

/-!
# Places in a source

The position behind a text counts its bytes, its lines, and the characters behind its last line
feed (`Position.start_after`). While segments are read every position that is kept is that of a
place in the source: those of the cursor, those of numbers, and that of the rules tried in vain
(`Segment.one_staysIn`).
-/

namespace BlogTheme.Template

/-! ## Positions -/

/-- What follows the last line feed of a text. -/
def lastLine (cs : List Char) : List Char :=
  cs.rtakeWhile (· != '\n')

@[simp] theorem lastLine_nil : lastLine [] = [] :=
  List.rtakeWhile_nil _

theorem lastLine_concat (cs : List Char) (c : Char) :
    lastLine (cs ++ [c]) = if c = '\n' then [] else lastLine cs ++ [c] := by
  by_cases hc : c = '\n' <;> simp [lastLine, hc]

/-- The size of a text in bytes. -/
def byteSize (cs : List Char) : Nat :=
  (String.ofList cs).utf8ByteSize

@[simp] theorem byteSize_nil : byteSize [] = 0 :=
  rfl

@[simp] theorem byteSize_append (cs ds : List Char) :
    byteSize (cs ++ ds) = byteSize cs + byteSize ds := by
  rw [byteSize, String.ofList_append, String.utf8ByteSize_append]
  rfl

theorem byteSize_singleton (c : Char) : byteSize [c] = c.utf8Size := by
  rw [byteSize, String.ofList_cons, String.utf8ByteSize_append, String.utf8ByteSize_singleton]
  rfl

theorem byteSize_pos {cs : List Char} (h : cs ≠ []) : 0 < byteSize cs := by
  obtain ⟨c, cs, rfl⟩ := List.exists_cons_of_ne_nil h
  rw [← List.singleton_append, byteSize_append, byteSize_singleton]
  exact Nat.add_pos_left c.utf8Size_pos _

/-- The position behind a text. -/
theorem Position.start_after (cs : List Char) : Position.start.after cs =
    { byte := byteSize cs, line := 1 + cs.count '\n', column := 1 + (lastLine cs).length } := by
  -- From the end, since the column depends on the last line only.
  induction cs using List.reverseRecOn with
  | nil => rfl
  | append_singleton cs c ih =>
    rw [after_append, ih]
    show next _ c = _
    rw [byteSize_append, byteSize_singleton, lastLine_concat]
    by_cases hc : c = '\n'
    · simp [next, hc, Nat.add_assoc]
    · simp [next, hc, Nat.add_assoc]

/-- Two ways of cutting a text in two at the same byte are the same. -/
theorem append_inj_of_byteSize {before before' rest rest' : List Char}
    (h : before ++ rest = before' ++ rest') (hsize : byteSize before = byteSize before') :
    before = before' ∧ rest = rest' := by
  have hnil {cs ds : List Char} (h : byteSize cs = byteSize (cs ++ ds)) : ds = [] := by
    by_contra hne
    have hpos := byteSize_pos hne
    rw [byteSize_append] at h
    omega
  obtain ⟨more, rfl, rfl⟩ | ⟨more, rfl, rfl⟩ := List.append_eq_append_iff.1 h
  · rw [hnil hsize]
    simp
  · rw [hnil hsize.symm]
    simp

/-- The position is that of a place in the source. -/
def Position.IsIn (source : List Char) (p : Position) : Prop :=
  ∃ before rest, source = before ++ rest ∧ p = Position.start.after before

/-- The cursor stands at a place in the source, in front of the rest of it. -/
def Cursor.IsIn (source : List Char) (c : Cursor) : Prop :=
  ∃ before, source = before ++ c.rest ∧ c.position = Position.start.after before

namespace Cursor.IsIn

variable {source : List Char} {c : Cursor}

theorem start (source : List Char) : (Cursor.start source).IsIn source :=
  ⟨[], rfl, rfl⟩

theorem position (h : c.IsIn source) : c.position.IsIn source := by
  obtain ⟨before, hsource, hposition⟩ := h
  exact ⟨before, c.rest, hsource, hposition⟩

theorem advance (h : c.IsIn source) {read rest : List Char} (hrest : c.rest = read ++ rest) :
    (c.advance read rest).IsIn source := by
  obtain ⟨before, hsource, hposition⟩ := h
  refine ⟨before ++ read, ?_, ?_⟩
  · rw [hsource, hrest, List.append_assoc]
    rfl
  · rw [Cursor.advance, hposition, Position.after_append]

theorem literal (h : c.IsIn source) {text : List Char} {c' : Cursor}
    (hliteral : c.literal? text = some c') : c'.IsIn source := by
  unfold Cursor.literal? at hliteral
  split at hliteral
  · rename_i hstarts
    cases hliteral
    obtain ⟨rest, hrest⟩ := List.isPrefixOf_iff_prefix.1 hstarts
    refine h.advance ?_
    rw [← hrest, List.drop_left]
  · cases hliteral

theorem takeWhile (h : c.IsIn source) (class' : Char → Bool) :
    (c.takeWhile class').2.IsIn source :=
  h.advance List.takeWhile_append_dropWhile.symm

/-- Two cursors in a source tell how far it is from one to the other. -/
theorem position_of_rest {c' : Cursor} (h : c.IsIn source) (h' : c'.IsIn source)
    {cs : List Char} (hrest : c.rest = cs ++ c'.rest) : c'.position = c.position.after cs := by
  obtain ⟨before, hsource, hposition⟩ := h
  obtain ⟨before', hsource', hposition'⟩ := h'
  have hbefore : before ++ cs = before' := by
    refine (List.append_left_inj c'.rest).1 ?_
    rw [List.append_assoc, ← hrest, ← hsource, hsource']
  rw [hposition', hposition, ← Position.after_append, hbefore]

end Cursor.IsIn

/-- The places where rules were tried in vain are in the source. -/
def Attempts.IsIn (source : List Char) (t : Attempts) : Prop :=
  t.furthest.IsIn source

theorem Attempts.IsIn.fail {source : List Char} {t : Attempts} (h : t.IsIn source) {p : Position}
    (hp : p.IsIn source) (rule : Rule) (before : Nat) : (t.fail rule p before).IsIn source := by
  unfold Attempts.fail
  split
  · exact h
  · split
    · exact h
    · split
      · exact hp
      · exact h

/-! ## Recognisers -/

namespace Recogniser

/-- Within a source the recogniser reads things that satisfy `P` and stays within the source, and
so does what it notes. -/
structure StaysIn (source : List Char) (p : Recogniser α) (P : α → Prop) : Prop where
  read : ∀ c a c', c.IsIn source → p.read c = some (a, c') → c'.IsIn source ∧ P a
  note : ∀ c t, c.IsIn source → t.IsIn source → (p.note c t).IsIn source

namespace StaysIn

variable {source : List Char} {p p' : Recogniser α} {q : Recogniser β} {P : α → Prop}
  {Q : β → Prop}

theorem mono (h : p.StaysIn source P) {P' : α → Prop} (hP : ∀ a, P a → P' a) :
    p.StaysIn source P' :=
  ⟨fun c a c' hc hread => (h.read c a c' hc hread).imp_right (hP a), h.note⟩

/-- Recognisers that note nothing. -/
theorem plain {read : Cursor → Option (α × Cursor)}
    (h : ∀ c a c', c.IsIn source → read c = some (a, c') → c'.IsIn source ∧ P a) :
    (Recogniser.plain read).StaysIn source P :=
  ⟨h, fun _ _ _ ht => ht⟩

theorem literal (text : String) : (literal text).StaysIn source fun _ => True := by
  refine plain fun c a c' hc hread => ?_
  obtain ⟨c₁, hliteral, heq⟩ := Option.map_eq_some_iff.1 hread
  cases heq
  exact ⟨hc.literal hliteral, trivial⟩

theorem run (class' : Char → Bool) : (run class').StaysIn source fun _ => True := by
  refine plain fun c a c' hc hread => ?_
  cases hread
  exact ⟨hc.takeWhile class', trivial⟩

theorem run1 (class' : Char → Bool) : (run1 class').StaysIn source fun _ => True := by
  refine plain fun c a c' hc hread => ?_
  split at hread
  · cases hread
  · cases hread
    exact ⟨hc.takeWhile class', trivial⟩

theorem position : Recogniser.position.StaysIn source (Position.IsIn source) := by
  refine plain fun c a c' hc hread => ?_
  cases hread
  exact ⟨hc, hc.position⟩

theorem map (h : p.StaysIn source P) {f : α → β} (hf : ∀ a, P a → Q (f a)) :
    (p.map f).StaysIn source Q := by
  refine ⟨fun c b c' hc hread => ?_, h.note⟩
  obtain ⟨⟨a, c₁⟩, hread, heq⟩ := Option.map_eq_some_iff.1 hread
  cases heq
  exact (h.read c a c' hc hread).imp_right (hf a)

theorem both (hp : p.StaysIn source P) (hq : q.StaysIn source Q) :
    (p.both q).StaysIn source fun ab => P ab.1 ∧ Q ab.2 := by
  constructor
  · intro c ab c' hc hread
    simp only [Recogniser.both, bind, Option.bind_eq_some_iff] at hread
    obtain ⟨⟨a, c₁⟩, hread, ⟨b, c₂⟩, hread', heq⟩ := hread
    cases heq
    obtain ⟨hc₁, ha⟩ := hp.read c a c₁ hc hread
    obtain ⟨hc₂, hb⟩ := hq.read c₁ b _ hc₁ hread'
    exact ⟨hc₂, ha, hb⟩
  · intro c t hc ht
    have hnote := hp.note c t hc ht
    rw [Recogniser.both]
    cases hread : p.read c with
    | none => simpa only [hread] using hnote
    | some result =>
      obtain ⟨a, c₁⟩ := result
      simpa only [hread] using hq.note c₁ _ (hp.read c a c₁ hc hread).1 hnote

theorem before (hp : p.StaysIn source P) (hq : q.StaysIn source Q) :
    (p.before q).StaysIn source P :=
  (hp.both hq).map fun _ h => h.1

theorem after (hp : p.StaysIn source P) (hq : q.StaysIn source Q) :
    (p.after q).StaysIn source Q :=
  (hp.both hq).map fun _ h => h.2

theorem orElse (hp : p.StaysIn source P) (hp' : p'.StaysIn source P) :
    (p.orElse p').StaysIn source P := by
  constructor
  · intro c a c' hc hread
    obtain hread | ⟨-, hread⟩ := Option.or_eq_some_iff.1 hread
    · exact hp.read c a c' hc hread
    · exact hp'.read c a c' hc hread
  · intro c t hc ht
    have hnote := hp.note c t hc ht
    rw [Recogniser.orElse]
    cases hread : p.read c with
    | none => simpa only [hread] using hp'.note c _ hc hnote
    | some result => simpa only [hread] using hnote

theorem notBefore (h : p.StaysIn source P) (class' : Char → Bool) :
    (p.notBefore class').StaysIn source P :=
  ⟨fun c a c' hc hread => h.read c a c' hc (Option.filter_eq_some_iff.1 hread).1, h.note⟩

theorem collect (h : p.StaysIn source P) (fuel : Nat) {c : Cursor} (hc : c.IsIn source) :
    (p.collect fuel c).2.IsIn source ∧ ∀ a ∈ (p.collect fuel c).1, P a := by
  induction fuel generalizing c with
  | zero => exact ⟨hc, List.forall_mem_nil _⟩
  | succ fuel ih =>
    rw [Recogniser.collect]
    cases hread : p.read c with
    | none => exact ⟨hc, List.forall_mem_nil _⟩
    | some result =>
      obtain ⟨a, c₁⟩ := result
      obtain ⟨hc₁, ha⟩ := h.read c a c₁ hc hread
      exact (ih hc₁).imp_right fun has => List.forall_mem_cons.2 ⟨ha, has⟩

theorem collectNotes (h : p.StaysIn source P) (fuel : Nat) {c : Cursor} {t : Attempts}
    (hc : c.IsIn source) (ht : t.IsIn source) : (p.collectNotes fuel c t).IsIn source := by
  induction fuel generalizing c t with
  | zero => exact ht
  | succ fuel ih =>
    have hnote := h.note c t hc ht
    rw [Recogniser.collectNotes]
    cases hread : p.read c with
    | none => exact hnote
    | some result =>
      obtain ⟨a, c₁⟩ := result
      exact ih (h.read c a c₁ hc hread).1 hnote

theorem many (h : p.StaysIn source P) : p.many.StaysIn source fun as => ∀ a ∈ as, P a := by
  refine ⟨fun c as c' hc hread => ?_, fun c t hc ht => h.collectNotes _ hc ht⟩
  have hcollect := h.collect (c.rest.length + 1) hc
  rwa [Option.some.inj hread] at hcollect

theorem named (h : p.StaysIn source P) (rule : Rule) : (named rule p).StaysIn source P := by
  refine ⟨h.read, fun c t hc ht => ?_⟩
  have hnote := h.note c t hc ht
  rw [Recogniser.named]
  cases hread : p.read c with
  | none => simpa only [hread] using hnote.fail hc.position rule _
  | some result => simpa only [hread] using hnote

end StaysIn

end Recogniser

/-! ## Words and tags -/

variable {source : List Char}

/-- The place of the word, if it is a number, is in the source. -/
def Word.IsIn (source : List Char) (w : Word) : Prop :=
  ∀ literal place, w = .number literal place → place.IsIn source

/-- The places of the numbers of a segment are in the source. -/
def Segment.IsIn (source : List Char) (s : Segment) : Prop :=
  ∀ w ∈ s.words, w.IsIn source

namespace Recogniser

theorem path_staysIn : path.StaysIn source fun _ => True :=
  ((StaysIn.run1 _).map fun _ _ => trivial).named _

theorem string_staysIn : string.StaysIn source fun _ => True := by
  have hquoted (quote : String) (q : Char) :
      (((literal quote).after ((run (· != q)).before (literal quote))).map
        String.ofList).StaysIn source fun _ => True :=
    ((StaysIn.literal quote).after ((StaysIn.run _).before (.literal quote))).map fun _ _ => trivial
  exact ((hquoted _ _).orElse (hquoted _ _)).named _

theorem number_staysIn : number.StaysIn source fun _ => True := by
  have hsign : sign.StaysIn source fun _ => True :=
    .orElse ((StaysIn.literal "-").map fun _ _ => trivial) (.run _)
  rw [number_eq]
  exact (((hsign.both (.run1 _)).notBefore _).map fun _ _ => trivial).named _

theorem boolean_staysIn : boolean.StaysIn source fun _ => True :=
  ((StaysIn.orElse ((StaysIn.literal "true").map fun _ _ => trivial)
    ((StaysIn.literal "false").map fun _ _ => trivial)).notBefore _).named _

theorem word_staysIn : word.StaysIn source (Word.IsIn source) := by
  rw [word_eq]
  refine .orElse (string_staysIn.map fun _ _ => nofun) <| .orElse ?_ <|
    .orElse (boolean_staysIn.map fun _ _ => nofun) (path_staysIn.map fun _ _ => nofun)
  refine (StaysIn.position.both number_staysIn).map ?_
  rintro ⟨place, literal⟩ ⟨hplace, -⟩ _ _ ⟨⟩
  exact hplace

theorem arg_staysIn : arg.StaysIn source fun a => a.word.IsIn source := by
  have hkey : keyName.StaysIn source fun _ => True :=
    ((StaysIn.run1 _).map fun _ _ => trivial).named _
  have hkeyed : keyed.StaysIn source fun a => a.word.IsIn source := by
    rw [keyed_eq]
    refine ((hkey.both ((StaysIn.literal "=").after word_staysIn)).map ?_).named _
    exact fun _ h => h.2
  exact hkeyed.orElse (word_staysIn.map fun _ h => h)

theorem args_staysIn : args.StaysIn source fun as => ∀ a ∈ as, a.word.IsIn source :=
  ((StaysIn.run1 _).after arg_staysIn).many

theorem invocation_staysIn :
    invocation.StaysIn source fun i => ∀ a ∈ i.2, a.word.IsIn source :=
  ((path_staysIn.both args_staysIn).mono fun _ h => h.2).named _

theorem between_staysIn {p : Recogniser α} {P : α → Prop} (h : p.StaysIn source P)
    (opening closing : String) : (between opening closing p).StaysIn source P :=
  (((StaysIn.literal _).after (.run _)).after (h.before (.run _))).before (.literal _)

end Recogniser

/-! ## Segments -/

namespace Segment

open Recogniser

theorem comment_staysIn (opening closing : String) :
    (commentBetween opening closing).StaysIn source (Segment.IsIn source) := by
  refine .plain fun c seg c' hc hread => ?_
  simp only [bind, Option.bind_eq_some_iff] at hread
  obtain ⟨c₁, hopening, ⟨front, rest⟩, hupTo, heq⟩ := hread
  cases heq
  exact ⟨(hc.literal hopening).advance (upTo?_append hupTo), nofun⟩

theorem plainText_staysIn : plainText.StaysIn source (Segment.IsIn source) := by
  refine .named (.plain fun c seg c' hc hread => ?_) .text
  obtain ⟨front, rest, hrun, hrest, -⟩ := textRun_spec c.rest
  simp only [hrun] at hread
  split at hread
  · cases hread
  · cases hread
    exact ⟨hc.advance hrest, nofun⟩

theorem inclusionName_staysIn : inclusionName.StaysIn source (Word.IsIn source) :=
  ((string_staysIn.map fun _ _ => nofun).orElse (path_staysIn.map fun _ _ => nofun)).named _

theorem inverseMark_staysIn : inverseMark.StaysIn source fun _ => True :=
  ((StaysIn.literal "else").notBefore _).orElse (.literal "^")

/-- While a segment is read nothing leaves the source. -/
theorem one_staysIn : one.StaysIn source (Segment.IsIn source) := by
  have hlayout : layoutTag.StaysIn source (Segment.IsIn source) :=
    ((between_staysIn arg_staysIn _ _).map fun _ h => List.forall_mem_singleton.2 h).named _
  have hraw : rawTag.StaysIn source (Segment.IsIn source) :=
    ((between_staysIn invocation_staysIn _ _).map fun _ h => List.forall_mem_map.2 h).named _
  have hopen : openTag.StaysIn source (Segment.IsIn source) :=
    ((between_staysIn invocation_staysIn _ _).map fun _ h => List.forall_mem_map.2 h).named _
  have hinverse : inverseTag.StaysIn source (Segment.IsIn source) :=
    ((between_staysIn inverseMark_staysIn _ _).map fun _ _ => nofun).named _
  have hclose : closeTag.StaysIn source (Segment.IsIn source) :=
    ((between_staysIn path_staysIn _ _).map fun _ _ => nofun).named _
  have hinclude : includeTag.StaysIn source (Segment.IsIn source) :=
    ((between_staysIn (inclusionName_staysIn.both args_staysIn) _ _).map fun _ h =>
      List.forall_mem_cons.2 ⟨h.1, List.forall_mem_map.2 h.2⟩).named _
  have hexpression : expressionTag.StaysIn source (Segment.IsIn source) :=
    ((between_staysIn invocation_staysIn _ _).map fun _ h => List.forall_mem_map.2 h).named _
  exact .orElse ((comment_staysIn _ _).named _) <| .orElse hlayout <|
    .orElse ((comment_staysIn _ _).named _) <| .orElse hraw <| .orElse hopen <|
    .orElse hinverse <| .orElse hclose <| .orElse hinclude <| .orElse hexpression plainText_staysIn

end Segment

/-! ## Sequences of segments -/

/-- The segment was read at its place in the source. -/
def Placed.IsReadIn (source : List Char) (p : Placed) : Prop :=
  ∃ before rest c, source = before ++ rest ∧ p.start = Position.start.after before ∧
    Segment.one.read ⟨rest, p.start⟩ = some (p.segment, c)

theorem Segment.placed_staysIn : placed.StaysIn source (Placed.IsReadIn source) := by
  refine ⟨fun c p c' hc hread => ?_, one_staysIn.note⟩
  obtain ⟨⟨segment, c''⟩, hone, heq⟩ := Option.map_eq_some_iff.1 hread
  cases heq
  obtain ⟨before, hsource, hposition⟩ := hc
  exact ⟨(one_staysIn.read _ _ _ ⟨before, hsource, hposition⟩ hone).1,
    before, c.rest, c', hsource, hposition, hone⟩

/-- Every segment of a source was read at its place, and what is left of the source stands at its
own. -/
theorem Segment.sequence_isIn (source : List Char) :
    (sequence source).2.IsIn source ∧ ∀ p ∈ (sequence source).1, p.IsReadIn source :=
  placed_staysIn.collect _ (.start source)

end BlogTheme.Template
