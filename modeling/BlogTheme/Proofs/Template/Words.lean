import BlogTheme.Proofs.Template.Recognising
import BlogTheme.Proofs.Template.Writing
import BlogTheme.Proofs.Text.Decimal

/-!
# The words of tags

What can be written of names and arguments is read back (`Recogniser.path_reads`,
`Recogniser.word_reads`, `Recogniser.args_reads`), and whatever is read of them can be written
(`Recogniser.path_takes`, `Recogniser.word_takes`, `Recogniser.arg_takes`). A number, a truth
value and the key of an argument are paths up to what follows, so each of these readers refuses
a path for which another was meant: all of them go up to the end of a word
(`wordEnd_unique`).
-/

namespace BlogTheme.Template

open BlogTheme.Text (isDigit)

/-! ## Characters -/

theorem isPathChar_of_isDigit {c : Char} (h : isDigit c) : isPathChar c := by
  have hdigit : ('0' ≤ c && c ≤ '9') = true := h
  simp [isPathChar, isAlphanumeric, hdigit]

theorem isPathChar_of_isKeyChar {c : Char} (h : isKeyChar c) : isPathChar c := by
  unfold isKeyChar at h
  unfold isPathChar
  grind

theorem isPathChar_ne {c d : Char} (h : isPathChar c) (hd : isPathChar d = false) : c ≠ d := by
  rintro rfl
  rw [hd] at h
  cases h

/-- Characters of paths before one that is none can be told from what follows. -/
theorem wordEnd_unique {cs ds rest rest' : List Char} (h : cs ++ rest = ds ++ rest')
    (hcs : ∀ c ∈ cs, isPathChar c) (hds : ∀ c ∈ ds, isPathChar c)
    (hrest : rest.head?.any isPathChar = false) (hrest' : rest'.head?.any isPathChar = false) :
    cs = ds ∧ rest = rest' := by
  have hend {rest : List Char} (hrest : rest.head?.any isPathChar = false) :
      rest.takeWhile isPathChar = [] := by
    cases rest with
    | nil => rfl
    | cons c rest => simp_all
  have htake := congrArg (List.takeWhile isPathChar) h
  rw [List.takeWhile_append_of_pos hcs, List.takeWhile_append_of_pos hds, hend hrest, hend hrest',
    List.append_nil, List.append_nil] at htake
  subst htake
  exact ⟨rfl, List.append_cancel_left h⟩

theorem isPathText_iff {s : String} :
    isPathText s ↔ s.toList ≠ [] ∧ ∀ c ∈ s.toList, isPathChar c := by
  simp [isPathText]

theorem isKeyText_iff {s : String} :
    isKeyText s ↔ s.toList ≠ [] ∧ ∀ c ∈ s.toList, isKeyChar c := by
  simp [isKeyText]

/-- A numeral is a word. -/
theorem isPathChar_of_mem_numeral {cs : List Char} (h : isNumeral cs) : ∀ c ∈ cs, isPathChar c := by
  have hdigits {ds : List Char} (h : (!ds.isEmpty && ds.all isDigit) = true) :
      ∀ c ∈ ds, isPathChar c := by
    intro c hc
    rw [Bool.and_eq_true, List.all_eq_true] at h
    exact isPathChar_of_isDigit (h.2 c hc)
  unfold isNumeral at h
  split at h
  · intro c hc
    obtain rfl | hc := List.mem_cons.1 hc
    · decide
    · exact hdigits h c hc
  · exact hdigits h

/-- The word can be written. -/
def Word.IsWritable : Word → Prop
  | .string s => (Argument.string s).isWritable
  | .number literal _ => isNumeral literal.toList
  | .boolean _ => True
  | .path p => (Argument.path p).isWritable

/-- The argument of a tag can be written. -/
def Arg.IsWritable (a : Arg) : Prop :=
  (∀ key, a.key = some key → isKeyText key) ∧ a.word.IsWritable

/-- An argument can be written with its key. -/
def ArgumentWritable (x : Option String × Argument) : Prop :=
  (∀ key, x.1 = some key → isKeyText key) ∧ x.2.isWritable

/-- An argument of a tag stands for this one, with this key. -/
def Spells (x : Option String × Argument) (a : Arg) : Prop :=
  a.key = x.1 ∧ a.word.argument = .ok x.2

/-- The arguments of an expression that can be written can each be written. -/
theorem argumentWritable_of_mem {i : Invocation} (h : i.hasWritableArguments) :
    ∀ x ∈ i.arguments, ArgumentWritable x := by
  simp only [Invocation.hasWritableArguments, Bool.and_eq_true, List.all_eq_true] at h
  obtain ⟨⟨hparams, hhash⟩, -⟩ := h
  intro x hx
  obtain hx | hx := List.mem_append.1 hx
  · obtain ⟨a, ha, rfl⟩ := List.mem_map.1 hx
    exact ⟨nofun, hparams a ha⟩
  · obtain ⟨entry, hentry, rfl⟩ := List.mem_map.1 hx
    obtain ⟨hkey, ha⟩ := hhash entry hentry
    exact ⟨fun key h => Option.some.inj h ▸ hkey, ha⟩

theorem argumentsChars_cons (x : Option String × Argument) (l : List (Option String × Argument)) :
    argumentsChars (x :: l) = ' ' :: (argumentChars x ++ argumentsChars l) :=
  rfl

theorem argumentsChars_singleton (x : Option String × Argument) :
    argumentsChars [x] = ' ' :: argumentChars x := by
  rw [argumentsChars_cons]
  exact congrArg _ (List.append_nil _)

namespace Recogniser

/-! ## Paths and strings -/

theorem path_reads {s : String} (hs : isPathText s) {rest : List Char}
    (hrest : rest.head?.any isPathChar = false) : Reads path s.toList rest (· = s) := by
  obtain ⟨hne, hall⟩ := isPathText_iff.1 hs
  refine ((Reads.run1 hne hall hrest).map fun cs hcs => ?_).named .path
  rw [hcs, String.ofList_toList]

theorem path_takes : Takes path fun cs s rest =>
    s.toList = cs ∧ isPathText s ∧ rest.head?.any isPathChar = false := by
  refine (((Takes.run1 isPathChar).map String.ofList).named .path).mono ?_
  rintro _ _ rest ⟨cs, rfl, rfl, hne, hall, hrest⟩
  have hcs : (String.ofList cs).toList = cs := String.toList_ofList
  refine ⟨hcs, isPathText_iff.2 ?_, hrest⟩
  rw [hcs]
  exact ⟨hne, hall⟩

theorem path_refuses {cs : List Char} (h : cs.head?.any isPathChar = false) : path.Refuses cs :=
  ((Refuses.run1 h).map _).named .path

/-- A string between quotes of one kind. -/
theorem quoted_reads (quote : String) (q : Char) (hquote : quote.toList = [q]) {s : String}
    (hs : q ∉ s.toList) (rest : List Char) :
    Reads (((literal quote).after ((run (· != q)).before (literal quote))).map String.ofList)
      (q :: (s.toList ++ [q])) rest (· = s) := by
  have hclose := Reads.literal quote rest
  have hopen := Reads.literal quote (s.toList ++ [q] ++ rest)
  rw [hquote] at hclose hopen
  have hinner : Reads (run (· != q)) s.toList ([q] ++ rest) (· = s.toList) := by
    refine Reads.run (fun c hc => ?_) (by simp)
    have hne : c ≠ q := by rintro rfl; exact hs hc
    simpa using hne
  refine (hopen.after (hinner.before hclose)).map fun cs hcs => ?_
  rw [hcs, String.ofList_toList]

theorem quoted_takes (quote : String) (q : Char) (hquote : quote.toList = [q]) :
    Takes (((literal quote).after ((run (· != q)).before (literal quote))).map String.ofList)
      fun cs s _ => cs = q :: (s.toList ++ [q]) ∧ q ∉ s.toList := by
  refine (((Takes.literal quote).after
    ((Takes.run (· != q)).before (Takes.literal quote))).map String.ofList).mono ?_
  rintro _ _ rest ⟨_, rfl, _, _, _, rfl, rfl, inner, _, _, rfl, ⟨rfl, hall, -⟩, rfl⟩
  rw [String.toList_ofList, hquote]
  refine ⟨rfl, fun hmem => ?_⟩
  simpa using hall q hmem

theorem string_reads {s : String} (hs : (Argument.string s).isWritable) (rest : List Char) :
    Reads string (Argument.string s).chars rest (· = s) := by
  simp only [Argument.isWritable, Bool.or_eq_true, Bool.not_eq_true', List.contains_eq_mem,
    decide_eq_false_iff_not] at hs
  refine Reads.named ?_ .string
  simp only [Argument.chars, List.contains_eq_mem, decide_eq_true_eq]
  split
  · rename_i hdouble
    have hsingle := hs.resolve_left (not_not_intro hdouble)
    refine .orElse_right ?_ (quoted_reads "'" '\'' rfl hsingle rest)
    exact Refuses.map (Refuses.both_left (.literal rfl) |>.map _) _
  · rename_i hdouble
    exact (quoted_reads "\"" '"' rfl hdouble rest).orElse_left

/-- A string is taken with the quotes around it. -/
theorem string_takes : Takes string fun cs s _ =>
    (∃ q, (q = '"' ∨ q = '\'') ∧ q ∉ s.toList ∧ cs = q :: (s.toList ++ [q])) ∧
      (Argument.string s).isWritable := by
  refine Takes.named (.orElse ?_ ?_) .string
  · refine (quoted_takes "\"" '"' rfl).mono fun cs s rest ⟨hcs, hs⟩ =>
      ⟨⟨_, .inl rfl, hs, hcs⟩, ?_⟩
    simp [Argument.isWritable, hs]
  · refine (quoted_takes "'" '\'' rfl).mono fun cs s rest ⟨hcs, hs⟩ =>
      ⟨⟨_, .inr rfl, hs, hcs⟩, ?_⟩
    simp [Argument.isWritable, hs]

theorem string_refuses {cs : List Char} (hdouble : cs.head? ≠ some '"')
    (hsingle : cs.head? ≠ some '\'') : string.Refuses cs := by
  have hrefuses (quote : String) (q : Char) (hquote : quote.toList = [q])
      (hq : cs.head? ≠ some q) : (literal quote).Refuses cs := by
    refine .literal ?_
    rw [hquote]
    cases cs with
    | nil => rfl
    | cons c cs =>
      have hc : q ≠ c := fun h => hq (by rw [h]; rfl)
      simp [List.isPrefixOf, hc]
  exact .named (.orElse (.map ((hrefuses "\"" '"' rfl hdouble).both_left.map _) _)
    (.map ((hrefuses "'" '\'' rfl hsingle).both_left.map _) _)) .string

/-! ## Numbers and truth values -/

/-- The sign of a number, if it has one. -/
def sign : Recogniser (List Char) :=
  ((literal "-").map fun _ => ['-']).orElse (run fun _ => false)

theorem number_eq : number = named .number (((sign.both (run1 isDigit)).notBefore isPathChar).map
    fun (sign, ds) => String.ofList (sign ++ ds)) :=
  rfl

theorem sign_takes : Takes sign fun cs a _ => a = cs ∧ (cs = ['-'] ∨ cs = []) := by
  refine .orElse ?_ ?_
  · refine ((Takes.literal "-").map fun _ => ['-']).mono ?_
    rintro cs _ rest ⟨_, rfl, rfl⟩
    exact ⟨rfl, .inl rfl⟩
  · refine (Takes.run fun _ => false).mono ?_
    rintro cs _ rest ⟨rfl, hall, -⟩
    refine ⟨rfl, .inr ?_⟩
    exact List.eq_nil_iff_forall_not_mem.2 fun c hc => Bool.false_ne_true (hall c hc)

theorem number_reads {cs : List Char} (hcs : isNumeral cs) {rest : List Char}
    (hrest : rest.head?.any isPathChar = false) :
    Reads number cs rest (· = String.ofList cs) := by
  have hend : rest.head?.any isDigit = false := by
    cases rest with
    | nil => rfl
    | cons c rest =>
      simp only [List.head?_cons, Option.any_some] at hrest ⊢
      exact Bool.eq_false_iff.2 fun h => Bool.eq_false_iff.1 hrest (isPathChar_of_isDigit h)
  have hdigits {ds : List Char} (h : (!ds.isEmpty && ds.all isDigit) = true) :
      Reads (run1 isDigit) ds rest (· = ds) := by
    rw [Bool.and_eq_true, List.all_eq_true] at h
    exact .run1 (by simpa using h.1) h.2 hend
  have hread {front ds : List Char} (hsign : Reads sign front (ds ++ rest) (· = front))
      (hds : Reads (run1 isDigit) ds rest (· = ds)) :
      Reads number (front ++ ds) rest (· = String.ofList (front ++ ds)) := by
    rw [number_eq]
    refine (((hsign.both hds).notBefore hrest).map ?_).named .number
    rintro _ ⟨rfl, rfl⟩
    rfl
  unfold isNumeral at hcs
  split at hcs
  · rename_i ds
    have hsign : Reads sign ['-'] (ds ++ rest) (· = ['-']) :=
      ((Reads.literal "-" _).map (Q := (· = ['-'])) fun _ _ => rfl).orElse_left
    have hnumber := hread hsign (hdigits hcs)
    exact hnumber
  · rename_i hminus
    have hrefuses : ((literal "-").map fun _ => ['-']).Refuses ([] ++ (cs ++ rest)) := by
      refine .map (.literal ?_) _
      cases cs with
      | nil => simp at hcs
      | cons c ds =>
        have hc : '-' ≠ c := fun h => hminus ds (by rw [h])
        simp [List.isPrefixOf, hc]
    have hsign : Reads sign [] (cs ++ rest) (· = []) :=
      .orElse_right hrefuses (.run nofun (by cases (cs ++ rest) <;> rfl))
    have hnumber := hread hsign (hdigits hcs)
    exact hnumber

theorem number_takes : Takes number fun cs literal rest =>
    literal = String.ofList cs ∧ isNumeral cs ∧ rest.head?.any isPathChar = false := by
  rw [number_eq]
  refine ((((sign_takes.both (Takes.run1 isDigit)).notBefore isPathChar).map _).named .number).mono
    ?_
  rintro _ _ rest ⟨⟨front, ds⟩, rfl, ⟨_, _, rfl, ⟨rfl, hfront⟩, rfl, hne, hall, -⟩, hrest⟩
  have hds : (!ds.isEmpty && ds.all isDigit) = true := by simpa [hne] using hall
  refine ⟨rfl, ?_, hrest⟩
  obtain rfl | rfl := hfront
  · exact hds
  · unfold isNumeral
    split
    · rename_i heq
      have hminus := hall '-' (by rw [show ds = _ from heq]; exact List.mem_cons_self)
      cases hminus
    · exact hds

theorem boolean_reads (b : Bool) {rest : List Char} (hrest : rest.head?.any isPathChar = false) :
    Reads boolean (Argument.boolean b).chars rest (· = b) := by
  refine Reads.named (.notBefore ?_ hrest) .boolean
  cases b with
  | true => exact ((Reads.literal "true" rest).map (Q := (· = true)) fun _ _ => rfl).orElse_left
  | false =>
    refine .orElse_right (.map (.literal rfl) _) ?_
    exact (Reads.literal "false" rest).map (Q := (· = false)) fun _ _ => rfl

theorem boolean_takes : Takes boolean fun cs b rest =>
    cs = (Argument.boolean b).chars ∧ rest.head?.any isPathChar = false := by
  refine Takes.named (.notBefore (.orElse ?_ ?_) isPathChar) .boolean
  · refine ((Takes.literal "true").map fun _ => true).mono ?_
    rintro cs _ rest ⟨_, rfl, rfl⟩
    rfl
  · refine ((Takes.literal "false").map fun _ => false).mono ?_
    rintro cs _ rest ⟨_, rfl, rfl⟩
    rfl

section

variable {cs rest : List Char} (hcs : ∀ c ∈ cs, isPathChar c)
  (hrest : rest.head?.any isPathChar = false)
include hcs hrest

/-- A word that is no numeral is not read as a number. -/
theorem number_refuses (hnumeral : isNumeral cs = false) : number.Refuses (cs ++ rest) := by
  refine .of_takes number_takes fun ds _ rest' h ⟨_, hds, hrest'⟩ => ?_
  obtain ⟨rfl, -⟩ := wordEnd_unique h hcs (isPathChar_of_mem_numeral hds) hrest hrest'
  rw [hnumeral] at hds
  cases hds

/-- A word that is no truth value is not read as one. -/
theorem boolean_refuses (hboolean : ∀ b, cs ≠ (Argument.boolean b).chars) :
    boolean.Refuses (cs ++ rest) := by
  refine .of_takes boolean_takes fun ds b rest' h ⟨hds, hrest'⟩ => ?_
  have hall : ∀ c ∈ ds, isPathChar c := by
    subst hds
    cases b <;> exact List.all_eq_true.1 rfl
  obtain ⟨rfl, -⟩ := wordEnd_unique h hcs hall hrest hrest'
  exact hboolean b hds

end

/-! ## Arguments -/

/-- A key. -/
def keyName : Recogniser String :=
  named .hashKey ((run1 isKeyChar).map String.ofList)

theorem keyed_eq : keyed = named .hashPair ((keyName.both ((literal "=").after word)).map
    fun (key, word) => { key := some key, word }) :=
  rfl

theorem keyName_reads {key : String} (hkey : isKeyText key) {rest : List Char}
    (hrest : rest.head?.any isKeyChar = false) : Reads keyName key.toList rest (· = key) := by
  obtain ⟨hne, hall⟩ := isKeyText_iff.1 hkey
  refine ((Reads.run1 hne hall hrest).map fun cs hcs => ?_).named .hashKey
  rw [hcs, String.ofList_toList]

theorem keyName_takes : Takes keyName fun cs key _ => key.toList = cs ∧ isKeyText key := by
  refine (((Takes.run1 isKeyChar).map String.ofList).named .hashKey).mono ?_
  rintro _ _ rest ⟨cs, rfl, rfl, hne, hall, -⟩
  have hcs : (String.ofList cs).toList = cs := String.toList_ofList
  refine ⟨hcs, isKeyText_iff.2 ?_⟩
  rw [hcs]
  exact ⟨hne, hall⟩

/-- A number with its place. -/
def placedNumber : Recogniser Word :=
  (position.both number).map fun r => .number r.2 r.1

theorem word_eq : word = (string.map .string).orElse (placedNumber.orElse
    ((boolean.map .boolean).orElse (path.map .path))) :=
  rfl

theorem placedNumber_reads {cs : List Char} (hcs : isNumeral cs) {rest : List Char}
    (hrest : rest.head?.any isPathChar = false) :
    Reads placedNumber cs rest fun w => ∃ place, w = .number (String.ofList cs) place := by
  refine ((Reads.position (cs ++ rest)).both (number_reads hcs hrest)).map ?_
  rintro ⟨place, _⟩ ⟨-, rfl⟩
  exact ⟨place, rfl⟩

theorem placedNumber_takes : Takes placedNumber fun _ w _ => ∃ literal place,
    w = .number literal place ∧ isNumeral literal.toList := by
  refine ((Takes.position.both number_takes).map _).mono ?_
  rintro _ _ rest ⟨⟨place, _⟩, rfl, _, cs, -, -, rfl, hcs, -⟩
  refine ⟨String.ofList cs, place, rfl, ?_⟩
  rwa [String.toList_ofList]

/-- A path is read where no truth value was. -/
theorem booleanOrPath_takes : Takes ((boolean.map Word.boolean).orElse (path.map Word.path))
    fun cs w rest => (∃ b, w = .boolean b) ∨ ∃ p, w = .path p ∧ p.toList = cs ∧ isPathText p ∧
      rest.head?.any isPathChar = false ∧ ∀ b, cs ≠ (Argument.boolean b).chars := by
  refine .orElse_refused (boolean_takes.map Word.boolean) (path_takes.map Word.path) ?_ ?_
  · rintro cs w rest hrefuses ⟨p, hw, hcs, hp, hrest⟩
    refine .inr ⟨p, hw, hcs, hp, hrest, fun b hb => ?_⟩
    subst hb
    have hreads : Reads (boolean.map Word.boolean) (Argument.boolean b).chars rest
        (· = Word.boolean b) := (boolean_reads b hrest).map fun _ h => by rw [h]
    exact Refuses.not_reads hrefuses hreads
  · rintro cs w rest ⟨b, hw, -⟩
    exact .inl ⟨b, hw⟩

theorem word_takes : Takes word fun _ w _ => w.IsWritable := by
  rw [word_eq]
  refine .orElse ((string_takes.map Word.string).mono ?_)
    (.orElse_refused placedNumber_takes booleanOrPath_takes ?_ ?_)
  · rintro cs _ rest ⟨s, rfl, -, hs⟩
    exact hs
  · rintro cs w rest hrefuses (⟨b, rfl⟩ | ⟨p, rfl, rfl, hp, hrest, hnot⟩)
    · trivial
    · -- A path is read where no number was.
      have hnumeral : isNumeral p.toList = false := by
        by_contra h
        have hnumeral : isNumeral p.toList := by simpa using h
        exact Refuses.not_reads hrefuses (placedNumber_reads hnumeral hrest)
      have htrue : p ≠ "true" := by rintro rfl; exact hnot true rfl
      have hfalse : p ≠ "false" := by rintro rfl; exact hnot false rfl
      simp [Word.IsWritable, Argument.isWritable, hp, hnumeral, htrue, hfalse]
  · rintro cs _ rest ⟨literal, place, rfl, hliteral⟩
    exact hliteral

theorem isNumeral_intDigits (n : Int) : isNumeral (Text.intDigits n) := by
  have hdigits (n : Nat) : (!(Text.digits n).isEmpty && (Text.digits n).all isDigit) = true := by
    simp only [Bool.and_eq_true, List.all_eq_true, Bool.not_eq_true', List.isEmpty_eq_false_iff]
    exact ⟨Text.digits_ne_nil n, fun c hc => Text.isDigit_of_mem_digits hc⟩
  unfold Text.intDigits
  split
  · exact hdigits _
  · unfold isNumeral
    split
    · rename_i heq
      have hminus : '-' ∈ Text.digits n.natAbs := by rw [heq]; exact List.mem_cons_self
      have hdigit := Text.isDigit_of_mem_digits hminus
      cases hdigit
    · exact hdigits _

/-- What is written of an argument that is no string is a word. -/
theorem chars_isWord {a : Argument} (ha : a.isWritable) (hstring : ∀ s, a ≠ .string s) :
    a.chars ≠ [] ∧ ∀ c ∈ a.chars, isPathChar c := by
  cases a with
  | string s => exact absurd rfl (hstring s)
  | path p =>
    simp only [Argument.isWritable, Bool.and_eq_true] at ha
    exact isPathText_iff.1 ha.1.1.1
  | number n =>
    refine ⟨?_, isPathChar_of_mem_numeral (isNumeral_intDigits n.toInt)⟩
    intro h
    have hnumeral := isNumeral_intDigits n.toInt
    rw [show Text.intDigits n.toInt = [] from h] at hnumeral
    cases hnumeral
  | boolean b => cases b <;> exact ⟨List.cons_ne_nil _ _, List.all_eq_true.1 rfl⟩

theorem string_refuses_word {cs : List Char} (hne : cs ≠ []) (hcs : ∀ c ∈ cs, isPathChar c)
    (rest : List Char) : string.Refuses (cs ++ rest) := by
  cases cs with
  | nil => exact absurd rfl hne
  | cons c cs =>
    have hc := hcs c List.mem_cons_self
    refine string_refuses ?_ ?_
    · simpa using isPathChar_ne hc rfl
    · simpa using isPathChar_ne hc rfl

theorem word_reads {a : Argument} (ha : a.isWritable) {rest : List Char}
    (hrest : rest.head?.any isPathChar = false) :
    Reads word a.chars rest fun w => w.argument = .ok a := by
  rw [word_eq]
  by_cases hstring : ∃ s, a = .string s
  · obtain ⟨s, rfl⟩ := hstring
    exact ((string_reads ha rest).map fun _ h => by rw [h]; rfl).orElse_left
  · obtain ⟨hne, hcs⟩ := chars_isWord ha fun s h => hstring ⟨s, h⟩
    refine .orElse_right (.map (string_refuses_word hne hcs rest) _) ?_
    have hnumber (hnumeral : isNumeral a.chars = false) : placedNumber.Refuses (a.chars ++ rest) :=
      .map (.both_right (Reads.position (a.chars ++ rest)) (number_refuses hcs hrest hnumeral)) _
    cases a with
    | string s => exact absurd ⟨s, rfl⟩ hstring
    | number n =>
      refine ((placedNumber_reads (isNumeral_intDigits n.toInt) hrest).mono ?_).orElse_left
      rintro _ ⟨place, rfl⟩
      simp [Word.argument, Text.readInt64?_intDigits]
    | boolean b =>
      refine .orElse_right (hnumber (by cases b <;> rfl)) ?_
      exact ((boolean_reads b hrest).map fun _ h => by rw [h]; rfl).orElse_left
    | path p =>
      simp only [Argument.isWritable, Bool.and_eq_true, Bool.not_eq_true', bne_iff_ne] at ha
      obtain ⟨⟨⟨hp, hnumeral⟩, htrue⟩, hfalse⟩ := ha
      have hboolean : boolean.Refuses (p.toList ++ rest) := by
        refine boolean_refuses hcs hrest ?_
        rintro (_ | _) h
        · exact hfalse (String.toList_injective h)
        · exact htrue (String.toList_injective h)
      refine .orElse_right (hnumber hnumeral) (.orElse_right (.map hboolean _) ?_)
      exact (path_reads hp hrest).map fun _ h => by rw [h]; rfl

/-- A word has no key before what follows it. -/
theorem keyed_refuses {cs rest : List Char} (hcs : ∀ c ∈ cs, isPathChar c)
    (hrest : rest.head?.any isPathChar = false) (hequals : rest.head? ≠ some '=') :
    keyed.Refuses (cs ++ rest) := by
  rw [keyed_eq]
  have htakes := (keyName_takes.both ((Takes.literal "=").after word_takes)).map
    fun (key, word) => ({ key := some key, word } : Arg)
  refine .of_takes (htakes.named .hashPair) ?_
  rintro _ _ rest' h ⟨⟨key, w⟩, -, front, _, rfl, ⟨hfront, hkey⟩, _, back, _, rfl, rfl, -⟩
  have hall : ∀ c ∈ front, isPathChar c := by
    intro c hc
    rw [← hfront] at hc
    exact isPathChar_of_isKeyChar ((isKeyText_iff.1 hkey).2 c hc)
  rw [List.append_assoc, List.append_assoc] at h
  obtain ⟨-, rfl⟩ := wordEnd_unique h hcs hall hrest rfl
  exact hequals rfl

theorem arg_takes : Takes arg fun _ a _ => a.IsWritable := by
  refine .orElse ?_ ?_
  · rw [keyed_eq]
    refine (((keyName_takes.both ((Takes.literal "=").after word_takes)).map _).named
      .hashPair).mono ?_
    rintro _ _ rest ⟨⟨key, w⟩, rfl, front, _, -, ⟨-, hkey⟩, _, _, _, -, -, hw⟩
    exact ⟨fun key' h => Option.some.inj h ▸ hkey, hw⟩
  · refine (word_takes.map _).mono ?_
    rintro _ _ rest ⟨w, rfl, hw⟩
    exact ⟨nofun, hw⟩

theorem arg_reads {x : Option String × Argument} (hx : ArgumentWritable x) (rest : List Char) :
    Reads arg (argumentChars x) (' ' :: rest) (Spells x) := by
  obtain ⟨_ | key, a⟩ := x
  · obtain ⟨-, ha⟩ := hx
    have hword : Reads word a.chars (' ' :: rest) fun w => w.argument = .ok a := word_reads ha rfl
    refine .orElse_right ?_ (hword.map fun _ h => ⟨rfl, h⟩)
    by_cases hstring : ∃ s, a = .string s
    · obtain ⟨s, rfl⟩ := hstring
      rw [keyed_eq]
      refine .named (.map (.both_left (.named (.map (.run1 ?_) _) .hashKey)) _) .hashPair
      simp only [argumentChars, Argument.chars]
      split <;> rfl
    · obtain ⟨-, hcs⟩ := chars_isWord ha fun s h => hstring ⟨s, h⟩
      exact keyed_refuses hcs rfl (by simp)
  · obtain ⟨hkey, ha⟩ := hx
    have hword := (Reads.literal "=" (a.chars ++ ' ' :: rest)).after (word_reads ha rfl)
    have hend : ("=".toList ++ a.chars ++ ' ' :: rest).head?.any isKeyChar = false := rfl
    have hreads := (keyName_reads (hkey key rfl) hend).both hword
    rw [show argumentChars (some key, a) = key.toList ++ ("=".toList ++ a.chars) from rfl]
    refine Reads.orElse_left ?_
    rw [keyed_eq]
    refine (hreads.map ?_).named .hashPair
    rintro ⟨key', w⟩ ⟨hkey', hw⟩
    obtain rfl : key' = key := hkey'
    exact ⟨rfl, hw⟩

/-- What no word begins with is no argument. -/
theorem arg_refuses {cs : List Char} (hcs : cs.head?.any isPathChar = false)
    (hdouble : cs.head? ≠ some '"') (hsingle : cs.head? ≠ some '\'') : arg.Refuses cs := by
  have hkey : cs.head?.any isKeyChar = false := by
    cases cs with
    | nil => rfl
    | cons c cs =>
      exact Bool.eq_false_iff.2 fun h => Bool.eq_false_iff.1 hcs (isPathChar_of_isKeyChar h)
  have hnumber : number.Refuses ([] ++ cs) := number_refuses nofun hcs rfl
  have hboolean : boolean.Refuses ([] ++ cs) :=
    boolean_refuses nofun hcs fun b h => by cases b <;> cases h
  refine .orElse ?_ (.map (.orElse (.map (string_refuses hdouble hsingle) _) (.orElse (.map ?_ _)
    (.orElse (.map hboolean _) (.map (path_refuses hcs) _)))) _)
  · rw [keyed_eq]
    exact .named (.map (.both_left (.named (.map (.run1 hkey) _) .hashKey)) _) .hashPair
  · exact .both_right (.position cs) hnumber

/-- An argument begins as a word or a string does. -/
theorem argumentChars_begins {x : Option String × Argument} (hx : ArgumentWritable x) :
    ∃ c cs, argumentChars x = c :: cs ∧ (isPathChar c ∨ c = '"' ∨ c = '\'') := by
  have hword {cs : List Char} (hne : cs ≠ []) (hcs : ∀ c ∈ cs, isPathChar c) (rest : List Char) :
      ∃ c ds, cs ++ rest = c :: ds ∧ (isPathChar c ∨ c = '"' ∨ c = '\'') := by
    cases cs with
    | nil => exact absurd rfl hne
    | cons c cs => exact ⟨c, cs ++ rest, rfl, .inl (hcs c List.mem_cons_self)⟩
  obtain ⟨_ | key, a⟩ := x
  · by_cases hstring : ∃ s, a = .string s
    · obtain ⟨s, rfl⟩ := hstring
      simp only [argumentChars, Argument.chars]
      split
      · exact ⟨_, _, rfl, .inr (.inr rfl)⟩
      · exact ⟨_, _, rfl, .inr (.inl rfl)⟩
    · obtain ⟨hne, hcs⟩ := chars_isWord hx.2 fun s h => hstring ⟨s, h⟩
      rw [argumentChars, ← List.append_nil a.chars]
      exact hword hne hcs []
  · obtain ⟨hne, hcs⟩ := isKeyText_iff.1 (hx.1 key rfl)
    exact hword hne (fun c hc => isPathChar_of_isKeyChar (hcs c hc)) _

theorem isTagBlank_of_isPathChar {c : Char} (h : isPathChar c) : isTagBlank c = false := by
  unfold isTagBlank
  have hspace := isPathChar_ne h (d := ' ') rfl
  have htab := isPathChar_ne h (d := '\t') rfl
  have hreturn := isPathChar_ne h (d := '\r') rfl
  have hline := isPathChar_ne h (d := '\n') rfl
  simp [hspace, htab, hreturn, hline]

/-- No argument begins with a blank. -/
theorem head_argumentChars {x : Option String × Argument} (hx : ArgumentWritable x)
    (rest : List Char) : (argumentChars x ++ rest).head?.any isTagBlank = false := by
  obtain ⟨c, cs, hcs, hc⟩ := argumentChars_begins hx
  rw [hcs]
  obtain hc | rfl | rfl := hc
  · exact isTagBlank_of_isPathChar hc
  · rfl
  · rfl

theorem args_takes : Takes args fun cs as _ =>
    (∀ a ∈ as, a.IsWritable) ∧ (as = [] → cs = []) := by
  refine .many (((Takes.run1 isTagBlank).after arg_takes).mono ?_)
  rintro _ a rest ⟨_, _, _, -, -, ha⟩
  exact ha

/-- Arguments are read up to the blank in front of the end of their tag. -/
theorem args_reads {l : List (Option String × Argument)} (hl : ∀ x ∈ l, ArgumentWritable x)
    (closing : List Char) :
    Reads args (argumentsChars l) (' ' :: '\x7d' :: closing) (List.Forall₂ Spells l) := by
  have hblank (rest : List Char) (hrest : rest.head?.any isTagBlank = false) :
      Reads blanks1 [' '] rest (· = [' ']) :=
    .run1 (by simp) (by simp [isTagBlank]) hrest
  refine (Repeats.flatMap (fun _ _ => List.cons_ne_nil _ _) fun x hx after => ?_).many ?_
  · obtain ⟨rest, hrest⟩ : ∃ rest, (after.flatMap fun x => ' ' :: argumentChars x) ++
        ' ' :: '\x7d' :: closing = ' ' :: rest := by
      cases after with
      | nil => exact ⟨_, rfl⟩
      | cons y after => exact ⟨_, rfl⟩
    rw [hrest]
    exact (hblank _ (head_argumentChars (hl x hx) _)).after (arg_reads (hl x hx) rest)
  · exact .map (.both_right (hblank _ rfl) (arg_refuses rfl (by simp) (by simp))) _

theorem invocation_takes : Takes invocation fun cs i rest =>
    isPathText i.1 ∧ (∀ a ∈ i.2, a.IsWritable) ∧
      (i.2 = [] → cs = i.1.toList ∧ rest.head?.any isPathChar = false) := by
  refine ((path_takes.both args_takes).named .invocation).mono ?_
  rintro _ i rest ⟨front, back, rfl, ⟨hfront, hname, hend⟩, hargs, hnil⟩
  refine ⟨hname, hargs, fun h => ?_⟩
  obtain rfl := hnil h
  exact ⟨by rw [hfront, List.append_nil], hend⟩

/-- The name of an invocation and its arguments are read up to the blank in front of the end of
their tag. -/
theorem invocation_reads {i : Invocation} (hname : isPathText i.name)
    (hargs : ∀ x ∈ i.arguments, ArgumentWritable x) (closing : List Char) :
    Reads invocation i.chars (' ' :: '\x7d' :: closing)
      fun r => r.1 = i.name ∧ List.Forall₂ Spells i.arguments r.2 := by
  have hend : (argumentsChars i.arguments ++ ' ' :: '\x7d' :: closing).head?.any isPathChar =
      false := by
    cases i.arguments <;> rfl
  exact ((path_reads hname hend).both (args_reads hargs closing)).named .invocation

end Recogniser

end BlogTheme.Template
