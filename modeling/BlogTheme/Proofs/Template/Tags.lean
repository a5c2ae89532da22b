import BlogTheme.Proofs.Template.Words

/-!
# Tags

A tag is read back as the segment it was written for (`Segment.expression_reads`,
`Segment.open_reads` and so on), and so is the comment between two texts. The kinds of segments
are tried in a fixed order, so for each kind those before it must refuse. Most do for the
characters that the tag begins with (`Segment.one_reads_after_marks`); the tag of an inverse does
because `else` alone cannot be written as an escaped expression
(`Segment.inverseTag_refuses_expression`).
-/

namespace BlogTheme.Template

open Recogniser

namespace Recogniser

/-! ## Between two marks -/

variable {p : Recogniser α} {P : α → Prop} {opening closing : String}

theorem blanks_reads {bs rest : List Char} (hbs : ∀ c ∈ bs, isTagBlank c)
    (hrest : rest.head?.any isTagBlank = false) : Reads blanks bs rest (· = bs) :=
  .run hbs hrest

/-- What stands between two marks is read together with them, and with the blanks around it. -/
theorem between_reads {bs cs bs' rest : List Char} (hbs : ∀ c ∈ bs, isTagBlank c)
    (hbs' : ∀ c ∈ bs', isTagBlank c)
    (hcs : (cs ++ (bs' ++ (closing.toList ++ rest))).head?.any isTagBlank = false)
    (hrest : (closing.toList ++ rest).head?.any isTagBlank = false)
    (hp : Reads p cs (bs' ++ (closing.toList ++ rest)) P) :
    Reads (between opening closing p) (opening.toList ++ (bs ++ (cs ++ (bs' ++ closing.toList))))
      rest P := by
  have hbegin := (Reads.literal opening _).after (blanks_reads hbs hcs)
  have hend := hp.before (blanks_reads hbs' hrest)
  rw [← List.append_assoc] at hbegin
  have hall := (hbegin.after hend).before (Reads.literal closing rest)
  have hassoc : opening.toList ++ (bs ++ (cs ++ (bs' ++ closing.toList))) =
      opening.toList ++ bs ++ (cs ++ bs') ++ closing.toList := by simp
  rw [hassoc]
  exact hall

/-- A tag is read with one blank before what it holds and one after. -/
theorem tag_reads {cs rest : List Char}
    (hcs : (cs ++ ' ' :: (closing.toList ++ rest)).head?.any isTagBlank = false)
    (hrest : (closing.toList ++ rest).head?.any isTagBlank = false)
    (hp : Reads p cs (' ' :: (closing.toList ++ rest)) P) :
    Reads (between opening closing p) (tagChars opening (' ' :: cs) closing) rest P := by
  have hblank : ∀ c ∈ [' '], isTagBlank c := List.all_eq_true.1 rfl
  have hreads : Reads (between opening closing p)
      (opening.toList ++ ([' '] ++ (cs ++ ([' '] ++ closing.toList)))) rest P :=
    between_reads hblank hblank hcs hrest hp
  exact hreads

theorem between_refuses {cs : List Char} (h : opening.toList.isPrefixOf cs = false) :
    Refuses (between opening closing p) cs :=
  .map (.both_left (.map (.both_left (.map (.both_left (.literal h)) _)) _)) _

/-- Where nothing can be read after the first mark. -/
theorem between_refuses_inner {bs cs : List Char} (hbs : ∀ c ∈ bs, isTagBlank c)
    (hcs : cs.head?.any isTagBlank = false) (hp : p.Refuses cs) :
    Refuses (between opening closing p) (opening.toList ++ (bs ++ cs)) := by
  have hbegin := (Reads.literal opening _).after (blanks_reads hbs hcs)
  rw [← List.append_assoc]
  exact .map (.both_left (.map (.both_right hbegin (.map (.both_left hp) _)) _)) _

/-- Where the second mark does not follow. -/
theorem between_refuses_end {bs cs bs' rest : List Char} (hbs : ∀ c ∈ bs, isTagBlank c)
    (hbs' : ∀ c ∈ bs', isTagBlank c) (hcs : (cs ++ (bs' ++ rest)).head?.any isTagBlank = false)
    (hrest : rest.head?.any isTagBlank = false) (hp : Reads p cs (bs' ++ rest) P)
    (h : closing.toList.isPrefixOf rest = false) :
    Refuses (between opening closing p) (opening.toList ++ (bs ++ (cs ++ (bs' ++ rest)))) := by
  have hbegin := (Reads.literal opening _).after (blanks_reads hbs hcs)
  have hend := hp.before (blanks_reads hbs' hrest)
  rw [← List.append_assoc] at hbegin
  have hassoc : opening.toList ++ (bs ++ (cs ++ (bs' ++ rest))) =
      opening.toList ++ bs ++ (cs ++ bs') ++ rest := by simp
  rw [hassoc]
  exact .map (.both_right (hbegin.after hend) (.literal h)) _

theorem between_takes {R : List Char → α → List Char → Prop} (hp : Takes p R) :
    Takes (between opening closing p) fun cs a rest => ∃ bs inner bs',
      cs = opening.toList ++ (bs ++ (inner ++ (bs' ++ closing.toList))) ∧
        (∀ c ∈ bs, isTagBlank c) ∧ (∀ c ∈ bs', isTagBlank c) ∧
        (inner ++ (bs' ++ (closing.toList ++ rest))).head?.any isTagBlank = false ∧
        (closing.toList ++ rest).head?.any isTagBlank = false ∧
        R inner a (bs' ++ (closing.toList ++ rest)) := by
  refine ((((Takes.literal opening).after (Takes.run isTagBlank)).after
    (hp.before (Takes.run isTagBlank))).before (Takes.literal closing)).mono ?_
  rintro _ a rest ⟨_, _, _, rfl, ⟨_, _, _, rfl, ⟨_, _, _, rfl, rfl, hbegin, hbs, hcs⟩,
    inner, _, _, rfl, hinner, hend, hbs', hrest⟩, rfl⟩
  subst hbegin hend
  refine ⟨_, inner, _, by simp only [List.append_assoc], hbs, hbs', ?_, hrest, ?_⟩
  · simpa only [List.append_assoc] using hcs
  · simpa only [List.append_assoc] using hinner

end Recogniser

/-- No name begins with a blank. -/
theorem head_path {s : String} (hs : isPathText s) (rest : List Char) :
    (s.toList ++ rest).head?.any isTagBlank = false := by
  obtain ⟨hne, hall⟩ := isPathText_iff.1 hs
  cases hcs : s.toList with
  | nil => exact absurd hcs hne
  | cons c cs => exact isTagBlank_of_isPathChar (hall c (by rw [hcs]; exact List.mem_cons_self))

theorem head_invocationChars {i : Invocation} (hname : isPathText i.name) (rest : List Char) :
    (i.chars ++ rest).head?.any isTagBlank = false := by
  rw [Invocation.chars, List.append_assoc]
  exact head_path hname _

namespace Segment

/-! ## Reading -/

variable {cs rest : List Char}

theorem comment_refuses {opening closing : String} (h : opening.toList.isPrefixOf cs = false) :
    (commentBetween opening closing).Refuses cs := by
  intro pos
  simp only [commentBetween, plain, Cursor.literal?, h]
  rfl

theorem separator_reads : Reads one separator rest (· = .comment) := by
  refine .orElse_right ?_ (.orElse_right ?_ (.orElse_left ?_))
  · exact .named (comment_refuses rfl) .longComment
  · exact .named (.map (between_refuses rfl) _) .extendsTag
  · exact fun pos => ⟨_, rfl, rfl⟩

/-- The segment is the tag of the expression. -/
inductive IsTagOf : Invocation → Bool → Segment → Prop
  | expression {i args} (escaped : Bool) (hargs : List.Forall₂ Spells i.arguments args) :
    IsTagOf i escaped (.expression i.name args escaped)
  | inclusion {i s params args} (hname : i.name = includeName)
    (hparams : i.params = .string s :: params)
    (hargs : List.Forall₂ Spells { i with params }.arguments args) :
    IsTagOf i true (.inclusion (.string s) args)
  | layout {i x arg} (hname : i.name = extendsName) (hargs : i.arguments = [x])
    (harg : Spells x arg) : IsTagOf i true (.layout arg)

/-- A tag of a layout has one argument. -/
theorem layout_reads {x : Option String × Argument} (hx : ArgumentWritable x) :
    Reads one (layoutChars [x]) rest fun seg => ∃ arg, seg = .layout arg ∧ Spells x arg := by
  rw [layoutChars, argumentsChars_singleton]
  have htag : Reads (between "\x7b\x7b!<" "\x7d\x7d" arg)
      (tagChars "\x7b\x7b!<" (' ' :: argumentChars x) "\x7d\x7d") rest (Spells x) :=
    tag_reads (head_argumentChars hx _) rfl (arg_reads hx _)
  have hlayout : Reads layoutTag (tagChars "\x7b\x7b!<" (' ' :: argumentChars x) "\x7d\x7d") rest
      fun seg => ∃ arg, seg = .layout arg ∧ Spells x arg :=
    (htag.map fun arg h => ⟨arg, rfl, h⟩).named .extendsTag
  exact .orElse_right (.named (comment_refuses rfl) .longComment) hlayout.orElse_left

/-- Where none of the marks stands that the kinds tried first begin with. -/
theorem one_reads_after_marks {P : Segment → Prop}
    (hlong : "\x7b\x7b!--".toList.isPrefixOf (cs ++ rest) = false)
    (hlayout : "\x7b\x7b!<".toList.isPrefixOf (cs ++ rest) = false)
    (hshort : "\x7b\x7b!".toList.isPrefixOf (cs ++ rest) = false)
    (hraw : "\x7b\x7b\x7b".toList.isPrefixOf (cs ++ rest) = false)
    (hopen : "\x7b\x7b#".toList.isPrefixOf (cs ++ rest) = false)
    (h : Reads (inverseTag.orElse <| closeTag.orElse <| includeTag.orElse <|
      expressionTag.orElse plainText) cs rest P) : Reads one cs rest P :=
  .orElse_right (.named (comment_refuses hlong) .longComment) <|
    .orElse_right (.named (.map (between_refuses hlayout) _) .extendsTag) <|
    .orElse_right (.named (comment_refuses hshort) .shortComment) <|
    .orElse_right (.named (.map (between_refuses hraw) _) .rawTag) <|
    .orElse_right (.named (.map (between_refuses hopen) _) .blockOpen) h

/-- What the tag of an inverse holds. -/
def inverseMark : Recogniser Unit :=
  ((literal "else").notBefore isPathChar).orElse (literal "^")

theorem inverseTag_eq : inverseTag =
    named .inverseTag ((between "\x7b\x7b" "\x7d\x7d" inverseMark).map fun _ => .inverse) :=
  rfl

theorem inverseMark_reads (hrest : rest.head?.any isPathChar = false) :
    Reads inverseMark "else".toList rest fun _ => True :=
  ((Reads.literal "else" rest).notBefore hrest).orElse_left

theorem inverseMark_refuses (helse : "else".toList.isPrefixOf cs = false)
    (hcaret : "^".toList.isPrefixOf cs = false) : inverseMark.Refuses cs :=
  .orElse (.notBefore (.literal helse) _) (.literal hcaret)

theorem inverseMark_takes : Takes inverseMark fun cs _ rest =>
    cs = "else".toList ∧ rest.head?.any isPathChar = false ∨ cs = ['^'] :=
  .orElse (((Takes.literal "else").notBefore isPathChar).mono fun _ _ _ => .inl)
    ((Takes.literal "^").mono fun _ _ _ => .inr)

/-- A tag that holds no mark of an inverse is not the tag of one. -/
theorem inverseTag_refuses (bs cs : List Char) {ds : List Char}
    (hds : ds = "\x7b\x7b".toList ++ (bs ++ cs)) (hbs : ∀ c ∈ bs, isTagBlank c)
    (hcs : cs.head?.any isTagBlank = false) (hmark : inverseMark.Refuses cs) :
    inverseTag.Refuses ds := by
  rw [hds, inverseTag_eq]
  exact .named (.map (between_refuses_inner hbs hcs hmark) _) .inverseTag

/-- The tag of an inverse may have blanks around `else`. -/
theorem inverseTag_reads {bs bs' : List Char} (hbs : ∀ c ∈ bs, isTagBlank c)
    (hbs' : ∀ c ∈ bs', isTagBlank c)
    (hend : (bs' ++ ("\x7d\x7d".toList ++ rest)).head?.any isPathChar = false) :
    Reads inverseTag ("\x7b\x7b".toList ++ (bs ++ ("else".toList ++ (bs' ++ "\x7d\x7d".toList))))
      rest (· = .inverse) := by
  rw [inverseTag_eq]
  have htag : Reads (between "\x7b\x7b" "\x7d\x7d" inverseMark)
      ("\x7b\x7b".toList ++ (bs ++ ("else".toList ++ (bs' ++ "\x7d\x7d".toList)))) rest
      fun _ => True :=
    between_reads hbs hbs' rfl rfl (inverseMark_reads hend)
  exact (htag.map (Q := (· = Segment.inverse)) fun _ _ => rfl).named .inverseTag

/-- The name of a partial. -/
def inclusionName : Recogniser Word :=
  named .partialName ((string.map .string).orElse (path.map .path))

theorem includeTag_eq : includeTag = named .partialTag
    ((between "\x7b\x7b>" "\x7d\x7d" (inclusionName.both args)).map
      fun (name, args) => .inclusion name args) :=
  rfl

/-- A tag of a partial has the name as a string, and other arguments. -/
theorem inclusion_reads {s : String} {arguments : List (Option String × Argument)}
    (hs : (Argument.string s).isWritable) (hargs : ∀ x ∈ arguments, ArgumentWritable x) :
    Reads one (inclusionChars ((none, .string s) :: arguments)) rest
      fun seg => ∃ args, seg = .inclusion (.string s) args ∧
        List.Forall₂ Spells arguments args := by
  have hname (rest : List Char) :
      Reads inclusionName (argumentChars (none, .string s)) rest (· = .string s) :=
    ((string_reads hs rest).map fun _ h => by rw [h]).orElse_left
  have htag : Reads (between "\x7b\x7b>" "\x7d\x7d" (inclusionName.both args))
      (inclusionChars ((none, .string s) :: arguments)) rest
      fun r => r.1 = .string s ∧ List.Forall₂ Spells arguments r.2 := by
    rw [inclusionChars, argumentsChars_cons]
    refine tag_reads ?_ rfl ((hname _).both (args_reads hargs _))
    rw [List.append_assoc]
    exact head_argumentChars (x := (none, .string s)) ⟨nofun, hs⟩ _
  have hinclude : Reads includeTag (inclusionChars ((none, .string s) :: arguments)) rest
      fun seg => ∃ args, seg = .inclusion (.string s) args ∧
        List.Forall₂ Spells arguments args := by
    rw [includeTag_eq]
    refine (htag.map ?_).named .partialTag
    rintro ⟨_, args⟩ ⟨rfl, hread⟩
    exact ⟨args, rfl, hread⟩
  have hinverse : inverseTag.Refuses (inclusionChars ((none, .string s) :: arguments) ++ rest) :=
    inverseTag_refuses [] ('>' :: _) rfl (List.forall_mem_nil _) rfl (inverseMark_refuses rfl rfl)
  exact one_reads_after_marks rfl rfl rfl rfl rfl <| .orElse_right hinverse <|
    .orElse_right (.named (.map (between_refuses rfl) _) .blockClose) hinclude.orElse_left

section

variable {i : Invocation} (hname : isPathText i.name)
  (hargs : ∀ x ∈ i.arguments, ArgumentWritable x)
include hname hargs

/-- A tag that holds a name and arguments. -/
theorem invocationTag_reads (opening : String) {closing : String} {more : List Char}
    (hclosing : closing.toList = '\x7d' :: more) (f : String → List Arg → Segment) :
    Reads ((between opening closing invocation).map fun (name, args) => f name args)
      (tagChars opening (' ' :: i.chars) closing) rest
      fun seg => ∃ args, seg = f i.name args ∧ List.Forall₂ Spells i.arguments args := by
  have htag : Reads (between opening closing invocation)
      (tagChars opening (' ' :: i.chars) closing) rest
      fun r => r.1 = i.name ∧ List.Forall₂ Spells i.arguments r.2 := by
    refine tag_reads (head_invocationChars hname _) ?_ ?_
    · rw [hclosing]
      rfl
    · rw [hclosing]
      exact invocation_reads hname hargs _
  exact htag.map fun ⟨_, args⟩ ⟨hname, hargs⟩ => ⟨args, by rw [← hname], hargs⟩

/-- A raw tag is read as the expression it holds. -/
theorem raw_reads : Reads one (rawChars i) rest
    fun seg => ∃ args, seg = .expression i.name args false ∧
      List.Forall₂ Spells i.arguments args := by
  have hraw : Reads rawTag (rawChars i) rest fun seg => ∃ args,
      seg = .expression i.name args false ∧ List.Forall₂ Spells i.arguments args :=
    (invocationTag_reads hname hargs _ rfl fun name args => .expression name args false).named
      .rawTag
  exact .orElse_right (.named (comment_refuses rfl) .longComment) <|
    .orElse_right (.named (.map (between_refuses rfl) _) .extendsTag) <|
    .orElse_right (.named (comment_refuses rfl) .shortComment) hraw.orElse_left

/-- The tag that opens a block. -/
theorem open_reads : Reads one (openChars i) rest
    fun seg => ∃ args, seg = .blockOpen i.name args ∧ List.Forall₂ Spells i.arguments args := by
  have hopen : Reads openTag (openChars i) rest fun seg => ∃ args, seg = .blockOpen i.name args ∧
      List.Forall₂ Spells i.arguments args :=
    (invocationTag_reads hname hargs _ rfl .blockOpen).named .blockOpen
  exact .orElse_right (.named (comment_refuses rfl) .longComment) <|
    .orElse_right (.named (.map (between_refuses rfl) _) .extendsTag) <|
    .orElse_right (.named (comment_refuses rfl) .shortComment) <|
    .orElse_right (.named (.map (between_refuses rfl) _) .rawTag) hopen.orElse_left

end

/-- The tag that begins the inverse of a block. -/
theorem inverse_reads : Reads one inverseTagText.toList rest (· = .inverse) := by
  have htext : inverseTagText.toList =
      "\x7b\x7b".toList ++ ([] ++ ("else".toList ++ ([] ++ "\x7d\x7d".toList))) := by decide
  rw [htext]
  exact one_reads_after_marks rfl rfl rfl rfl rfl
    (inverseTag_reads (List.forall_mem_nil _) (List.forall_mem_nil _) rfl).orElse_left

/-- The tag that closes a block. -/
theorem close_reads {name : String} (hname : isPathText name) :
    Reads one (closeChars name) rest (· = .blockClose name) := by
  have htag : Reads (between "\x7b\x7b/" "\x7d\x7d" path) (closeChars name) rest (· = name) :=
    tag_reads (head_path hname _) rfl (path_reads hname rfl)
  have hclose : Reads closeTag (closeChars name) rest (· = .blockClose name) :=
    (htag.map fun _ h => by rw [h]).named .blockClose
  have hinverse : inverseTag.Refuses (closeChars name ++ rest) :=
    inverseTag_refuses [] ('/' :: _) rfl (List.forall_mem_nil _) rfl (inverseMark_refuses rfl rfl)
  exact one_reads_after_marks rfl rfl rfl rfl rfl (.orElse_right hinverse hclose.orElse_left)

/-- No name but `else` is the mark of an inverse. -/
theorem inverseMark_refuses_name {name : String} (hname : isPathText name) (hne : name ≠ "else")
    (hrest : rest.head?.any isPathChar = false) : inverseMark.Refuses (name.toList ++ rest) := by
  obtain ⟨hnil, hall⟩ := isPathText_iff.1 hname
  refine .of_takes inverseMark_takes ?_
  rintro ds _ rest' h (⟨rfl, hrest'⟩ | rfl)
  · obtain ⟨hsame, -⟩ := wordEnd_unique h hall (List.all_eq_true.1 rfl) hrest hrest'
    exact hne (String.toList_injective hsame)
  · obtain ⟨c, cs, hcs⟩ := List.exists_cons_of_ne_nil hnil
    rw [hcs] at h
    cases h
    exact Bool.false_ne_true (hall '^' (by rw [hcs]; exact List.mem_cons_self))

/-- No argument begins with the end of a tag. -/
theorem isPrefixOf_argumentChars {x : Option String × Argument} (hx : ArgumentWritable x) :
    "\x7d\x7d".toList.isPrefixOf (argumentChars x ++ rest) = false := by
  obtain ⟨c, cs, hcs, hc⟩ := argumentChars_begins hx
  have hbrace : '\x7d' ≠ c := by
    rintro rfl
    obtain hc | hc | hc := hc <;> cases hc
  simp [hcs, List.isPrefixOf, hbrace]

/-- The tag of an expression is not that of an inverse, unless it is `else` alone. -/
theorem inverseTag_refuses_expression {i : Invocation} (hname : isPathText i.name)
    (hargs : ∀ x ∈ i.arguments, ArgumentWritable x) (helse : i.name = "else" → i.arguments ≠ []) :
    inverseTag.Refuses (escapedChars i ++ rest) := by
  have hblank : ∀ c ∈ [' '], isTagBlank c := List.all_eq_true.1 rfl
  let after := argumentsChars i.arguments ++ ' ' :: ("\x7d\x7d".toList ++ rest)
  have hassoc : escapedChars i ++ rest =
      "\x7b\x7b".toList ++ ([' '] ++ (i.name.toList ++ after)) := by
    simp [escapedChars, tagChars, Invocation.chars, after]
  by_cases heq : i.name = "else"
  · -- Behind the mark stands an argument, not the end of the tag.
    obtain ⟨x, l, hl⟩ := List.exists_cons_of_ne_nil (helse heq)
    have hx := hargs x (by rw [hl]; exact List.mem_cons_self)
    let next := argumentChars x ++ (argumentsChars l ++ ' ' :: ("\x7d\x7d".toList ++ rest))
    have hnext : after = [' '] ++ next := by simp [after, next, hl, argumentsChars_cons]
    have hmark : Reads inverseMark "else".toList ([' '] ++ next) fun _ => True :=
      inverseMark_reads rfl
    have htag : Refuses (between "\x7b\x7b" "\x7d\x7d" inverseMark)
        ("\x7b\x7b".toList ++ ([' '] ++ ("else".toList ++ ([' '] ++ next)))) :=
      between_refuses_end hblank hblank rfl (head_argumentChars hx _) hmark
        (isPrefixOf_argumentChars hx)
    rw [hassoc, heq, hnext, inverseTag_eq]
    exact .named (.map htag _) .inverseTag
  · have hafter : after.head?.any isPathChar = false := by
      simp only [after]
      cases i.arguments <;> rfl
    exact inverseTag_refuses [' '] _ hassoc hblank (head_path hname _)
      (inverseMark_refuses_name hname heq hafter)

/-- A tag is read as the escaped expression it holds. -/
theorem escaped_reads {i : Invocation} (hname : isPathText i.name)
    (hargs : ∀ x ∈ i.arguments, ArgumentWritable x) (helse : i.name = "else" → i.arguments ≠ []) :
    Reads one (escapedChars i) rest fun seg => ∃ args,
      seg = .expression i.name args true ∧ List.Forall₂ Spells i.arguments args := by
  have hexpression : Reads expressionTag (escapedChars i) rest fun seg => ∃ args,
      seg = .expression i.name args true ∧ List.Forall₂ Spells i.arguments args :=
    (invocationTag_reads hname hargs _ rfl fun name args => .expression name args true).named
      .exprTag
  exact one_reads_after_marks rfl rfl rfl rfl rfl <|
    .orElse_right (inverseTag_refuses_expression hname hargs helse) <|
    .orElse_right (.named (.map (between_refuses rfl) _) .blockClose) <|
    .orElse_right (.named (.map (between_refuses rfl) _) .partialTag) hexpression.orElse_left

/-- What is written of an expression is read as its tag. -/
theorem expression_reads {i : Invocation} {escaped : Bool} (h : i.isWritableExpression escaped) :
    Reads one (expressionChars i escaped) rest (IsTagOf i escaped) := by
  rw [Invocation.isWritableExpression, Bool.and_eq_true] at h
  obtain ⟨harguments, h⟩ := h
  have hargs := argumentWritable_of_mem harguments
  unfold expressionChars
  split at h
  · rename_i hname
    rw [if_neg (by rw [hname]; decide), if_pos hname]
    rw [Bool.and_eq_true] at h
    obtain ⟨rfl, h⟩ := h
    split at h
    · rename_i s params hparams
      obtain ⟨name, _, hash, span⟩ := i
      cases hparams
      have hstring : (Argument.string s).isWritable := (hargs _ List.mem_cons_self).2
      refine (inclusion_reads hstring fun x hx => hargs x (List.mem_cons_of_mem _ hx)).mono ?_
      rintro _ ⟨args, rfl, hread⟩
      exact .inclusion hname rfl hread
    · cases h
  · rename_i hinclude
    split at h
    · rename_i hname
      rw [if_pos hname]
      simp only [Bool.and_eq_true, beq_iff_eq] at h
      obtain ⟨rfl, hlength⟩ := h
      obtain ⟨x, hx⟩ := List.length_eq_one_iff.1 hlength
      rw [hx]
      refine (layout_reads (hargs x (by rw [hx]; exact List.mem_singleton_self x))).mono ?_
      rintro _ ⟨arg, rfl, hread⟩
      exact .layout hname hx hread
    · rename_i hextends
      rw [if_neg hextends, if_neg hinclude]
      rw [Bool.and_eq_true] at h
      obtain ⟨hname, helse⟩ := h
      cases escaped with
      | true =>
        refine (escaped_reads hname hargs fun heq hnil => ?_).mono ?_
        · simp [heq, hnil] at helse
        · rintro _ ⟨args, rfl, hread⟩
          exact .expression true hread
      | false =>
        refine (raw_reads hname hargs).mono ?_
        rintro _ ⟨args, rfl, hread⟩
        exact .expression false hread

end Segment

end BlogTheme.Template
