import BlogTheme.Proofs.Template.Tiling

/-!
# Tags of layouts

A tag that begins as that of a layout is one exactly if it holds one argument and nothing else
(`Segment.layoutTag_reads`, `Segment.layoutTag_takes`). Any other tag that begins so is read as a
comment, since the mark of a layout begins with that of a comment. So it leaves no trace in the tree,
and the template has no layout (`directive_kept_iff`).
-/

namespace BlogTheme.Template

open Recogniser

/-! ## The texts of arguments -/

/-- The text is a string between quotes, or a word. -/
def IsWordText (cs : List Char) : Prop :=
  (∃ q inner, (q = '"' ∨ q = '\'') ∧ q ∉ inner ∧ cs = q :: (inner ++ [q])) ∨
    cs ≠ [] ∧ ∀ c ∈ cs, isPathChar c

/-- The text is an argument, with or without a key. -/
def IsArgumentText (cs : List Char) : Prop :=
  IsWordText cs ∨ ∃ key word, key ≠ [] ∧ (∀ c ∈ key, isKeyChar c) ∧ IsWordText word ∧
    cs = key ++ ('=' :: word)

/-- Up to the end of the tag the text holds one argument, and blanks around it. -/
def HoldsOneArgument (cs : List Char) : Prop :=
  ∃ bs text bs' after, (∀ c ∈ bs, isTagBlank c) ∧ IsArgumentText text ∧
    (∀ c ∈ bs', isTagBlank c) ∧ cs = bs ++ (text ++ (bs' ++ ("\x7d\x7d".toList ++ after)))

/-- An argument begins with a character of paths or with a quote. -/
theorem IsArgumentText.begins {cs : List Char} (h : IsArgumentText cs) :
    ∃ c ds, cs = c :: ds ∧ (isPathChar c ∨ c = '"' ∨ c = '\'') := by
  have hword {cs : List Char} (h : IsWordText cs) :
      ∃ c ds, cs = c :: ds ∧ (isPathChar c ∨ c = '"' ∨ c = '\'') := by
    obtain ⟨q, inner, hq, -, rfl⟩ | ⟨hne, hall⟩ := h
    · exact ⟨q, _, rfl, .inr hq⟩
    · obtain ⟨c, ds, rfl⟩ := List.exists_cons_of_ne_nil hne
      exact ⟨c, ds, rfl, .inl (hall c List.mem_cons_self)⟩
  obtain h | ⟨key, word, hne, hkey, -, rfl⟩ := h
  · exact hword h
  · obtain ⟨c, ds, rfl⟩ := List.exists_cons_of_ne_nil hne
    exact ⟨c, _, rfl, .inl (isPathChar_of_isKeyChar (hkey c List.mem_cons_self))⟩

/-- No argument begins with a blank. -/
theorem IsArgumentText.head_not_blank {cs : List Char} (h : IsArgumentText cs)
    (rest : List Char) : (cs ++ rest).head?.any isTagBlank = false := by
  obtain ⟨c, ds, rfl, hc | rfl | rfl⟩ := h.begins
  · exact isTagBlank_of_isPathChar hc
  · rfl
  · rfl

namespace Recogniser

theorem word_takes_text : Takes word fun cs _ _ => IsWordText cs := by
  have hnumeral {cs : List Char} (h : isNumeral cs) : IsWordText cs := by
    refine .inr ⟨?_, isPathChar_of_mem_numeral h⟩
    rintro rfl
    cases h
  rw [word_eq]
  refine .orElse ((string_takes.map _).mono ?_) <| .orElse ?_ <|
    .orElse ((boolean_takes.map _).mono ?_) ((path_takes.map _).mono ?_)
  · rintro cs _ rest ⟨s, -, ⟨q, hq, hs, hcs⟩, -⟩
    exact .inl ⟨q, s.toList, hq, hs, hcs⟩
  · refine ((Takes.position.both number_takes).map _).mono ?_
    rintro _ _ rest ⟨_, -, _, cs, rfl, rfl, -, h, -⟩
    exact hnumeral h
  · rintro cs _ rest ⟨b, -, rfl, -⟩
    cases b <;> exact .inr ⟨List.cons_ne_nil _ _, List.all_eq_true.1 rfl⟩
  · rintro cs _ rest ⟨p, -, rfl, h, -⟩
    exact .inr (isPathText_iff.1 h)

theorem arg_takes_text : Takes arg fun cs _ _ => IsArgumentText cs := by
  refine .orElse ?_ ((word_takes_text.map _).mono ?_)
  · rw [keyed_eq]
    refine (((keyName_takes.both ((Takes.literal "=").after word_takes_text)).map _).named
      .hashPair).mono ?_
    rintro _ _ rest ⟨_, -, key, _, rfl, ⟨rfl, hkey⟩, _, word, _, rfl, rfl, hword⟩
    obtain ⟨hne, hall⟩ := isKeyText_iff.1 hkey
    exact .inr ⟨_, word, hne, hall, hword, rfl⟩
  · rintro cs _ rest ⟨_, -, h⟩
    exact .inl h

variable {cs rest : List Char}

theorem string_reads_quoted {q : Char} (hq : q = '"' ∨ q = '\'') {inner : List Char}
    (hinner : q ∉ inner) (rest : List Char) :
    Reads string (q :: (inner ++ [q])) rest fun _ => True := by
  have hmem : q ∉ (String.ofList inner).toList := by rwa [String.toList_ofList]
  obtain rfl | rfl := hq
  · have hdouble := quoted_reads "\"" '"' rfl hmem rest
    rw [String.toList_ofList] at hdouble
    exact ((hdouble.mono fun _ _ => trivial).orElse_left).named .string
  · have hsingle := quoted_reads "'" '\'' rfl hmem rest
    rw [String.toList_ofList] at hsingle
    refine Reads.named (.orElse_right ?_ (hsingle.mono fun _ _ => trivial)) .string
    exact .map (.map (.both_left (.literal rfl)) _) _

/-- A word is read as a number, as a truth value or as a path. -/
theorem word_reads_text (h : IsWordText cs) (hrest : rest.head?.any isPathChar = false) :
    Reads word cs rest fun _ => True := by
  rw [word_eq]
  obtain ⟨q, inner, hq, hinner, rfl⟩ | ⟨hne, hall⟩ := h
  · exact ((string_reads_quoted hq hinner rest).map fun _ _ => trivial).orElse_left
  · refine .orElse_right (.map (string_refuses_word hne hall rest) _) ?_
    cases hnumeral : isNumeral cs with
    | true => exact ((placedNumber_reads hnumeral hrest).mono fun _ _ => trivial).orElse_left
    | false =>
      refine .orElse_right
        (.map (.both_right (Reads.position (cs ++ rest)) (number_refuses hall hrest hnumeral)) _) ?_
      by_cases hboolean : ∃ b, cs = (Argument.boolean b).chars
      · obtain ⟨b, rfl⟩ := hboolean
        exact ((boolean_reads b hrest).map fun _ _ => trivial).orElse_left
      · have hpath : isPathText (String.ofList cs) := by
          rw [isPathText_iff, String.toList_ofList]
          exact ⟨hne, hall⟩
        have hreads := path_reads hpath hrest
        rw [String.toList_ofList] at hreads
        exact .orElse_right (.map (boolean_refuses hall hrest fun b hb => hboolean ⟨b, hb⟩) _)
          (hreads.map fun _ _ => trivial)

theorem arg_reads_text (h : IsArgumentText cs) (hrest : rest.head?.any isPathChar = false)
    (hequals : rest.head? ≠ some '=') : Reads arg cs rest fun _ => True := by
  obtain h | ⟨key, word', hne, hkey, hword, rfl⟩ := h
  · refine .orElse_right ?_ ((word_reads_text h hrest).map fun _ _ => trivial)
    obtain ⟨q, inner, hq, -, rfl⟩ | ⟨-, hall⟩ := h
    · rw [keyed_eq]
      refine .named (.map (.both_left (.named (.map (.run1 ?_) _) .hashKey)) _) .hashPair
      obtain rfl | rfl := hq <;> rfl
    · exact keyed_refuses hall hrest hequals
  · have hkeyText : isKeyText (String.ofList key) := by
      rw [isKeyText_iff, String.toList_ofList]
      exact ⟨hne, hkey⟩
    have hequals := (Reads.literal "=" (word' ++ rest)).after (word_reads_text hword hrest)
    have hname : Reads keyName (String.ofList key).toList ("=".toList ++ word' ++ rest)
        (· = String.ofList key) := keyName_reads hkeyText rfl
    rw [String.toList_ofList] at hname
    refine Reads.orElse_left ?_
    rw [keyed_eq]
    exact ((hname.both hequals).map fun _ _ => trivial).named .hashPair

end Recogniser

/-! ## The tag of a layout -/

namespace Segment

variable {rest : List Char}

theorem layoutTag_reads (h : HoldsOneArgument rest) (pos : Position) :
    ∃ arg c, layoutTag.read ⟨"\x7b\x7b!<".toList ++ rest, pos⟩ = some (.layout arg, c) := by
  obtain ⟨bs, text, bs', after, hbs, htext, hbs', rfl⟩ := h
  let tagEnd := bs' ++ ("\x7d\x7d".toList ++ after)
  have hend : tagEnd.head?.any isPathChar = false ∧ tagEnd.head? ≠ some '=' := by
    cases bs' with
    | nil => exact ⟨rfl, by simp [tagEnd]⟩
    | cons b bs' =>
      have hblank := hbs' b List.mem_cons_self
      refine ⟨Bool.eq_false_iff.2 fun hpath => ?_, fun hequals => ?_⟩
      · rw [isTagBlank_of_isPathChar hpath] at hblank
        cases hblank
      · cases hequals
        cases hblank
  have htag : Reads (between "\x7b\x7b!<" "\x7d\x7d" arg)
      ("\x7b\x7b!<".toList ++ (bs ++ (text ++ (bs' ++ "\x7d\x7d".toList)))) after fun _ => True :=
    between_reads hbs hbs' (htext.head_not_blank tagEnd) rfl (arg_reads_text htext hend.1 hend.2)
  have hlayout := htag.map (f := Segment.layout) (Q := fun seg => ∃ arg, seg = .layout arg)
    fun arg _ => ⟨arg, rfl⟩
  obtain ⟨seg, hread, arg, rfl⟩ := hlayout pos
  refine ⟨arg, _, .trans ?_ hread⟩
  simp only [List.append_assoc]
  rfl

theorem layoutTag_takes {pos : Position} {seg : Segment} {c : Cursor}
    (h : layoutTag.read ⟨"\x7b\x7b!<".toList ++ rest, pos⟩ = some (seg, c)) :
    HoldsOneArgument rest := by
  obtain ⟨cs, hcs, _, -, bs, text, bs', rfl, hbs, hbs', -, -, htext⟩ :=
    (((between_takes arg_takes_text).map Segment.layout).named .extendsTag) _ _ _ h
  refine ⟨bs, text, bs', c.rest, hbs, htext, hbs', ?_⟩
  simpa only [List.append_assoc, List.append_cancel_left_eq] using hcs

/-- Behind the mark of a layout only the tag of a layout and a comment can be read. -/
theorem one_read_directive (rest : List Char) (pos : Position) :
    one.read ⟨"\x7b\x7b!<".toList ++ rest, pos⟩ =
      (layoutTag.read ⟨"\x7b\x7b!<".toList ++ rest, pos⟩).or
        (shortComment.read ⟨"\x7b\x7b!<".toList ++ rest, pos⟩) := by
  have hlong : longComment.Refuses ("\x7b\x7b!<".toList ++ rest) :=
    .named (comment_refuses rfl) .longComment
  have hname : path.Refuses ('!' :: '<' :: rest) := path_refuses rfl
  have hinverse : inverseTag.Refuses ("\x7b\x7b!<".toList ++ rest) :=
    inverseTag_refuses [] ('!' :: '<' :: rest) rfl (List.forall_mem_nil _) rfl
      (inverseMark_refuses rfl rfl)
  have hinner : (between "\x7b\x7b" "\x7d\x7d" invocation).Refuses
      ("\x7b\x7b".toList ++ ([] ++ '!' :: '<' :: rest)) :=
    between_refuses_inner (List.forall_mem_nil _) rfl (.named (.both_left hname) .invocation)
  have hexpression : expressionTag.Refuses ("\x7b\x7b!<".toList ++ rest) :=
    .named (.map hinner _) .exprTag
  let others := rawTag.orElse <| openTag.orElse <| inverseTag.orElse <| closeTag.orElse <|
    includeTag.orElse <| expressionTag.orElse plainText
  have hothers : others.Refuses ("\x7b\x7b!<".toList ++ rest) :=
    .orElse (.named (.map (between_refuses rfl) _) .rawTag) <|
    .orElse (.named (.map (between_refuses rfl) _) .blockOpen) <|
    .orElse hinverse <|
    .orElse (.named (.map (between_refuses rfl) _) .blockClose) <|
    .orElse (.named (.map (between_refuses rfl) _) .partialTag) <|
    .orElse hexpression fun _ => rfl
  have hone (c : Cursor) : one.read c = (longComment.read c).or ((layoutTag.read c).or
      ((shortComment.read c).or (others.read c))) :=
    rfl
  rw [hone, hlong pos, Option.none_or, hothers pos, Option.or_none]

/-- Behind the mark of a layout stands the tag of one if it holds one argument, and otherwise a
comment, if anything can be read. -/
theorem one_directive {pos : Position} {seg : Segment} {c : Cursor}
    (h : one.read ⟨"\x7b\x7b!<".toList ++ rest, pos⟩ = some (seg, c)) :
    (HoldsOneArgument rest ∧ ∃ arg, seg = .layout arg) ∨
      (¬ HoldsOneArgument rest ∧ seg = .comment) := by
  rw [one_read_directive] at h
  by_cases hholds : HoldsOneArgument rest
  · obtain ⟨arg, c', hread⟩ := layoutTag_reads hholds pos
    rw [hread, Option.some_or] at h
    cases h
    exact .inl ⟨hholds, arg, rfl⟩
  · obtain hread | ⟨-, hread⟩ := Option.or_eq_some_iff.1 h
    · exact absurd (layoutTag_takes hread) hholds
    · refine .inr ⟨hholds, ?_⟩
      simp only [shortComment, named, commentBetween, plain, bind,
        Option.bind_eq_some_iff] at hread
      obtain ⟨_, -, _, -, heq⟩ := hread
      cases heq
      rfl

end Segment

/-! ## Directives -/

/-- At the mark of a layout stands the tag of one if it holds one argument, and otherwise a
comment. -/
theorem Placed.segment_directive {source before rest : List Char}
    (hsource : source = before ++ ("\x7b\x7b!<".toList ++ rest)) {p : Placed}
    (hp : p ∈ (Segment.sequence source).1) (hstart : p.start.byte = byteSize before) :
    (HoldsOneArgument rest ∧ ∃ arg, p.segment = .layout arg) ∨
      (¬ HoldsOneArgument rest ∧ p.segment = .comment) := by
  obtain ⟨before', rest', c, hsource', hposition, hread⟩ := (Segment.sequence_isIn source).2 p hp
  have hsize : byteSize before = byteSize before' := by
    rw [← hstart, hposition, Position.start_after]
  obtain ⟨-, rfl⟩ := append_inj_of_byteSize (hsource.symm.trans hsource') hsize
  exact Segment.one_directive hread

/-- Where a segment begins as the tag of a layout does, the tree has a directive exactly if the tag
holds one argument. Otherwise the segment is a comment. -/
theorem directive_kept_iff {source name : String} {t : Template} (h : parse source name = .ok t)
    {before rest : List Char} (hsource : source.toList = before ++ ("\x7b\x7b!<".toList ++ rest))
    {p : Placed} (hp : p ∈ (Segment.sequence source.toList).1)
    (hstart : p.start.byte = byteSize before) :
    ((∃ i ∈ invocations t.body, i.name = extendsName ∧ i.span.start = byteSize before) ↔
      HoldsOneArgument rest) ∧
    (p.segment = .comment ↔ ¬ HoldsOneArgument rest) := by
  have hinvocations := invocations_nest (segments_of_parse h).2
  obtain ⟨hholds, arg, hsegment⟩ | ⟨hholds, hsegment⟩ := p.segment_directive hsource hp hstart
  · refine ⟨⟨fun _ => hholds, fun _ => ?_⟩, by simp [hsegment, hholds]⟩
    refine ⟨p.invocation extendsName [] [arg], ?_, rfl, hstart⟩
    rw [hinvocations]
    exact List.mem_filterMap.2 ⟨p, hp, by simp [Placed.invocation?, Placed.item?, hsegment,
      Item.invocation?]⟩
  · refine ⟨⟨?_, fun hnot => absurd hnot hholds⟩, fun _ => hholds, fun _ => hsegment⟩
    -- What stands in the tree was read at the same place, so it would be a comment too.
    rintro ⟨i, hi, -, hplace⟩
    rw [hinvocations] at hi
    obtain ⟨q, hq, hi⟩ := List.mem_filterMap.1 hi
    have hqstart : q.start.byte = byteSize before := by
      rw [← hplace, (Placed.span_of_invocation? hi).1]
      rfl
    obtain ⟨hholds', -⟩ | ⟨-, hcomment⟩ := q.segment_directive hsource hq hqstart
    · exact hholds'
    · simp [Placed.invocation?, Placed.item?, hcomment] at hi

/-- A tag whose argument has a key. -/
theorem directive_kept_iff_keyed :
    let source := "a\x7b\x7b!< layout='b c'\x7d\x7d"
    ∃ t, parse source "page" = .ok t ∧
      ∃ i ∈ invocations t.body, i.name = extendsName ∧ i.span.start = 1 := by
  intro source
  let rest : List Char := " layout='b c'\x7d\x7d".toList
  have hholds : HoldsOneArgument rest := by
    refine ⟨[' '], "layout='b c'".toList, [], [], List.all_eq_true.1 rfl, .inr ?_, nofun, rfl⟩
    exact ⟨"layout".toList, "'b c'".toList, List.cons_ne_nil _ _, List.all_eq_true.1 rfl,
      .inl ⟨'\'', "b c".toList, .inr rfl, by decide, rfl⟩, rfl⟩
  have hsegments : (Segment.sequence source.toList).1.map (·.start.byte) = [0, 1] := by
    decide +kernel
  have hplace : 1 ∈ (Segment.sequence source.toList).1.map (·.start.byte) := by
    rw [hsegments]
    decide
  obtain ⟨p, hp, hstart⟩ := List.mem_map.1 hplace
  have hok : (parseBody source.toList).isOk := by decide +kernel
  cases hbody : parseBody source.toList with
  | error f =>
    rw [hbody] at hok
    cases hok
  | ok body =>
    have hparse : parse source "page" = .ok { name := "page", body } :=
      parse_ok_iff.2 ⟨rfl, hbody⟩
    have hsource : source.toList = ['a'] ++ ("\x7b\x7b!<".toList ++ rest) := by decide
    exact ⟨_, hparse, (directive_kept_iff hparse hsource hp hstart).1.2 hholds⟩

/-- A tag that names no layout is dropped, and the template has no layout. -/
theorem directive_dropped_empty :
    let source := "\x7b\x7b!<\x7d\x7d"
    (Segment.sequence source.toList).1.map (fun p => (p.start.byte, p.segment)) =
      [(0, .comment)] ∧
    parse source "page" = .ok { name := "page", body := [] } ∧
    layout { name := "page", body := [] } = .ok none :=
  ⟨by decide +kernel, rfl, rfl⟩

end BlogTheme.Template
