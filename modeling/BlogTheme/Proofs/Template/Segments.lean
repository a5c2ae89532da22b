import BlogTheme.Proofs.Template.Texts

/-!
# What segments can be

Whatever is read as a segment could have been written (`Segment.one_takes`): the words of a tag
are writable, a lone `else` was no expression, as the tag of an inverse is tried before, and a
text has no pair of braces in it and only ends with a brace where the source ends.
-/

namespace BlogTheme.Template

open Recogniser

namespace Segment

/-- The segment can be written. -/
def IsWritable : Segment → Prop
  | .comment => True
  | .text content => content.toList ≠ [] ∧ hasBraces content.toList = false
  | .expression name args escaped =>
    isPathText name ∧ (∀ a ∈ args, a.IsWritable) ∧ (escaped → name = "else" → args ≠ [])
  | .inclusion word args =>
    (∃ s, (word = .string s ∨ word = .path s) ∧ (Argument.string s).isWritable) ∧
      ∀ a ∈ args, a.IsWritable
  | .layout arg => arg.IsWritable
  | .blockOpen name args => isPathText name ∧ ∀ a ∈ args, a.IsWritable
  | .inverse => True
  | .blockClose _ => True

/-- The segment is a text that ends with a brace. -/
def EndsWithBrace : Segment → Prop
  | .text content => content.toList.getLast? = some '\x7b'
  | _ => False

/-- The segment can be written in front of this. -/
def IsWritableBefore (rest : List Char) (s : Segment) : Prop :=
  s.IsWritable ∧ (s.EndsWithBrace → rest = [])

theorem upTo?_append {mark cs front rest : List Char} (h : upTo? mark cs = some (front, rest)) :
    cs = front ++ rest := by
  induction cs generalizing front with
  | nil => cases h
  | cons c cs ih =>
    rw [upTo?] at h
    split at h
    · rename_i hstarts
      cases h
      obtain ⟨after, hafter⟩ := List.isPrefixOf_iff_prefix.1 hstarts
      rw [← hafter, List.drop_left]
    · obtain ⟨⟨front', rest'⟩, hupTo, heq⟩ := Option.map_eq_some_iff.1 h
      cases heq
      rw [ih hupTo, List.cons_append]

theorem comment_takes (opening closing : String) :
    Takes (commentBetween opening closing) fun _ seg _ => seg = .comment := by
  intro c seg c' hread
  simp only [commentBetween, plain, bind, Option.bind_eq_some_iff] at hread
  obtain ⟨c₁, hopening, ⟨front, rest⟩, hupTo, heq⟩ := hread
  cases heq
  have hliteral : (literal opening).read c = some ((), c₁) := congrArg (Option.map _) hopening
  obtain ⟨_, hcs, rfl⟩ := Takes.literal opening _ _ _ hliteral
  refine ⟨opening.toList ++ front, ?_, rfl⟩
  rw [hcs, upTo?_append hupTo, List.append_assoc]
  rfl

theorem layout_takes : Takes layoutTag fun _ seg rest => seg.IsWritableBefore rest := by
  refine (((between_takes arg_takes).map layout).named .extendsTag).mono ?_
  rintro _ _ rest ⟨arg, rfl, _, _, _, _, _, _, _, _, harg⟩
  exact ⟨harg, nofun⟩

theorem raw_takes : Takes rawTag fun _ seg rest => seg.IsWritableBefore rest := by
  refine (((between_takes invocation_takes).map _).named .rawTag).mono ?_
  rintro _ _ rest ⟨⟨name, args⟩, rfl, _, _, _, _, _, _, _, _, hname, hargs, -⟩
  exact ⟨⟨hname, hargs, nofun⟩, nofun⟩

theorem open_takes : Takes openTag fun _ seg rest => seg.IsWritableBefore rest := by
  refine (((between_takes invocation_takes).map _).named .blockOpen).mono ?_
  rintro _ _ rest ⟨⟨name, args⟩, rfl, _, _, _, _, _, _, _, _, hname, hargs, -⟩
  exact ⟨⟨hname, hargs⟩, nofun⟩

theorem inverse_takes : Takes inverseTag fun _ seg rest => seg.IsWritableBefore rest := by
  rw [inverseTag_eq]
  refine (((between_takes inverseMark_takes).map _).named .inverseTag).mono ?_
  rintro _ _ rest ⟨_, rfl, -⟩
  exact ⟨trivial, nofun⟩

theorem close_takes : Takes closeTag fun _ seg rest => seg.IsWritableBefore rest := by
  refine (((between_takes path_takes).map blockClose).named .blockClose).mono ?_
  rintro _ _ rest ⟨_, rfl, -⟩
  exact ⟨trivial, nofun⟩

/-- A path can be written as a string. -/
theorem isWritable_string_of_isPathText {s : String} (hs : isPathText s) :
    (Argument.string s).isWritable := by
  have hquote : '"' ∉ s.toList := fun h => Bool.false_ne_true ((isPathText_iff.1 hs).2 _ h)
  simp [Argument.isWritable, hquote]

theorem inclusionName_takes : Takes inclusionName fun _ word _ =>
    ∃ s, (word = .string s ∨ word = .path s) ∧ (Argument.string s).isWritable := by
  refine Takes.named (.orElse ((string_takes.map Word.string).mono ?_)
    ((path_takes.map Word.path).mono ?_)) .partialName
  · rintro _ _ rest ⟨s, rfl, -, hs⟩
    exact ⟨s, .inl rfl, hs⟩
  · rintro _ _ rest ⟨s, rfl, -, hs, -⟩
    exact ⟨s, .inr rfl, isWritable_string_of_isPathText hs⟩

theorem include_takes : Takes includeTag fun _ seg rest => seg.IsWritableBefore rest := by
  rw [includeTag_eq]
  refine (((between_takes (inclusionName_takes.both args_takes)).map _).named .partialTag).mono ?_
  rintro _ _ rest ⟨⟨word, args⟩, rfl, _, _, _, _, _, _, _, _, _, _, -, hword, hargs, -⟩
  exact ⟨⟨hword, hargs⟩, nofun⟩

theorem text_takes : Takes plainText fun _ seg rest => seg.IsWritableBefore rest := by
  intro c seg c' hread
  obtain ⟨front, rest, hrun, hrest, hbraces, hend⟩ := textRun_spec c.rest
  simp only [plainText, named, plain, hrun] at hread
  split at hread
  · cases hread
  · rename_i hne
    cases hread
    refine ⟨front, hrest, ?_, fun hlast => ?_⟩
    · rw [IsWritable, String.toList_ofList]
      exact ⟨by simpa using hne, hbraces⟩
    · rw [EndsWithBrace, String.toList_ofList] at hlast
      exact hend.resolve_right fun h => h.2 hlast

/-- A tag that is read as an expression can be written, unless it is that of an inverse. -/
theorem expression_takes : Takes expressionTag fun cs seg rest =>
    (∃ pos, inverseTag.read ⟨cs ++ rest, pos⟩ = none) → seg.IsWritableBefore rest := by
  refine (((between_takes invocation_takes).map _).named .exprTag).mono ?_
  rintro _ _ rest ⟨⟨name, args⟩, rfl, bs, inner, bs', rfl, hbs, hbs', -, -, hname, hargs, hnil⟩
    hrefuses
  refine ⟨⟨hname, hargs, fun _ helse hargs => ?_⟩, nofun⟩
  obtain ⟨rfl, hend⟩ := hnil hargs
  obtain rfl : name = "else" := helse
  exact Refuses.not_reads hrefuses (inverseTag_reads hbs hbs' hend)

/-- A segment that is read could have been written. -/
theorem one_takes : Takes one fun _ seg rest => seg.IsWritableBefore rest := by
  have hcomment {opening closing : String} (rule : Rule) :
      Takes (named rule (commentBetween opening closing)) fun _ seg rest =>
        seg.IsWritableBefore rest := by
    refine ((comment_takes opening closing).named rule).mono ?_
    rintro _ _ rest rfl
    exact ⟨trivial, nofun⟩
  have hafter : Takes (closeTag.orElse (includeTag.orElse (expressionTag.orElse plainText)))
      fun cs seg rest =>
        (∃ pos, inverseTag.read ⟨cs ++ rest, pos⟩ = none) → seg.IsWritableBefore rest :=
    .orElse (close_takes.mono fun _ _ _ h _ => h) <|
      .orElse (include_takes.mono fun _ _ _ h _ => h) <|
      .orElse expression_takes (text_takes.mono fun _ _ _ h _ => h)
  exact .orElse (hcomment .longComment) <| .orElse layout_takes <|
    .orElse (hcomment .shortComment) <| .orElse raw_takes <| .orElse open_takes <|
    .orElse_refused inverse_takes hafter (fun _ _ _ hrefuses h => h hrefuses) fun _ _ _ h => h

end Segment

end BlogTheme.Template
