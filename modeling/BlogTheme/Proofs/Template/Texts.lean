import BlogTheme.Proofs.Template.Tags

/-!
# Texts

A text goes up to the next pair of braces. So it is read as it was written if it has no such pair
in it and does not end with a brace that would make one with the tag behind it (`textRun_append`),
and nothing else is ever read as a text (`textRun_spec`).
-/

namespace BlogTheme.Template.Segment

open Recogniser

variable {cs rest : List Char}

/-- A tag or a comment comes next. -/
def AtTag (rest : List Char) : Prop :=
  ['\x7b', '\x7b'] <+: rest

/-- A pair of braces may lie across the end of a text. -/
theorem isPrefixOf_braces_append {c : Char} (h : ['\x7b', '\x7b'].isPrefixOf (c :: cs) = false)
    (hend : cs = [] → rest = [] ∨ c ≠ '\x7b') :
    ['\x7b', '\x7b'].isPrefixOf (c :: (cs ++ rest)) = false := by
  cases cs with
  | nil =>
    obtain rfl | hc := hend rfl
    · exact h
    · simp [List.isPrefixOf, hc.symm]
  | cons d cs => exact h

theorem textRun_append (hcs : hasBraces cs = false)
    (hend : rest = [] ∨ AtTag rest ∧ cs.getLast? ≠ some '\x7b') :
    textRun (cs ++ rest) = (cs, rest) := by
  induction cs with
  | nil =>
    obtain rfl | ⟨hrest, -⟩ := hend
    · rfl
    · obtain ⟨after, rfl⟩ := hrest
      rfl
  | cons c cs ih =>
    rw [hasBraces, Bool.or_eq_false_iff] at hcs
    obtain ⟨hstarts, hcs⟩ := hcs
    have hne : ['\x7b', '\x7b'].isPrefixOf (c :: (cs ++ rest)) = false :=
      isPrefixOf_braces_append hstarts fun h => hend.imp_right fun ⟨_, hlast⟩ hc => by
        subst h hc
        exact hlast rfl
    have ih := ih hcs (hend.imp_right fun ⟨hrest, hlast⟩ =>
      ⟨hrest, fun h => hlast (by rw [List.getLast?_cons, h]; rfl)⟩)
    rw [List.cons_append, textRun, if_neg (by simp [hne]), ih]

theorem textRun_spec (cs : List Char) : ∃ front rest, textRun cs = (front, rest) ∧
    cs = front ++ rest ∧ hasBraces front = false ∧
    (rest = [] ∨ AtTag rest ∧ front.getLast? ≠ some '\x7b') := by
  induction cs with
  | nil => exact ⟨[], [], rfl, rfl, rfl, .inl rfl⟩
  | cons c cs ih =>
    by_cases hstarts : ['\x7b', '\x7b'].isPrefixOf (c :: cs)
    · exact ⟨[], c :: cs, if_pos hstarts, rfl, rfl,
        .inr ⟨List.isPrefixOf_iff_prefix.1 hstarts, nofun⟩⟩
    · obtain ⟨front, rest, hrun, rfl, hbraces, hend⟩ := ih
      refine ⟨c :: front, rest, by rw [textRun, if_neg hstarts, hrun], rfl, ?_, ?_⟩
      · rw [hasBraces, hbraces, Bool.or_false]
        cases front with
        | nil => simp [List.isPrefixOf]
        | cons d front => simpa [List.isPrefixOf] using hstarts
      · refine hend.imp_right fun ⟨hrest, hlast⟩ => ⟨hrest, ?_⟩
        cases front with
        | nil =>
          intro hc
          obtain rfl : c = '\x7b' := Option.some.inj hc
          obtain ⟨after, rfl⟩ := hrest
          exact hstarts rfl
        | cons d front => simpa [List.getLast?_cons] using hlast

/-- Without a pair of braces there is no tag. -/
theorem one_reads_text {P : Segment → Prop} (h : ¬ AtTag (cs ++ rest))
    (hp : Reads plainText cs rest P) : Reads one cs rest P := by
  have hmark {opening : String} (ds : List Char)
      (hopening : opening.toList = ['\x7b', '\x7b'] ++ ds) :
      opening.toList.isPrefixOf (cs ++ rest) = false := by
    rw [← Bool.not_eq_true, List.isPrefixOf_iff_prefix, hopening]
    exact fun hstarts => h ((List.prefix_append _ _).trans hstarts)
  refine one_reads_after_marks (hmark ['!', '-', '-'] rfl) (hmark ['!', '<'] rfl) (hmark ['!'] rfl)
    (hmark ['\x7b'] rfl) (hmark ['#'] rfl) ?_
  exact .orElse_right (.named (.map (between_refuses (hmark [] rfl)) _) .inverseTag) <|
    .orElse_right (.named (.map (between_refuses (hmark ['/'] rfl)) _) .blockClose) <|
    .orElse_right (.named (.map (between_refuses (hmark ['>'] rfl)) _) .partialTag) <|
    .orElse_right (.named (.map (between_refuses (hmark [] rfl)) _) .exprTag) hp

/-- A text is read up to the tag that follows. -/
theorem text_reads {content : String} (hne : content.toList ≠ [])
    (hbraces : hasBraces content.toList = false)
    (hend : rest = [] ∨ AtTag rest ∧ content.toList.getLast? ≠ some '\x7b') :
    Reads one content.toList rest (· = .text content) := by
  have hrun := textRun_append hbraces hend
  have htext : Reads plainText content.toList rest (· = .text content) := by
    intro pos
    refine ⟨.text content, ?_, rfl⟩
    simp [plainText, named, plain, hrun, hne, Cursor.advance]
  refine one_reads_text (fun htag => ?_) htext
  obtain ⟨after, hafter⟩ := htag
  rw [← hafter] at hrun
  exact hne (Prod.mk.inj hrun).1.symm

end BlogTheme.Template.Segment
