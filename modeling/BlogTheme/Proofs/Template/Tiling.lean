import BlogTheme.Proofs.Template.Places
import BlogTheme.Proofs.Template.RoundTrip

/-!
# What a source is made of

The segments of a source tile it: each begins where the one before it ends, and texts stand there as
they are, while everything else stands between pairs of braces (`Segment.sequence_tiles`). So a tree
holds exactly the texts between the tags and comments of its source, and the spans of its
invocations are those of their tags, one behind the other (`parse_tiles`).
-/

namespace BlogTheme.Template

open Recogniser

/-! ## Segments as they are written -/

/-- The text stands between pairs of braces. -/
def IsMarked (cs : List Char) : Prop :=
  "\x7b\x7b".toList <+: cs ∧ "\x7d\x7d".toList <:+ cs

theorem IsMarked.ne_nil {cs : List Char} (h : IsMarked cs) : cs ≠ [] := by
  rintro rfl
  exact List.cons_ne_nil _ _ (List.prefix_nil.1 h.1)

namespace Segment

/-- Whether the segment is a text. -/
def isText : Segment → Bool
  | .text _ => true
  | _ => false

/-- The segment is written as this text. -/
def IsWrittenAs (s : Segment) (cs : List Char) : Prop :=
  cs ≠ [] ∧ match s with
    | .text content => cs = content.toList
    | _ => IsMarked cs

theorem isWrittenAs_of_isText {s : Segment} (h : s.isText = false) {cs : List Char} :
    s.IsWrittenAs cs ↔ IsMarked cs := by
  cases s with
  | text content => cases h
  | _ => exact ⟨fun h => h.2, fun h => ⟨h.ne_nil, h⟩⟩

theorem suffix_of_upTo? {mark cs front rest : List Char} (h : upTo? mark cs = some (front, rest)) :
    mark <:+ front := by
  induction cs generalizing front with
  | nil => cases h
  | cons c cs ih =>
    rw [upTo?] at h
    split at h
    · cases h
      exact List.suffix_refl _
    · obtain ⟨⟨front', rest'⟩, hupTo, heq⟩ := Option.map_eq_some_iff.1 h
      cases heq
      exact (ih hupTo).trans (List.suffix_cons _ _)

section

variable {opening closing : String} (hopening : "\x7b\x7b".toList.isPrefixOf opening.toList)
  (hclosing : "\x7d\x7d".toList.isSuffixOf closing.toList)
include hopening hclosing

theorem isMarked_between {cs : List Char} (hbegin : opening.toList <+: cs)
    (hend : closing.toList <:+ cs) : IsMarked cs :=
  ⟨(List.isPrefixOf_iff_prefix.1 hopening).trans hbegin,
    (List.isSuffixOf_iff_suffix.1 hclosing).trans hend⟩

theorem comment_written :
    Takes (commentBetween opening closing) fun cs seg _ => seg.IsWrittenAs cs := by
  intro c seg c' hread
  simp only [commentBetween, plain, bind, Option.bind_eq_some_iff] at hread
  obtain ⟨c₁, hliteral, ⟨front, rest⟩, hupTo, heq⟩ := hread
  cases heq
  have hread : (literal opening).read c = some ((), c₁) := congrArg (Option.map _) hliteral
  obtain ⟨_, hcs, rfl⟩ := Takes.literal opening _ _ _ hread
  refine ⟨opening.toList ++ front, ?_, (isWrittenAs_of_isText rfl).2 ?_⟩
  · rw [hcs, upTo?_append hupTo, List.append_assoc]
    rfl
  · exact isMarked_between hopening hclosing (List.prefix_append _ _)
      ((suffix_of_upTo? hupTo).trans (List.suffix_append _ _))

/-- A tag is written with its marks around it. -/
theorem tag_written {p : Recogniser α} {R : List Char → α → List Char → Prop} (hp : Takes p R)
    {f : α → Segment} (hf : ∀ a, (f a).isText = false) (rule : Rule) :
    Takes (named rule ((between opening closing p).map f)) fun cs seg _ => seg.IsWrittenAs cs := by
  refine (((between_takes hp).map f).named rule).mono ?_
  rintro _ _ rest ⟨a, rfl, bs, inner, bs', rfl, -⟩
  refine (isWrittenAs_of_isText (hf a)).2
    (isMarked_between hopening hclosing (List.prefix_append _ _) ?_)
  simp only [← List.append_assoc]
  exact List.suffix_append _ _

end

theorem text_written : Takes plainText fun cs seg _ => seg.IsWrittenAs cs := by
  intro c seg c' hread
  obtain ⟨front, rest, hrun, hrest, -⟩ := textRun_spec c.rest
  simp only [plainText, named, plain, hrun] at hread
  split at hread
  · cases hread
  · rename_i hne
    cases hread
    exact ⟨front, hrest, by simpa using hne, String.toList_ofList.symm⟩

/-- A segment is written as the text that is read as it. -/
theorem one_written : Takes one fun cs seg _ => seg.IsWrittenAs cs := by
  exact .orElse ((comment_written rfl rfl).named .longComment) <|
    .orElse (tag_written rfl rfl arg_takes (fun _ => rfl) .extendsTag) <|
    .orElse ((comment_written rfl rfl).named .shortComment) <|
    .orElse (tag_written rfl rfl invocation_takes (fun _ => rfl) .rawTag) <|
    .orElse (tag_written rfl rfl invocation_takes (fun _ => rfl) .blockOpen) <|
    .orElse (tag_written rfl rfl inverseMark_takes (fun _ => rfl) .inverseTag) <|
    .orElse (tag_written rfl rfl path_takes (fun _ => rfl) .blockClose) <|
    .orElse (tag_written rfl rfl (inclusionName_takes.both args_takes) (fun _ => rfl) .partialTag) <|
    .orElse (tag_written rfl rfl invocation_takes (fun _ => rfl) .exprTag) text_written

end Segment

/-! ## Tiles -/

/-- The span is that of `text` behind `before`: its bytes, and the line and column of its first
character. -/
structure Span.Marks (s : Span) (before text : List Char) : Prop where
  start : s.start = byteSize before
  stop : s.stop = byteSize (before ++ text)
  line : s.line = 1 + before.count '\n'
  column : s.column = 1 + (lastLine before).length

/-- A segment and the text that it was read from. -/
structure Piece where
  placed : Placed
  text : List Char

/-- The piece stands behind this text: it is written there, and its span says so. -/
structure Piece.StandsBehind (piece : Piece) (before : List Char) : Prop where
  written : piece.placed.segment.IsWrittenAs piece.text
  span : piece.placed.span.Marks before piece.text

/-- The pieces stand behind this text, each where the one before it ends. -/
def Tiles (before : List Char) : List Piece → Prop
  | [] => True
  | piece :: pieces => piece.StandsBehind before ∧ Tiles (before ++ piece.text) pieces

theorem Placed.span_marks {p : Placed} {before text : List Char}
    (hstart : p.start = Position.start.after before) (hstop : p.stop = p.start.after text) :
    p.span.Marks before text := by
  have hend : p.stop = Position.start.after (before ++ text) := by
    rw [hstop, hstart, Position.after_append]
  rw [Position.start_after] at hstart hend
  exact ⟨congrArg Position.byte hstart, congrArg Position.byte hend,
    congrArg Position.line hstart, congrArg Position.column hstart⟩

/-- As far as segments are read they tile what they are read from. -/
theorem Segment.collect_tiles (fuel : Nat) {before : List Char} {c : Cursor}
    (hc : c.position = Position.start.after before) :
    ∃ pieces : List Piece, (placed.collect fuel c).1 = pieces.map Piece.placed ∧
      Tiles before pieces ∧
      c.rest = pieces.flatMap Piece.text ++ (placed.collect fuel c).2.rest := by
  induction fuel generalizing before c with
  | zero => exact ⟨[], rfl, trivial, rfl⟩
  | succ fuel ih =>
    rw [Recogniser.collect]
    cases hread : placed.read c with
    | none => exact ⟨[], rfl, trivial, rfl⟩
    | some result =>
      obtain ⟨p, c'⟩ := result
      obtain ⟨⟨segment, c''⟩, hone, heq⟩ := Option.map_eq_some_iff.1 hread
      cases heq
      obtain ⟨text, hrest, hwritten⟩ := one_written _ _ _ hone
      -- The place behind the segment is that behind its text, where the next one begins.
      have hin : c.IsIn (before ++ c.rest) := ⟨before, rfl, hc⟩
      have hin' : c'.IsIn (before ++ c.rest) := (one_staysIn.read _ _ _ hin hone).1
      have hc' : c'.position = c.position.after text := hin.position_of_rest hin' hrest
      have hbehind : c'.position = Position.start.after (before ++ text) := by
        rw [hc', hc, Position.after_append]
      obtain ⟨pieces, hpieces, htiles, hmore⟩ := ih hbehind
      let piece : Piece :=
        { placed := { segment, start := c.position, stop := c'.position }, text }
      refine ⟨piece :: pieces, ?_, ⟨⟨hwritten, Placed.span_marks hc hc'⟩, htiles⟩, ?_⟩
      · rw [List.map_cons, ← hpieces]
      · rw [List.flatMap_cons, List.append_assoc, ← hmore, hrest]

/-- The segments of a source tile it as far as it has any. -/
theorem Segment.sequence_tiles (source : List Char) :
    ∃ pieces : List Piece, (sequence source).1 = pieces.map Piece.placed ∧ Tiles [] pieces ∧
      source = pieces.flatMap Piece.text ++ (sequence source).2.rest :=
  collect_tiles _ rfl

namespace Tiles

variable {before : List Char} {pieces : List Piece}

theorem standsBehind (h : Tiles before pieces) {piece : Piece} (hpiece : piece ∈ pieces) :
    ∃ front back, pieces.flatMap Piece.text = front ++ (piece.text ++ back) ∧
      piece.StandsBehind (before ++ front) := by
  induction pieces generalizing before with
  | nil => cases hpiece
  | cons first pieces ih =>
    obtain ⟨hfirst, hpieces⟩ := h
    cases hpiece with
    | head => exact ⟨[], pieces.flatMap Piece.text, rfl, by rwa [List.append_nil]⟩
    | tail _ hpiece =>
      obtain ⟨front, back, htext, hstands⟩ := ih hpieces hpiece
      refine ⟨first.text ++ front, back, ?_, by rwa [← List.append_assoc]⟩
      rw [List.flatMap_cons, htext, List.append_assoc]

/-- No piece begins before another ends. -/
theorem pairwise (h : Tiles before pieces) :
    pieces.Pairwise fun p q => p.placed.span.stop ≤ q.placed.span.start := by
  induction pieces generalizing before with
  | nil => exact .nil
  | cons first pieces ih =>
    obtain ⟨hfirst, hpieces⟩ := h
    refine .cons (fun q hq => ?_) (ih hpieces)
    obtain ⟨front, -, -, hstands⟩ := hpieces.standsBehind hq
    rw [hfirst.span.stop, hstands.span.start, byteSize_append _ front]
    exact Nat.le_add_right _ _

end Tiles

theorem Piece.StandsBehind.span_pos {piece : Piece} {before : List Char}
    (h : piece.StandsBehind before) : piece.placed.span.start < piece.placed.span.stop := by
  rw [h.span.start, h.span.stop, byteSize_append]
  exact Nat.lt_add_of_pos_right (byteSize_pos h.written.1)

/-! ## What a tree keeps -/

/-- The content of a text. -/
def Item.text? : Item → Option String
  | .text content => some content
  | _ => none

/-- The invocation of an item, if it has one. -/
def Item.invocation? : Item → Option Invocation
  | .expression i _ => some i
  | .opening i => some i
  | _ => none

/-- The texts of a tree in the order of the source. -/
def texts (nodes : List Node) : List String :=
  (allItems nodes).filterMap Item.text?

/-- The invocations of a tree in the order of the source: that of a block stands before those of
its body, and these before those of its inverse. -/
def invocations (nodes : List Node) : List Invocation :=
  (allItems nodes).filterMap Item.invocation?

namespace Placed

/-- The text of a segment, if it is one. -/
def text? (p : Placed) : Option String :=
  p.item?.bind Item.text?

/-- The invocation that a tag makes, if it makes one. -/
def invocation? (p : Placed) : Option Invocation :=
  p.item?.bind Item.invocation?

/-- The invocation of a tag has its span. -/
theorem span_of_invocation? {p : Placed} {i : Invocation} (h : p.invocation? = some i) :
    i.span = p.span ∧ p.segment.isText = false := by
  obtain ⟨item, hitem, hi⟩ := Option.bind_eq_some_iff.1 h
  unfold item? at hitem
  split at hitem <;> cases hitem <;> cases hi <;>
    (rename_i hsegment; exact ⟨rfl, by rw [hsegment]; rfl⟩)

end Placed

/-- A piece that is a text has the content that stands there. -/
theorem Piece.StandsBehind.text?_eq {piece : Piece} {before : List Char}
    (h : piece.StandsBehind before) : piece.placed.text? =
      if piece.placed.segment.isText then some (String.ofList piece.text) else none := by
  obtain ⟨-, hwritten⟩ := h.written
  unfold Placed.text? Placed.item?
  cases hsegment : piece.placed.segment with
  | text content =>
    rw [hsegment] at hwritten
    obtain rfl : content = String.ofList piece.text := by
      rw [show piece.text = content.toList from hwritten, String.ofList_toList]
    rfl
  | _ => rfl

/-- What the texts among some pieces say is what stands there. -/
theorem Tiles.flatMap_texts {before : List Char} {pieces : List Piece} (h : Tiles before pieces) :
    ((pieces.map Piece.placed).filterMap Placed.text?).flatMap String.toList =
      (pieces.filter fun piece => piece.placed.segment.isText).flatMap Piece.text := by
  induction pieces generalizing before with
  | nil => rfl
  | cons first pieces ih =>
    obtain ⟨hfirst, hpieces⟩ := h
    have ih := ih hpieces
    rw [List.map_cons, List.filterMap_cons, hfirst.text?_eq, List.filter_cons]
    cases first.placed.segment.isText with
    | false => exact ih
    | true => simpa using ih

theorem texts_nest {ps : List Placed} {nodes : List Node} (h : nest ps = .ok nodes) :
    texts nodes = ps.filterMap Placed.text? := by
  rw [texts, allItems_nest h, List.filterMap_filterMap]
  rfl

theorem invocations_nest {ps : List Placed} {nodes : List Node} (h : nest ps = .ok nodes) :
    invocations nodes = ps.filterMap Placed.invocation? := by
  rw [invocations, allItems_nest h, List.filterMap_filterMap]
  rfl

/-! ## Sources that can be parsed -/

/-- A source that has a tree is made of the segments that the tree was made of. -/
theorem segments_of_parse {source name : String} {t : Template} (h : parse source name = .ok t) :
    (Segment.sequence source.toList).2.rest = [] ∧
      nest (Segment.sequence source.toList).1 = .ok t.body := by
  have hbody := (parse_ok_iff.1 h).2
  unfold parseBody at hbody
  generalize Segment.sequence source.toList = segments at hbody ⊢
  obtain ⟨ps, stuck⟩ := segments
  simp only at hbody
  split at hbody
  · rename_i hrest
    exact ⟨List.isEmpty_iff.1 hrest, hbody⟩
  · cases hbody

/-- The segments of a source that can be parsed tile it. The texts of the tree, in their order, are
what is left of the source without its tags and comments. The invocations of the tree, in their
order, stand one behind the other between pairs of braces, where their spans say. -/
theorem parse_tiles {source name : String} {t : Template} (h : parse source name = .ok t) :
    ∃ pieces : List Piece, (Segment.sequence source.toList).1 = pieces.map Piece.placed ∧
      Tiles [] pieces ∧ pieces.flatMap Piece.text = source.toList ∧
      (texts t.body).flatMap String.toList =
        (pieces.filter fun piece => piece.placed.segment.isText).flatMap Piece.text ∧
      (∀ i ∈ invocations t.body, i.span.start < i.span.stop ∧
        ∃ before text after, source.toList = before ++ (text ++ after) ∧
          i.span.Marks before text ∧ IsMarked text) ∧
      (invocations t.body).Pairwise fun i j => i.span.stop ≤ j.span.start := by
  obtain ⟨hrest, hnest⟩ := segments_of_parse h
  obtain ⟨pieces, hpieces, htiles, hsource⟩ := Segment.sequence_tiles source.toList
  rw [hrest, List.append_nil] at hsource
  rw [hpieces] at hnest
  refine ⟨pieces, hpieces, htiles, hsource.symm, ?_, fun i hi => ?_, ?_⟩
  · rw [texts_nest hnest, htiles.flatMap_texts]
  · rw [invocations_nest hnest] at hi
    obtain ⟨p, hp, hi⟩ := List.mem_filterMap.1 hi
    obtain ⟨piece, hpiece, rfl⟩ := List.mem_map.1 hp
    obtain ⟨hspan, htag⟩ := Placed.span_of_invocation? hi
    obtain ⟨front, back, htext, hstands⟩ := htiles.standsBehind hpiece
    rw [hspan]
    exact ⟨hstands.span_pos, front, piece.text, back, hsource.trans htext, hstands.span,
      (Segment.isWrittenAs_of_isText htag).1 hstands.written⟩
  · have hordered : (pieces.map Piece.placed).Pairwise fun p q => p.span.stop ≤ q.span.start :=
      List.pairwise_map.2 htiles.pairwise
    rw [invocations_nest hnest]
    refine hordered.filterMap _ fun p q hpq i hi j hj => ?_
    rwa [(Placed.span_of_invocation? hi).1, (Placed.span_of_invocation? hj).1]

/-- A block over two lines with an inverse, behind a character of two bytes. -/
theorem parse_tiles_block :
    let source := "\u00e9\x7b\x7b#if a\x7d\x7d\n\x7b\x7b> b\x7d\x7d\x7b\x7belse\x7d\x7dx" ++
      "\x7b\x7b/if\x7d\x7d\x7b\x7b! c \x7d\x7d"
    ∃ t, parse source "page" = .ok t ∧
      (invocations t.body).map Invocation.span =
        [{ start := 2, stop := 11, line := 1, column := 2 },
          { start := 12, stop := 19, line := 2, column := 1 }] ∧
      (invocations t.body).Pairwise fun i j => i.span.stop ≤ j.span.start := by
  intro source
  have hspans : (parseBody source.toList).toOption.map
      (fun nodes => (invocations nodes).map Invocation.span) =
        some [{ start := 2, stop := 11, line := 1, column := 2 },
          { start := 12, stop := 19, line := 2, column := 1 }] := by
    decide +kernel
  cases hbody : parseBody source.toList with
  | error f =>
    rw [hbody] at hspans
    cases hspans
  | ok body =>
    rw [hbody] at hspans
    have hparse : parse source "page" = .ok { name := "page", body } :=
      parse_ok_iff.2 ⟨rfl, hbody⟩
    obtain ⟨-, -, -, -, -, -, hordered⟩ := parse_tiles hparse
    exact ⟨_, hparse, Option.some.inj hspans, hordered⟩

end BlogTheme.Template
