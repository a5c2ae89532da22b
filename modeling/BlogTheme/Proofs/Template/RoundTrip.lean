import BlogTheme.Proofs.Template.Nested
import BlogTheme.Proofs.Template.Parsed

/-!
# Writing and parsing

The trees that can be written are those that sources are parsed into, up to the places of their
tags, and what is written of such a tree is parsed into it again (`parse_write`).
-/

namespace BlogTheme.Template

open Recogniser

/-! ## Places -/

mutual

theorem Node.isWritable_unplaced : (node : Node) → node.unplaced.isWritable = node.isWritable
  | .text _ => rfl
  | .expression _ _ => rfl
  | .block i body inverse => by
    rw [Node.unplaced, Node.isWritable, Node.isWritable, allWritable_unplacedAll body,
      inverseWritable_unplacedInverse inverse]
    rfl

theorem inverseWritable_unplacedInverse : (inverse : Option (List Node)) →
    inverseWritable (unplacedInverse inverse) = inverseWritable inverse
  | none => rfl
  | some nodes => allWritable_unplacedAll nodes

theorem allWritable_unplacedAll : (nodes : List Node) →
    allWritable (unplacedAll nodes) = allWritable nodes
  | [] => rfl
  | node :: nodes => by
    have hends : node.unplaced.endsWithBrace = node.endsWithBrace := by cases node <;> rfl
    rw [unplacedAll, allWritable, allWritable, node.isWritable_unplaced, hends,
      allWritable_unplacedAll nodes]

end

theorem unplacedAll_eq_map (nodes : List Node) : unplacedAll nodes = nodes.map Node.unplaced := by
  induction nodes with
  | nil => rfl
  | cons node nodes ih => rw [unplacedAll, ih, List.map_cons]

/-- Whether a tree can be written does not depend on the places of its tags. -/
theorem isWritable_unplacedAll (nodes : List Node) :
    isWritable (unplacedAll nodes) = isWritable nodes := by
  have hwritable : Node.isWritable ∘ Node.unplaced = Node.isWritable :=
    funext Node.isWritable_unplaced
  have hends : (fun node : Node => !node.endsWithBrace) ∘ Node.unplaced =
      fun node => !node.endsWithBrace := by
    funext node
    cases node <;> rfl
  rw [isWritable, isWritable, unplacedAll_eq_map, ← List.map_dropLast, List.all_map, List.all_map,
    hwritable, hends]

/-! ## The round trip -/

/-- What is written of a tree is parsed into the tree. -/
theorem parseBody_nodesChars {nodes : List Node} (h : isWritable nodes) :
    ∃ body, parseBody (nodesChars nodes) = .ok body ∧ unplacedAll body = unplacedAll nodes := by
  have hrepeats := nodesChars_repeats nodes [] (writableBefore_nil h) (.inl rfl)
  have hend : Refuses Segment.placed [] := fun _ => rfl
  obtain ⟨ps, hread, added, hadded, hsteps⟩ := hrepeats.many hend .start
  rw [List.append_nil] at hread
  have hsequence : Segment.sequence (nodesChars nodes) =
      (ps, ⟨[], Position.start.after (nodesChars nodes)⟩) :=
    Option.some.inj hread
  refine ⟨added, ?_, hadded⟩
  rw [parseBody, hsequence]
  simp only [List.isEmpty_nil, if_true, nest, hsteps, bind, Except.bind]
  rw [Nesting.foldl_add_root rfl]
  simp [Nesting.finish, Nesting.empty]

theorem parse_ok_iff {source name : String} {t : Template} :
    parse source name = .ok t ↔ t.name = name ∧ parseBody source.toList = .ok t.body := by
  unfold parse
  cases parseBody source.toList with
  | error fault => exact ⟨nofun, nofun⟩
  | ok body =>
    constructor
    · rintro ⟨⟩
      exact ⟨rfl, rfl⟩
    · rintro ⟨rfl, ⟨⟩⟩
      rfl

theorem isWritable_of_unplacedAll_eq {nodes nodes' : List Node}
    (heq : unplacedAll nodes = unplacedAll nodes') (h : isWritable nodes) : isWritable nodes' := by
  rw [← isWritable_unplacedAll, ← heq, isWritable_unplacedAll, h]

/-- Up to the places of tags, the trees that sources are parsed into are those that can be
written, and they are those that are parsed again from what is written of them. -/
theorem parse_write (name : String) (nodes : List Node) :
    (isWritable nodes ↔ ∃ source t, parse source name = .ok t ∧
      unplacedAll t.body = unplacedAll nodes) ∧
    (isWritable nodes ↔ ∃ t, parse (write nodes) name = .ok t ∧ t.name = name ∧
      unplacedAll t.body = unplacedAll nodes) := by
  have hsource {source : String} {t : Template} (hparse : parse source name = .ok t)
      (hbody : unplacedAll t.body = unplacedAll nodes) : isWritable nodes :=
    isWritable_of_unplacedAll_eq hbody (isWritable_of_parseBody (parse_ok_iff.1 hparse).2)
  have hwrite (h : isWritable nodes) : ∃ t, parse (write nodes) name = .ok t ∧ t.name = name ∧
      unplacedAll t.body = unplacedAll nodes := by
    obtain ⟨body, hparse, hbody⟩ := parseBody_nodesChars h
    refine ⟨{ name, body }, parse_ok_iff.2 ⟨rfl, ?_⟩, rfl, hbody⟩
    rw [write, String.toList_ofList]
    exact hparse
  constructor
  · constructor
    · intro h
      obtain ⟨t, hparse, -, hbody⟩ := hwrite h
      exact ⟨write nodes, t, hparse, hbody⟩
    · rintro ⟨source, t, hparse, hbody⟩
      exact hsource hparse hbody
  · exact ⟨hwrite, fun ⟨t, hparse, _, hbody⟩ => hsource hparse hbody⟩

/-- Texts beside one another, names that look like an inverse, and a brace at the end. -/
theorem parse_write_block :
    let call : Invocation :=
      { name := ">", params := [.string "a\"b", .number (-3)], hash := [("else", .boolean true)]
        span := default }
    let nodes : List Node :=
      [.block { name := "else", params := [.path "else"], hash := [], span := default }
        [.text "a", .text "b", .expression call true] (some []), .text "c\x7b"]
    write nodes = "\x7b\x7b# else else \x7d\x7da\x7b\x7b!\x7d\x7db" ++
      "\x7b\x7b> 'a\"b' -3 else=true \x7d\x7d\x7b\x7belse\x7d\x7d\x7b\x7b/ else \x7d\x7dc\x7b" ∧
      ∃ t, parse (write nodes) "page" = .ok t ∧ t.name = "page" ∧
        unplacedAll t.body = unplacedAll nodes := by
  intro call nodes
  exact ⟨by decide, (parse_write "page" nodes).2.1 (by decide)⟩

end BlogTheme.Template
