import BlogTheme.Proofs.Template.Arguments
import BlogTheme.Proofs.Template.Segments
import BlogTheme.Template.Parse

/-!
# Parsed trees

Whatever tree a source is parsed into can be written (`isWritable_of_parseBody`). While segments are
taken, all nodes and all open blocks are writable, and none is a text that ends with a brace, as
such a text is the last segment of its source (`Nesting.step_writable`).
-/

namespace BlogTheme.Template

/-! ## Segments of a source -/

/-- The segments can be written, and only the last is a text that ends with a brace. -/
def AreWritable : List Placed → Prop
  | [] => True
  | p :: ps => p.segment.IsWritable ∧ (p.segment.EndsWithBrace → ps = []) ∧ AreWritable ps

theorem Segment.collect_writable (fuel : Nat) (c : Cursor) :
    AreWritable (placed.collect fuel c).1 := by
  induction fuel generalizing c with
  | zero => trivial
  | succ fuel ih =>
    rw [Recogniser.collect]
    cases hread : placed.read c with
    | none => trivial
    | some result =>
      obtain ⟨p, c'⟩ := result
      obtain ⟨⟨segment, c''⟩, hone, heq⟩ := Option.map_eq_some_iff.1 hread
      cases heq
      obtain ⟨_, -, hsegment, hend⟩ := one_takes _ _ _ hone
      refine ⟨hsegment, fun hbrace => ?_, ih c'⟩
      -- Nothing is left behind a text that ends with a brace.
      obtain ⟨rest, position⟩ := c'
      obtain rfl : rest = [] := hend hbrace
      cases fuel <;> rfl

theorem Segment.sequence_writable (source : List Char) : AreWritable (sequence source).1 :=
  collect_writable _ _

/-! ## Nodes -/

/-- The node can be written, whatever follows. -/
def Node.StandsAnywhere (node : Node) : Prop :=
  node.isWritable ∧ node.endsWithBrace = false

theorem allWritable_iff {nodes : List Node} :
    allWritable nodes ↔ ∀ node ∈ nodes, node.StandsAnywhere := by
  induction nodes with
  | nil => simp [allWritable]
  | cons node nodes ih => simp [allWritable, ih, Node.StandsAnywhere]

theorem isWritable_of_standsAnywhere {nodes : List Node} (h : ∀ node ∈ nodes, node.StandsAnywhere) :
    isWritable nodes :=
  isWritable_iff.2 ⟨fun node hnode => (h node hnode).1,
    fun node hnode => (h node (List.dropLast_subset _ hnode)).2⟩

/-- The last node may end with a brace. -/
theorem isWritable_concat {nodes : List Node} (h : ∀ node ∈ nodes, node.StandsAnywhere)
    {last : Node} (hlast : last.isWritable) : isWritable (nodes ++ [last]) := by
  refine isWritable_iff.2 ⟨List.forall_mem_append.2
    ⟨fun node hnode => (h node hnode).1, List.forall_mem_singleton.2 hlast⟩, ?_⟩
  rw [List.dropLast_concat]
  exact fun node hnode => (h node hnode).2

/-- What a tag adds has the name of the tag and arguments that can be written. -/
theorem addArgs_bare {p : Placed} {name : String} {args : List Arg} {i : Invocation}
    (hargs : ∀ a ∈ args, a.IsWritable) (h : (p.bare name).addArgs args = .ok i) :
    i.hasWritableArguments ∧ i.name = name ∧ (args ≠ [] → i.arguments ≠ []) := by
  have hbare : (p.bare name).hasWritableArguments := rfl
  obtain ⟨hi, hname, -, hne⟩ := Invocation.addArgs_writable hbare hargs h
  exact ⟨hi, hname, hne⟩

theorem expression_standsAnywhere {p : Placed} {name : String} {args : List Arg} {escaped : Bool}
    {i : Invocation} (hname : isPathText name) (hargs : ∀ a ∈ args, a.IsWritable)
    (helse : escaped → name = "else" → args ≠ []) (h : (p.bare name).addArgs args = .ok i) :
    (Node.expression i escaped).StandsAnywhere := by
  obtain ⟨hi, rfl, hne⟩ := addArgs_bare hargs h
  refine ⟨?_, rfl⟩
  have hinclude : i.name ≠ includeName := by
    intro heq
    rw [heq] at hname
    cases hname
  have hextends : i.name ≠ extendsName := by
    intro heq
    rw [heq] at hname
    cases hname
  rw [Node.isWritable, Invocation.isWritableExpression, if_neg hinclude, if_neg hextends, hi, hname]
  simp only [Bool.true_and, Bool.not_eq_true', Bool.and_eq_false_iff, beq_eq_false_iff_ne]
  by_cases hlone : escaped ∧ i.name = "else"
  · exact .inr (by simpa using hne (helse hlone.1 hlone.2))
  · by_cases hescaped : escaped
    · exact .inl (.inr fun heq => hlone ⟨hescaped, heq⟩)
    · exact .inl (.inl (by simpa using hescaped))

theorem inclusion_standsAnywhere {p : Placed} {s : String} {args : List Arg} {i : Invocation}
    (hs : (Argument.string s).isWritable) (hargs : ∀ a ∈ args, a.IsWritable)
    (h : ((p.bare includeName).addParam (.string s)).addArgs args = .ok i) :
    (Node.expression i true).StandsAnywhere := by
  have hbare : ((p.bare includeName).addParam (.string s)).hasWritableArguments :=
    Invocation.hasWritableArguments_iff.2 ⟨List.forall_mem_singleton.2 hs, nofun, List.nodup_nil⟩
  obtain ⟨hi, hname, ⟨params, hparams⟩, -⟩ := Invocation.addArgs_writable hbare hargs h
  have hname : i.name = includeName := hname
  refine ⟨?_, rfl⟩
  rw [Node.isWritable, Invocation.isWritableExpression, if_pos hname, hi, ← hparams]
  rfl

theorem layout_standsAnywhere {p : Placed} {arg : Arg} {i : Invocation} (harg : arg.IsWritable)
    (h : (p.bare extendsName).addArg arg = .ok i) : (Node.expression i true).StandsAnywhere := by
  have hbare : (p.bare extendsName).hasWritableArguments := rfl
  have hi := Invocation.addArg_writable hbare harg h
  obtain ⟨a, -, hcases⟩ := Invocation.addArg_cases h
  refine ⟨?_, rfl⟩
  rw [Node.isWritable, Invocation.isWritableExpression, hi]
  obtain ⟨-, rfl⟩ | ⟨key, -, rfl⟩ := hcases <;> rfl

/-! ## Taking segments -/

/-- An open block that can be written. -/
structure OpenBlock.IsWritable (b : OpenBlock) : Prop where
  name : isPathText b.invocation.name
  arguments : b.invocation.hasWritableArguments
  body : ∀ node ∈ b.body, node.StandsAnywhere
  inverse : ∀ nodes, b.inverse = some nodes → ∀ node ∈ nodes, node.StandsAnywhere

namespace OpenBlock.IsWritable

variable {b : OpenBlock} (hb : b.IsWritable)
include hb

theorem add {node : Node} (hnode : node.StandsAnywhere) : (b.add node).IsWritable := by
  cases hinverse : b.inverse with
  | none =>
    rw [OpenBlock.add, hinverse]
    exact ⟨hb.name, hb.arguments, List.forall_mem_cons.2 ⟨hnode, hb.body⟩, nofun⟩
  | some nodes =>
    rw [OpenBlock.add, hinverse]
    refine ⟨hb.name, hb.arguments, hb.body, ?_⟩
    rintro _ ⟨⟩
    exact List.forall_mem_cons.2 ⟨hnode, hb.inverse nodes hinverse⟩

theorem close : b.close.StandsAnywhere := by
  have hreverse {nodes : List Node} (h : ∀ node ∈ nodes, node.StandsAnywhere) :
      allWritable nodes.reverse :=
    allWritable_iff.2 fun node hnode => h node (List.mem_reverse.1 hnode)
  refine ⟨?_, rfl⟩
  rw [OpenBlock.close, Node.isWritable, hb.name, hb.arguments, hreverse hb.body]
  cases hinverse : b.inverse with
  | none => rfl
  | some nodes =>
    simp only [Option.map_some, inverseWritable, hreverse (hb.inverse nodes hinverse)]
    rfl

end OpenBlock.IsWritable

/-- What is read so far can be written. -/
structure Nesting.IsWritable (s : Nesting) : Prop where
  root : ∀ node ∈ s.root, node.StandsAnywhere
  opened : ∀ b ∈ s.opened, b.IsWritable

namespace Nesting

theorem IsWritable.empty : Nesting.empty.IsWritable :=
  ⟨nofun, nofun⟩

theorem IsWritable.add {s : Nesting} (hs : s.IsWritable) {node : Node}
    (hnode : node.StandsAnywhere) : (s.add node).IsWritable := by
  cases hopened : s.opened with
  | nil =>
    rw [Nesting.add, hopened]
    exact ⟨List.forall_mem_cons.2 ⟨hnode, hs.root⟩, List.forall_mem_nil _⟩
  | cons b outer =>
    rw [Nesting.add, hopened]
    have hblocks := hs.opened
    rw [hopened] at hblocks
    obtain ⟨hb, houter⟩ := List.forall_mem_cons.1 hblocks
    exact ⟨hs.root, List.forall_mem_cons.2 ⟨hb.add hnode, houter⟩⟩

theorem opened_writable {s : Nesting} (hs : s.IsWritable) {b : OpenBlock} {outer : List OpenBlock}
    (hopened : s.opened = b :: outer) : b.IsWritable ∧ ∀ b ∈ outer, b.IsWritable := by
  have hblocks := hs.opened
  rw [hopened] at hblocks
  exact List.forall_mem_cons.1 hblocks

/-- Taking a segment keeps what is read writable. -/
theorem step_writable {s s' : Nesting} {p : Placed} (hs : s.IsWritable)
    (hp : p.segment.IsWritable) (hbrace : ¬ p.segment.EndsWithBrace) (h : s.step p = .ok s') :
    s'.IsWritable := by
  unfold step at h
  generalize p.segment = segment at h hp hbrace
  cases segment with
  | comment =>
    cases h
    exact hs
  | text content =>
    cases h
    exact hs.add ⟨Node.isWritable_text.2 hp,
      by simpa [Node.endsWithBrace, Segment.EndsWithBrace] using hbrace⟩
  | expression name args escaped =>
    obtain ⟨i, hi, heq⟩ := ok_of_bind h
    cases heq
    exact hs.add (expression_standsAnywhere hp.1 hp.2.1 hp.2.2 hi)
  | inclusion word args =>
    obtain ⟨⟨name, hname, hstring⟩, hargs⟩ := hp
    obtain ⟨a, ha, h⟩ := ok_of_bind h
    obtain ⟨i, hi, heq⟩ := ok_of_bind h
    cases heq
    have htext : a.literalText = name := by
      obtain rfl | rfl := hname <;> cases ha <;> rfl
    rw [htext] at hi
    exact hs.add (inclusion_standsAnywhere hstring hargs hi)
  | layout arg =>
    obtain ⟨i, hi, heq⟩ := ok_of_bind h
    cases heq
    exact hs.add (layout_standsAnywhere hp hi)
  | blockOpen name args =>
    obtain ⟨i, hi, heq⟩ := ok_of_bind h
    cases heq
    obtain ⟨harguments, rfl, -⟩ := addArgs_bare hp.2 hi
    exact ⟨hs.root, List.forall_mem_cons.2 ⟨⟨hp.1, harguments, nofun, nofun⟩, hs.opened⟩⟩
  | inverse =>
    simp only at h
    split at h
    · cases h
    · rename_i b outer hopened
      obtain ⟨hb, houter⟩ := opened_writable hs hopened
      split at h
      · cases h
      · cases h
        refine ⟨hs.root, List.forall_mem_cons.2 ⟨⟨hb.name, hb.arguments, hb.body, ?_⟩, houter⟩⟩
        rintro _ ⟨⟩
        exact List.forall_mem_nil _
  | blockClose name =>
    simp only at h
    split at h
    · cases h
    · rename_i b outer hopened
      obtain ⟨hb, houter⟩ := opened_writable hs hopened
      split at h
      · cases h
        exact IsWritable.add (s := { s with opened := outer }) ⟨hs.root, houter⟩ hb.close
      · cases h

theorem finish_cases {s : Nesting} {nodes : List Node} (h : s.finish = .ok nodes) :
    s.opened = [] ∧ nodes = s.root.reverse := by
  unfold finish at h
  split at h
  · rename_i hopened
    cases h
    exact ⟨hopened, rfl⟩
  · cases h

/-- When no block is left open, what was read can be written. -/
theorem finish_writable {s s' : Nesting} {ps : List Placed} {nodes : List Node}
    (hs : s.IsWritable) (hps : AreWritable ps) (hsteps : s.steps ps = .ok s')
    (hfinish : s'.finish = .ok nodes) : Template.isWritable nodes := by
  have hroot {s : Nesting} (hs : s.IsWritable) : ∀ node ∈ s.root.reverse, node.StandsAnywhere :=
    fun node hnode => hs.root node (List.mem_reverse.1 hnode)
  induction ps generalizing s with
  | nil =>
    cases hsteps
    obtain ⟨-, rfl⟩ := finish_cases hfinish
    exact isWritable_of_standsAnywhere (hroot hs)
  | cons p ps ih =>
    obtain ⟨hp, hlast, hps⟩ := hps
    obtain ⟨s₁, hstep, hsteps⟩ := ok_of_bind hsteps
    by_cases hbrace : p.segment.EndsWithBrace
    · -- A text that ends with a brace is the last segment, and stands outside of all blocks.
      obtain rfl := hlast hbrace
      cases hsteps
      unfold step at hstep
      generalize p.segment = segment at hstep hp hbrace
      cases segment with
      | text content =>
        cases hstep
        have htext : (Node.text content).isWritable := Node.isWritable_text.2 hp
        obtain ⟨hopened, rfl⟩ := finish_cases hfinish
        cases houter : s.opened with
        | nil =>
          have hnodes : (s.add (.text content)).root.reverse =
              s.root.reverse ++ [.text content] := by
            rw [add, houter, List.reverse_cons]
          rw [hnodes]
          exact isWritable_concat (hroot hs) htext
        | cons b outer =>
          rw [add, houter] at hopened
          cases hopened
      | _ => exact absurd hbrace id
    · exact ih (step_writable hs hp hbrace hstep) hps hsteps

end Nesting

/-- A tree that a source is parsed into can be written. -/
theorem isWritable_of_parseBody {source : List Char} {nodes : List Node}
    (h : parseBody source = .ok nodes) : isWritable nodes := by
  have hsegments := Segment.sequence_writable source
  unfold parseBody at h
  generalize Segment.sequence source = sequence at h hsegments
  obtain ⟨segments, stuck⟩ := sequence
  simp only at h hsegments
  split at h
  · obtain ⟨s, hsteps, hfinish⟩ := ok_of_bind h
    exact Nesting.finish_writable .empty hsegments hsteps hfinish
  · cases h

end BlogTheme.Template
