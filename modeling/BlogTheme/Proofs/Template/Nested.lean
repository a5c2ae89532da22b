import BlogTheme.Proofs.Template.Arguments
import BlogTheme.Proofs.Template.Texts

/-!
# Reading trees

What is written of nodes is read as segments that nest to these nodes (`Node.chars_repeats`). The
induction is on the tree, in front of any text that may follow: a text must not run into the
tag behind it, and two texts are kept apart by a comment.
-/

namespace BlogTheme.Template

open Recogniser

/-! ## Nesting -/

namespace OpenBlock

theorem foldl_add_body {b : OpenBlock} (h : b.inverse = none) (nodes : List Node) :
    nodes.foldl add b = { b with body := nodes.reverse ++ b.body } := by
  induction nodes generalizing b with
  | nil => rfl
  | cons node nodes ih =>
    have hadd : b.add node = { b with body := node :: b.body } := by
      rw [add, h]
    rw [List.foldl_cons, hadd]
    refine (ih (b := { b with body := node :: b.body }) h).trans ?_
    rw [List.reverse_cons, List.append_assoc]
    rfl

theorem foldl_add_inverse {b : OpenBlock} {inverse : List Node} (h : b.inverse = some inverse)
    (nodes : List Node) :
    nodes.foldl add b = { b with inverse := some (nodes.reverse ++ inverse) } := by
  induction nodes generalizing b inverse with
  | nil =>
    obtain ⟨i, body, _⟩ := b
    cases h
    rfl
  | cons node nodes ih =>
    have hadd : b.add node = { b with inverse := some (node :: inverse) } := by
      rw [add, h]
    rw [List.foldl_cons, hadd]
    refine (ih rfl).trans ?_
    rw [List.reverse_cons, List.append_assoc]
    rfl

/-- A block that is open holds its parts with the latest node first. -/
theorem close_reverse (i : Invocation) (body : List Node) (inverse : Option (List Node)) :
    close { invocation := i, body := body.reverse, inverse := inverse.map List.reverse } =
      .block i body inverse := by
  rw [close, List.reverse_reverse]
  cases inverse with
  | none => rfl
  | some nodes => simp only [Option.map_some, List.reverse_reverse]

end OpenBlock

namespace Nesting

theorem foldl_add_opened {s : Nesting} {b : OpenBlock} {outer : List OpenBlock}
    (h : s.opened = b :: outer) (nodes : List Node) :
    nodes.foldl add s = { s with opened := nodes.foldl OpenBlock.add b :: outer } := by
  induction nodes generalizing s b with
  | nil => rw [List.foldl_nil, List.foldl_nil, ← h]
  | cons node nodes ih =>
    have hadd : s.add node = { s with opened := b.add node :: outer } := by
      rw [add, h]
    rw [List.foldl_cons, hadd, ih rfl]
    rfl

theorem foldl_add_root {s : Nesting} (h : s.opened = []) (nodes : List Node) :
    nodes.foldl add s = { s with root := nodes.reverse ++ s.root } := by
  induction nodes generalizing s with
  | nil => rfl
  | cons node nodes ih =>
    have hadd : s.add node = { s with root := node :: s.root } := by
      rw [add, h]
    rw [List.foldl_cons, hadd]
    refine (ih (s := { s with root := node :: s.root }) h).trans ?_
    rw [List.reverse_cons, List.append_assoc]
    rfl

theorem steps_append (s : Nesting) (ps qs : List Placed) :
    s.steps (ps ++ qs) = s.steps ps >>= fun s => s.steps qs := by
  induction ps generalizing s with
  | nil => rfl
  | cons p ps ih =>
    rw [List.cons_append, steps, steps]
    cases s.step p with
    | error e => rfl
    | ok s' => exact ih s'

theorem steps_singleton (s : Nesting) (p : Placed) : s.steps [p] = s.step p := by
  rw [steps]
  cases s.step p <;> rfl

/-- The segments add nodes that are these up to their places. -/
def Adds (nodes : List Node) (ps : List Placed) : Prop :=
  ∃ added, unplacedAll added = unplacedAll nodes ∧
    ∀ s : Nesting, s.steps ps = .ok (added.foldl add s)

theorem unplacedAll_append (nodes nodes' : List Node) :
    unplacedAll (nodes ++ nodes') = unplacedAll nodes ++ unplacedAll nodes' := by
  induction nodes with
  | nil => rfl
  | cons node nodes ih => rw [List.cons_append, unplacedAll, unplacedAll, ih, List.cons_append]

namespace Adds

theorem nil : Adds [] [] :=
  ⟨[], rfl, fun _ => rfl⟩

theorem append {nodes nodes' : List Node} {ps qs : List Placed} (h : Adds nodes ps)
    (h' : Adds nodes' qs) : Adds (nodes ++ nodes') (ps ++ qs) := by
  obtain ⟨added, hadded, hsteps⟩ := h
  obtain ⟨added', hadded', hsteps'⟩ := h'
  refine ⟨added ++ added', ?_, fun s => ?_⟩
  · rw [unplacedAll_append, unplacedAll_append, hadded, hadded']
  · rw [steps_append, hsteps, List.foldl_append]
    exact hsteps' _

theorem comment {p : Placed} (h : p.segment = .comment) : Adds [] [p] :=
  ⟨[], rfl, fun s => by rw [steps, step, h]; rfl⟩

/-- A step that adds one node. -/
theorem of_steps {ps : List Placed} {node : Node} (added : Node)
    (hadded : added.unplaced = node.unplaced)
    (hsteps : ∀ s : Nesting, s.steps ps = .ok (s.add added)) : Adds [node] ps := by
  refine ⟨[added], ?_, hsteps⟩
  simp only [unplacedAll, hadded]

theorem text {p : Placed} {content : String} (h : p.segment = .text content) :
    Adds [.text content] [p] :=
  of_steps _ rfl fun s => by rw [steps, step, h]; rfl

/-- The tag of an expression adds it. -/
theorem expression {p : Placed} {i : Invocation} {escaped : Bool}
    (htag : Segment.IsTagOf i escaped p.segment) (hkeys : (i.hash.map Prod.fst).Nodup) :
    Adds [.expression i escaped] [p] := by
  refine of_steps (.expression { i with span := p.span } escaped) rfl fun s => ?_
  rw [steps, step]
  generalize p.segment = segment at htag
  cases htag with
  | expression _ hargs =>
    have hadd := Invocation.addArgs_spells (j := p.bare i.name) hargs hkeys
    simp only [hadd]
    rfl
  | @inclusion s' params args hname hparams hargs =>
    obtain ⟨name, _, hash, span⟩ := i
    cases hparams
    cases hname
    have hadd := Invocation.addArgs_spells
      (j := (p.bare includeName).addParam (.string s')) hargs hkeys
    simp only [Word.argument, bind, Except.bind, Argument.literalText, hadd]
    rfl
  | @layout x arg hname hargs harg =>
    have hspells : List.Forall₂ Spells i.arguments [arg] := by
      rw [hargs]
      exact .cons harg .nil
    obtain ⟨name, params, hash, span⟩ := i
    cases hname
    have hadd := Invocation.addArgs_spells (j := p.bare extendsName) hspells hkeys
    rw [Invocation.addArgs_singleton] at hadd
    simp only [bind, Except.bind, hadd]
    rfl

end Adds

/-! ## Blocks -/

/-- Within an open block the segments add this inverse, up to places. -/
def AddsInverse (inverse : Option (List Node)) (ps : List Placed) : Prop :=
  ∃ added, unplacedInverse added = unplacedInverse inverse ∧
    ∀ (s : Nesting) (b : OpenBlock) (outer : List OpenBlock), s.opened = b :: outer →
      b.inverse = none →
      s.steps ps = .ok { s with opened := { b with inverse := added.map List.reverse } :: outer }

namespace AddsInverse

theorem none : AddsInverse none [] := by
  refine ⟨_, rfl, fun s b outer hopened hb => ?_⟩
  rw [Option.map_none, ← hb, ← hopened]
  rfl

theorem some {p : Placed} {nodes : List Node} {ps : List Placed} (h : p.segment = .inverse)
    (hps : Adds nodes ps) : AddsInverse (some nodes) (p :: ps) := by
  obtain ⟨added, hadded, hsteps⟩ := hps
  refine ⟨Option.some added, congrArg Option.some hadded, fun s b outer hopened hb => ?_⟩
  let begun : OpenBlock := { b with inverse := Option.some [] }
  have hstep : s.step p = .ok { s with opened := begun :: outer } := by
    simp only [step, h, hopened, hb]
    rfl
  rw [steps, hstep]
  refine (hsteps _).trans ?_
  rw [foldl_add_opened (b := begun) rfl, OpenBlock.foldl_add_inverse rfl, List.append_nil]
  rfl

end AddsInverse

/-- The tag of a block opens it, and what follows is added to its body. -/
theorem steps_open {p : Placed} {i : Invocation} {name : String} {args : List Arg}
    {body : List Node} {ps : List Placed} (hopen : p.segment = .blockOpen name args)
    (hargs : (p.bare name).addArgs args = .ok i)
    (hbody : ∀ s : Nesting, s.steps ps = .ok (body.foldl add s)) (s : Nesting) :
    s.steps (p :: ps) = .ok { s with
      opened := { invocation := i, body := body.reverse, inverse := none } :: s.opened } := by
  let begun : OpenBlock := { invocation := i, body := [], inverse := none }
  have hstep : s.step p = .ok { s with opened := begun :: s.opened } := by
    rw [step, hopen]
    simp only [hargs]
    rfl
  rw [steps, hstep]
  refine (hbody _).trans ?_
  rw [foldl_add_opened (b := begun) rfl, OpenBlock.foldl_add_body rfl, List.append_nil]

theorem step_close {s : Nesting} {b : OpenBlock} {outer : List OpenBlock} {p : Placed}
    (h : p.segment = .blockClose b.invocation.name) (hopened : s.opened = b :: outer) :
    s.step p = .ok ({ s with opened := outer }.add b.close) := by
  simp only [step, h, hopened, if_true]

/-- The tags of a block and what stands between them add the block. -/
theorem Adds.block {i : Invocation} {body : List Node} {inverse : Option (List Node)}
    {args : List Arg} {p q : Placed} {bs vs : List Placed}
    (hopen : p.segment = .blockOpen i.name args) (hargs : List.Forall₂ Spells i.arguments args)
    (hkeys : (i.hash.map Prod.fst).Nodup) (hbody : Adds body bs)
    (hinverse : AddsInverse inverse vs) (hclose : q.segment = .blockClose i.name) :
    Adds [.block i body inverse] (p :: (bs ++ (vs ++ [q]))) := by
  obtain ⟨body', hbody', hbs⟩ := hbody
  obtain ⟨inverse', hinverse', hvs⟩ := hinverse
  let placed : Invocation := { i with span := p.span }
  have hplaced : (p.bare i.name).addArgs args = .ok placed :=
    Invocation.addArgs_spells hargs hkeys
  refine of_steps (.block placed body' inverse') ?_ fun s => ?_
  · simp only [Node.unplaced, hbody', hinverse']
    rfl
  · let closing : OpenBlock :=
      { invocation := placed, body := body'.reverse, inverse := inverse'.map List.reverse }
    have hstep : step { s with opened := closing :: s.opened } q = .ok (s.add closing.close) :=
      step_close hclose rfl
    rw [← List.cons_append, steps_append, steps_open hopen hplaced hbs]
    refine (steps_append _ vs [q]).trans ?_
    rw [hvs _ _ _ rfl rfl]
    refine (steps_singleton _ _).trans (hstep.trans ?_)
    rw [OpenBlock.close_reverse]

end Nesting

/-! ## Nodes in front of a text -/

namespace Segment

theorem AtTag.ne_nil {cs : List Char} (h : AtTag cs) : cs ≠ [] := by
  rintro rfl
  exact List.cons_ne_nil _ _ (List.prefix_nil.1 h)

theorem AtTag.append {cs : List Char} (h : AtTag cs) (rest : List Char) : AtTag (cs ++ rest) :=
  h.trans (List.prefix_append cs rest)

theorem atTag_separator : AtTag separator :=
  List.isPrefixOf_iff_prefix.1 rfl

theorem atTag_expressionChars (i : Invocation) (escaped : Bool) :
    AtTag (expressionChars i escaped) := by
  unfold expressionChars
  refine List.isPrefixOf_iff_prefix.1 ?_
  split
  · rfl
  · split
    · rfl
    · split <;> rfl

theorem one_repeats {cs rest : List Char} {P : Segment → Prop} (hcs : cs ≠ [])
    (h : Reads one cs rest P) :
    Repeats placed cs rest fun ps => ∃ p, ps = [p] ∧ P p.segment := by
  refine Repeats.single hcs fun pos => ?_
  obtain ⟨segment, hread, hsegment⟩ := h pos
  exact ⟨{ segment, start := pos, stop := pos.after cs }, by simp [placed, hread], hsegment⟩

end Segment

open Nesting
open Segment hiding inverse

/-- All but texts begin with a tag. -/
theorem Node.atTag_chars {node : Node} (h : node.isText = false) : AtTag node.chars := by
  cases node with
  | text content => cases h
  | expression i escaped => exact atTag_expressionChars i escaped
  | block i body inverse => exact List.isPrefixOf_iff_prefix.1 rfl

/-- The nodes can be written in front of `rest`: only in front of nothing a text may end with a
brace. -/
def writableBefore (rest : List Char) : List Node → Prop
  | [] => True
  | node :: nodes => node.isWritable ∧ (node.endsWithBrace → nodes = [] ∧ rest = []) ∧
    writableBefore rest nodes

theorem writableBefore_of_allWritable {nodes : List Node} (h : allWritable nodes)
    (rest : List Char) : writableBefore rest nodes := by
  induction nodes with
  | nil => trivial
  | cons node nodes ih =>
    simp only [allWritable, Bool.and_eq_true, Bool.not_eq_true'] at h
    obtain ⟨⟨hnode, hbrace⟩, hnodes⟩ := h
    refine ⟨hnode, fun hends => ?_, ih hnodes⟩
    rw [hbrace] at hends
    cases hends

theorem writableBefore_nil {nodes : List Node} (h : isWritable nodes) :
    writableBefore [] nodes := by
  induction nodes with
  | nil => trivial
  | cons node nodes ih =>
    obtain ⟨hall, hlast⟩ := isWritable_iff.1 h
    obtain ⟨hnode, hnodes⟩ := List.forall_mem_cons.1 hall
    cases nodes with
    | nil => exact ⟨hnode, fun _ => ⟨rfl, rfl⟩, trivial⟩
    | cons next nodes =>
      obtain ⟨hbrace, hlast⟩ := List.forall_mem_cons.1 hlast
      refine ⟨hnode, fun hends => ?_, ih (isWritable_iff.2 ⟨hnodes, hlast⟩)⟩
      rw [hbrace] at hends
      cases hends

/-- Behind a text nothing follows, or a tag or a comment. -/
theorem follows_text {node : Node} {nodes : List Node} {rest : List Char}
    (hbrace : node.endsWithBrace → nodes = [] ∧ rest = []) (hrest : rest = [] ∨ AtTag rest)
    (hnode : node.isText) :
    let after := separatorAfter node nodes ++ nodesChars nodes ++ rest
    after = [] ∨ AtTag after ∧ node.endsWithBrace = false := by
  intro after
  cases nodes with
  | nil =>
    have hafter : after = rest := by simp [after, separatorAfter, startsWithText, nodesChars]
    rw [hafter]
    obtain rfl | hrest := hrest
    · exact .inl rfl
    · refine .inr ⟨hrest, Bool.eq_false_iff.2 fun hends => ?_⟩
      exact hrest.ne_nil (hbrace hends).2
  | cons next nodes =>
    refine .inr ⟨?_, Bool.eq_false_iff.2 fun hends => List.cons_ne_nil _ _ (hbrace hends).1⟩
    by_cases hnext : next.isText
    · have hafter : after = separator ++ (nodesChars (next :: nodes) ++ rest) := by
        simp [after, separatorAfter, startsWithText, hnode, hnext]
      rw [hafter]
      exact atTag_separator.append _
    · have hafter : after =
          next.chars ++ (separatorAfter next nodes ++ nodesChars nodes ++ rest) := by
        simp [after, separatorAfter, startsWithText, hnext, nodesChars]
      rw [hafter]
      exact (Node.atTag_chars (Bool.eq_false_iff.2 hnext)).append _

mutual

/-- What is written of a node is read as the node. -/
theorem Node.chars_repeats : (node : Node) → node.isWritable → (rest : List Char) →
    (node.isText → rest = [] ∨ AtTag rest ∧ node.endsWithBrace = false) →
      Repeats placed node.chars rest (Adds [node])
  | .text content, hnode, rest, hrest => by
    obtain ⟨hne, hbraces⟩ := Node.isWritable_text.1 hnode
    have hend : rest = [] ∨ AtTag rest ∧ content.toList.getLast? ≠ some '\x7b' :=
      (hrest rfl).imp_right fun ⟨hrest, hbrace⟩ =>
        ⟨hrest, by simpa [Node.endsWithBrace] using hbrace⟩
    refine (one_repeats hne (text_reads hne hbraces hend)).mono ?_
    rintro _ ⟨p, rfl, hp⟩
    exact .text hp
  | .expression i escaped, hnode, rest, _ => by
    refine (one_repeats (atTag_expressionChars i escaped).ne_nil (expression_reads hnode)).mono ?_
    rintro _ ⟨p, rfl, hp⟩
    rw [Node.isWritable, Invocation.isWritableExpression, Bool.and_eq_true] at hnode
    exact .expression hp (Invocation.hasWritableArguments_iff.1 hnode.1).2.2
  | .block i body inverse, hnode, rest, _ => by
    simp only [Node.isWritable, Bool.and_eq_true] at hnode
    obtain ⟨⟨⟨hname, harguments⟩, hbody⟩, hinverse⟩ := hnode
    have htag {cs : List Char} (h : ['\x7b', '\x7b'].isPrefixOf cs) : AtTag cs :=
      List.isPrefixOf_iff_prefix.1 h
    have hclose : Repeats placed (closeChars i.name) rest fun ps =>
        ∃ q, ps = [q] ∧ q.segment = .blockClose i.name :=
      one_repeats (htag rfl).ne_nil (close_reads hname)
    have hinverse := inverseChars_repeats inverse hinverse (closeChars i.name ++ rest) (htag rfl)
    have hafter : AtTag (inverseChars inverse ++ closeChars i.name ++ rest) := by
      cases inverse <;> exact htag rfl
    have hbody := nodesChars_repeats body _ (writableBefore_of_allWritable hbody _) (.inr hafter)
    have hopen (after : List Char) : Repeats placed (openChars i) after fun ps =>
        ∃ p, ps = [p] ∧ ∃ args, p.segment = .blockOpen i.name args ∧
          List.Forall₂ Spells i.arguments args :=
      one_repeats (htag rfl).ne_nil (open_reads hname (argumentWritable_of_mem harguments))
    refine ((hopen _).append (hbody.append (hinverse.append hclose))).mono ?_
    rintro _ ⟨_, _, rfl, ⟨p, rfl, args, hp, hargs⟩, bs, _, rfl, hbs, vs, _, rfl, hvs, q, rfl, hq⟩
    exact .block hp hargs (Invocation.hasWritableArguments_iff.1 harguments).2.2 hbs hvs hq

/-- What is written of an inverse is read as the inverse. -/
theorem inverseChars_repeats : (inverse : Option (List Node)) → inverseWritable inverse →
    (rest : List Char) → AtTag rest →
      Repeats placed (inverseChars inverse) rest (AddsInverse inverse)
  | none, _, rest, _ => (Repeats.nil placed rest).mono fun _ h => h ▸ .none
  | some nodes, hnodes, rest, hrest => by
    have hbefore := writableBefore_of_allWritable hnodes rest
    have hnodes := nodesChars_repeats nodes rest hbefore (.inr hrest)
    have hinverse : Repeats placed inverseTagText.toList (nodesChars nodes ++ rest) fun ps =>
        ∃ p, ps = [p] ∧ p.segment = .inverse :=
      one_repeats (AtTag.ne_nil (List.isPrefixOf_iff_prefix.1 rfl)) inverse_reads
    refine (hinverse.append hnodes).mono ?_
    rintro _ ⟨_, qs, rfl, ⟨p, rfl, hp⟩, hqs⟩
    exact .some hp hqs

/-- What is written of nodes is read as the nodes. -/
theorem nodesChars_repeats : (nodes : List Node) → (rest : List Char) → writableBefore rest nodes →
    (rest = [] ∨ AtTag rest) → Repeats placed (nodesChars nodes) rest (Adds nodes)
  | [], rest, _, _ => (Repeats.nil placed rest).mono fun _ h => h ▸ .nil
  | node :: nodes, rest, ⟨hnode, hbrace, hnodes⟩, hrest => by
    have hfirst := node.chars_repeats hnode _ (follows_text hbrace hrest)
    have hothers := nodesChars_repeats nodes rest hnodes hrest
    have hseparator : Repeats placed (separatorAfter node nodes) (nodesChars nodes ++ rest)
        (Adds []) := by
      unfold separatorAfter
      split
      · refine (one_repeats atTag_separator.ne_nil separator_reads).mono ?_
        rintro _ ⟨p, rfl, hp⟩
        exact .comment hp
      · exact (Repeats.nil placed _).mono fun _ h => h ▸ .nil
    refine (hfirst.append (hseparator.append hothers)).mono ?_
    rintro _ ⟨ps, _, rfl, hps, cs, qs, rfl, hcs, hqs⟩
    exact hps.append (hcs.append hqs)

end

end BlogTheme.Template
