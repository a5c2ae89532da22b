import BlogTheme.Proofs.Template.Items

/-!
# Which segments nest

A sequence of segments nests if its numbers fit in 64 bits and its tags are balanced
(`Balanced`), that is if each inverse stands directly in a block that has none yet, each closing
tag closes the innermost block and bears its name, and no block stays open (`WellNested`). The
blocks that a sequence leaves open (`OpenAfter`) are those that `Nesting` holds
(`Nesting.openAfter`, `OpenAfter.reaches`), so that a segment is refused exactly if it offends
against them (`Nesting.step_error_iff`). What is reported is the first offence in the source, or
else the innermost block that is left open (`nest_error_iff`), and the error of a source that
can be split into segments tells where it is (`parse_of_isReadAs`).
-/

namespace BlogTheme.Template

open Text (minInt64 maxInt64)

/-! ## Balanced tags -/

/-- Every block is closed by its name and has at most one inverse, and everything between its
tags is balanced. -/
inductive Balanced : List Placed → Prop where
  | nil : Balanced []
  | leaf {p} : p.segment.isLeaf → Balanced [p]
  | append {ps qs} : Balanced ps → Balanced qs → Balanced (ps ++ qs)
  | block {name args} {o c : Placed} {body} : o.segment = .blockOpen name args → Balanced body →
    c.segment = .blockClose name → Balanced (o :: (body ++ [c]))
  | blockInverse {name args} {o e c : Placed} {body inverse} : o.segment = .blockOpen name args →
    Balanced body → e.segment = .inverse → Balanced inverse → c.segment = .blockClose name →
    Balanced (o :: (body ++ e :: (inverse ++ [c])))

/-- A block that is open: its name, the place of the tag that opens it, and whether its inverse
has begun. -/
structure Opening where
  name : String
  span : Span
  inverted : Bool
  deriving DecidableEq, Repr

/-- After these segments these blocks are open, innermost first: each was opened, and since then
nothing but balanced segments, and perhaps the tag of an inverse among them, followed before the
next was opened. -/
inductive OpenAfter : List Placed → List Opening → Prop where
  | balanced {ps} : Balanced ps → OpenAfter ps []
  | body {ps stack name args} {o : Placed} {body} : OpenAfter ps stack →
    o.segment = .blockOpen name args → Balanced body →
    OpenAfter (ps ++ o :: body) ({ name, span := o.span, inverted := false } :: stack)
  | inverse {ps stack name args} {o e : Placed} {body inverse} : OpenAfter ps stack →
    o.segment = .blockOpen name args → Balanced body → e.segment = .inverse → Balanced inverse →
    OpenAfter (ps ++ o :: (body ++ e :: inverse))
      ({ name, span := o.span, inverted := true } :: stack)

theorem OpenAfter.append {ps qs : List Placed} {stack : List Opening} (h : OpenAfter ps stack)
    (hqs : Balanced qs) : OpenAfter (ps ++ qs) stack := by
  cases h with
  | balanced hps => exact .balanced (hps.append hqs)
  | body hps hopen hbody =>
    rw [List.append_assoc]
    exact .body hps hopen (hbody.append hqs)
  | inverse hps hopen hbody htag hinverse =>
    rw [List.append_assoc, List.cons_append, List.append_assoc]
    exact .inverse hps hopen hbody htag (hinverse.append hqs)

/-- A segment does not fit behind segments that leave these blocks open. -/
inductive Offends : List Opening → Placed → FaultAt → Prop where
  | number {stack p f} : firstExcess? p.segment.words = some f → Offends stack p f
  | inverseOutside {p} : p.segment = .inverse → Offends [] p (p.start.fault .inverseOutside)
  | secondInverse {b outer p} : p.segment = .inverse → b.inverted →
    Offends (b :: outer) p (p.start.fault (.secondInverse b.name))
  | unexpectedClose {p name} : p.segment = .blockClose name →
    Offends [] p (p.start.fault (.unexpectedClose name))
  | mismatchedClose {b outer p name} : p.segment = .blockClose name → b.name ≠ name →
    Offends (b :: outer) p (p.start.fault (.mismatchedClose b.name name))

/-- Segments that neither begin an inverse nor close a block offend only by their numbers. -/
theorem offends_iff_excess {stack : List Opening} {p : Placed} {f : FaultAt}
    (hinverse : p.segment ≠ .inverse) (hclose : ∀ name, p.segment ≠ .blockClose name) :
    Offends stack p f ↔ firstExcess? p.segment.words = some f := by
  refine ⟨fun h => ?_, .number⟩
  cases h with
  | number hwords => exact hwords
  | inverseOutside h | secondInverse h => exact absurd h hinverse
  | unexpectedClose h | mismatchedClose h => exact absurd h (hclose _)

theorem offends_inverse_iff {stack : List Opening} {p : Placed} {f : FaultAt}
    (hp : p.segment = .inverse) : Offends stack p f ↔ match stack with
      | [] => f = p.start.fault .inverseOutside
      | b :: _ => b.inverted ∧ f = p.start.fault (.secondInverse b.name) := by
  constructor
  · intro h
    cases h with
    | number hwords =>
      rw [hp] at hwords
      cases hwords
    | inverseOutside => rfl
    | secondInverse _ hinverted => exact ⟨hinverted, rfl⟩
    | unexpectedClose h | mismatchedClose h =>
      rw [hp] at h
      cases h
  · cases stack with
    | nil =>
      rintro rfl
      exact .inverseOutside hp
    | cons b outer =>
      rintro ⟨hinverted, rfl⟩
      exact .secondInverse hp hinverted

theorem offends_close_iff {stack : List Opening} {p : Placed} {name : String} {f : FaultAt}
    (hp : p.segment = .blockClose name) : Offends stack p f ↔ match stack with
      | [] => f = p.start.fault (.unexpectedClose name)
      | b :: _ => b.name ≠ name ∧ f = p.start.fault (.mismatchedClose b.name name) := by
  constructor
  · intro h
    cases h with
    | number hwords =>
      rw [hp] at hwords
      cases hwords
    | inverseOutside h | secondInverse h =>
      rw [hp] at h
      cases h
    | unexpectedClose h =>
      rw [hp] at h
      cases h
      rfl
    | mismatchedClose h hname =>
      rw [hp] at h
      cases h
      exact ⟨hname, rfl⟩
  · cases stack with
    | nil =>
      rintro rfl
      exact .unexpectedClose hp
    | cons b outer =>
      rintro ⟨hname, rfl⟩
      exact .mismatchedClose hp hname

/-! ## One step -/

/-- What there is to know of an open block to go on. -/
def OpenBlock.opening (b : OpenBlock) : Opening :=
  { name := b.invocation.name, span := b.invocation.span, inverted := b.inverse.isSome }

namespace Nesting

/-- The blocks that are open, innermost first. -/
def openings (s : Nesting) : List Opening :=
  s.opened.map OpenBlock.opening

theorem openings_add (s : Nesting) (node : Node) : (s.add node).openings = s.openings := by
  cases hopened : s.opened with
  | nil => simp [add, openings, hopened]
  | cons b outer =>
    cases hinverse : b.inverse <;>
      simp [add, openings, hopened, OpenBlock.add, OpenBlock.opening, hinverse]

/-- A segment is refused exactly if it offends against the blocks that are open. -/
theorem step_error_iff {s : Nesting} {p : Placed} {f : FaultAt} :
    s.step p = .error f ↔ Offends s.openings p f := by
  cases hsegment : p.segment with
  | comment | text =>
    rw [offends_iff_excess (by simp [hsegment]) (by simp [hsegment]), step, hsegment]
    simp [Segment.words, firstExcess?]
  | expression | inclusion | layout =>
    obtain ⟨i, escaped, hitem⟩ : ∃ i escaped, p.item? = some (.expression i escaped) :=
      ⟨_, _, by rw [Placed.item?, hsegment]⟩
    rw [offends_iff_excess (by simp [hsegment]) (by simp [hsegment]), step_expression hitem]
    cases firstExcess? p.segment.words <;> simp
  | blockOpen name args =>
    have hitem : p.item? = some (.opening (p.invocation name [] args)) := by
      rw [Placed.item?, hsegment]
    rw [offends_iff_excess (by simp [hsegment]) (by simp [hsegment]), step_opening hitem]
    cases firstExcess? p.segment.words <;> simp
  | inverse =>
    rw [offends_inverse_iff hsegment]
    cases hopened : s.opened with
    | nil => simp [step, hsegment, hopened, openings, eq_comm]
    | cons b outer =>
      cases hinverse : b.inverse <;>
        simp [step, hsegment, hopened, openings, OpenBlock.opening, hinverse, eq_comm]
  | blockClose name =>
    rw [offends_close_iff hsegment]
    cases hopened : s.opened with
    | nil => simp [step, hsegment, hopened, openings, eq_comm]
    | cons b outer =>
      by_cases hname : b.invocation.name = name <;>
        simp [step, hsegment, hopened, openings, OpenBlock.opening, hname, eq_comm]

end Nesting

/-- What a segment that fits does to the blocks that are open. -/
inductive Alters (p : Placed) : List Opening → List Opening → Prop where
  | leaf {stack} : p.segment.isLeaf → Alters p stack stack
  | opening {stack name args} : p.segment = .blockOpen name args →
    Alters p stack ({ name, span := p.span, inverted := false } :: stack)
  | inverse {name span outer} : p.segment = .inverse →
    Alters p ({ name, span, inverted := false } :: outer)
      ({ name, span, inverted := true } :: outer)
  | closing {b outer} : p.segment = .blockClose b.name → Alters p (b :: outer) outer

theorem Alters.unique {p : Placed} {stack after after' : List Opening}
    (h : Alters p stack after) (h' : Alters p stack after') : after = after' := by
  cases h with
  | leaf hp => cases h' <;> simp_all [Segment.isLeaf]
  | opening hp => cases h' <;> simp_all [Segment.isLeaf]
  | inverse hp => cases h' <;> simp_all [Segment.isLeaf]
  | closing hp => cases h' <;> simp_all [Segment.isLeaf]

/-- A segment does not offend against blocks that it alters unless by its numbers. -/
theorem Alters.not_offends {p : Placed} {stack after : List Opening} (h : Alters p stack after)
    (hwords : firstExcess? p.segment.words = none) (f : FaultAt) : ¬ Offends stack p f := by
  intro hoffends
  cases h with
  | leaf hp => cases hoffends <;> simp_all [Segment.isLeaf]
  | opening hp => cases hoffends <;> simp_all
  | inverse hp => cases hoffends <;> simp_all
  | closing hp => cases hoffends <;> simp_all

theorem OpenAfter.alter {ps : List Placed} {p : Placed} {stack after : List Opening}
    (h : OpenAfter ps stack) (hp : Alters p stack after) : OpenAfter (ps ++ [p]) after := by
  cases hp with
  | leaf hp => exact h.append (.leaf hp)
  | opening hp => exact h.body hp .nil
  | inverse hp =>
    cases h with
    | body hps hopen hbody =>
      rw [List.append_assoc, List.cons_append]
      exact hps.inverse hopen hbody hp .nil
  | closing hp =>
    cases h with
    | body hps hopen hbody =>
      rw [List.append_assoc]
      exact hps.append (.block hopen hbody hp)
    | inverse hps hopen hbody htag hinverse =>
      rw [List.append_assoc, List.cons_append, List.append_assoc]
      exact hps.append (.blockInverse hopen hbody htag hinverse hp)

namespace Nesting

theorem Takes.alters {s s' : Nesting} {p : Placed} (h : Takes p s s') :
    Alters p s.openings s'.openings := by
  cases h with
  | comment hp => exact .leaf (hp ▸ rfl)
  | leaf node hp =>
    rw [openings_add]
    exact .leaf hp
  | opening hp => exact .opening hp
  | inverse hp hopened hinverse =>
    rw [openings, hopened, List.map_cons, OpenBlock.opening, hinverse]
    exact .inverse hp
  | closing hp hopened =>
    rw [openings_add, openings, hopened]
    exact .closing hp

/-- A segment whose numbers fit in 64 bits is taken if it fits. -/
theorem step_of_alters {s : Nesting} {p : Placed} {after : List Opening}
    (hwords : firstExcess? p.segment.words = none) (h : Alters p s.openings after) :
    ∃ s', s.step p = .ok s' ∧ s'.openings = after := by
  cases hstep : s.step p with
  | error f => exact absurd (step_error_iff.1 hstep) (h.not_offends hwords f)
  | ok s' => exact ⟨s', rfl, (step_ok hstep).2.alters.unique h⟩

/-- What was taken leaves those blocks open that are held. -/
theorem openAfter {s s' : Nesting} {ps qs : List Placed} (hs : OpenAfter ps s.openings)
    (h : s.steps qs = .ok s') : OpenAfter (ps ++ qs) s'.openings := by
  induction qs generalizing s ps with
  | nil =>
    cases h
    rwa [List.append_nil]
  | cons q qs ih =>
    obtain ⟨s₁, hstep, hsteps⟩ := ok_of_bind h
    rw [List.append_cons]
    exact ih (hs.alter (step_ok hstep).2.alters) hsteps

end Nesting

/-- All numbers of some segments fit in 64 bits. -/
def NumbersFit (ps : List Placed) : Prop :=
  ∀ p ∈ ps, ∀ w ∈ p.segment.words, w.excess? = none

theorem numbersFit_iff {ps : List Placed} :
    NumbersFit ps ↔ ∀ p ∈ ps, firstExcess? p.segment.words = none := by
  simp only [NumbersFit, firstExcess?, List.findSome?_eq_none_iff]

theorem numbersFit_append {ps qs : List Placed} :
    NumbersFit (ps ++ qs) ↔ NumbersFit ps ∧ NumbersFit qs :=
  List.forall_mem_append

theorem numbersFit_cons {p : Placed} {ps : List Placed} :
    NumbersFit (p :: ps) ↔ firstExcess? p.segment.words = none ∧ NumbersFit ps := by
  simp only [numbersFit_iff, List.forall_mem_cons]

namespace Nesting

/-- These segments are taken and leave these blocks open. -/
def Reaches (s : Nesting) (ps : List Placed) (stack : List Opening) : Prop :=
  ∃ s', s.steps ps = .ok s' ∧ s'.openings = stack

theorem Reaches.append {s : Nesting} {ps qs : List Placed} {stack after : List Opening}
    (h : s.Reaches ps stack) (hqs : ∀ s' : Nesting, s'.openings = stack → s'.Reaches qs after) :
    s.Reaches (ps ++ qs) after := by
  obtain ⟨s₁, hsteps, hstack⟩ := h
  obtain ⟨s₂, hsteps', hafter⟩ := hqs s₁ hstack
  refine ⟨s₂, ?_, hafter⟩
  rw [steps_append, hsteps]
  exact hsteps'

theorem reaches_singleton {s : Nesting} {p : Placed} {stack after : List Opening}
    (hs : s.openings = stack) (hwords : firstExcess? p.segment.words = none)
    (hp : Alters p stack after) : s.Reaches [p] after := by
  subst hs
  rw [Reaches, steps_singleton]
  exact step_of_alters hwords hp

theorem reaches_cons {s : Nesting} {p : Placed} {ps : List Placed}
    {stack between after : List Opening} (hs : s.openings = stack)
    (hwords : firstExcess? p.segment.words = none) (hp : Alters p stack between)
    (hps : ∀ s' : Nesting, s'.openings = between → s'.Reaches ps after) :
    s.Reaches (p :: ps) after :=
  (reaches_singleton hs hwords hp).append hps

end Nesting

open Nesting

/-- Balanced segments are taken, and leave open what was open before. -/
theorem Balanced.reaches {ps : List Placed} (h : Balanced ps) (hps : NumbersFit ps) (s : Nesting) :
    s.Reaches ps s.openings := by
  induction h generalizing s with
  | nil => exact ⟨s, rfl, rfl⟩
  | leaf hp => exact reaches_singleton rfl (numbersFit_cons.1 hps).1 (.leaf hp)
  | append _ _ ihps ihqs =>
    obtain ⟨hps, hqs⟩ := numbersFit_append.1 hps
    refine (ihps hps s).append fun s₁ hs₁ => ?_
    rw [← hs₁]
    exact ihqs hqs s₁
  | block hopen _ hclose ih =>
    obtain ⟨ho, hps⟩ := numbersFit_cons.1 hps
    obtain ⟨hbody, hps⟩ := numbersFit_append.1 hps
    obtain ⟨hc, -⟩ := numbersFit_cons.1 hps
    refine reaches_cons rfl ho (.opening hopen) fun s₁ hs₁ => ?_
    refine (ih hbody s₁).append fun s₂ hs₂ => ?_
    exact reaches_singleton (hs₂.trans hs₁) hc (.closing hclose)
  | blockInverse hopen _ htag _ hclose ihbody ihinverse =>
    obtain ⟨ho, hps⟩ := numbersFit_cons.1 hps
    obtain ⟨hbody, hps⟩ := numbersFit_append.1 hps
    obtain ⟨he, hps⟩ := numbersFit_cons.1 hps
    obtain ⟨hinverse, hps⟩ := numbersFit_append.1 hps
    obtain ⟨hc, -⟩ := numbersFit_cons.1 hps
    refine reaches_cons rfl ho (.opening hopen) fun s₁ hs₁ => ?_
    refine (ihbody hbody s₁).append fun s₂ hs₂ => ?_
    refine reaches_cons (hs₂.trans hs₁) he (.inverse htag) fun s₃ hs₃ => ?_
    refine (ihinverse hinverse s₃).append fun s₄ hs₄ => ?_
    exact reaches_singleton (hs₄.trans hs₃) hc (.closing hclose)

/-- Segments that leave blocks open are taken, and these blocks are held. -/
theorem OpenAfter.reaches {ps : List Placed} {stack : List Opening} (h : OpenAfter ps stack)
    (hps : NumbersFit ps) : Nesting.empty.Reaches ps stack := by
  induction h with
  | balanced h => exact h.reaches hps .empty
  | body _ hopen hbody ih =>
    obtain ⟨hps, hbody'⟩ := numbersFit_append.1 hps
    obtain ⟨ho, hbody'⟩ := numbersFit_cons.1 hbody'
    refine (ih hps).append fun s₁ hs₁ => ?_
    rw [← hs₁]
    refine reaches_cons rfl ho (.opening hopen) fun s₂ hs₂ => ?_
    rw [← hs₂]
    exact hbody.reaches hbody' s₂
  | inverse _ hopen hbody htag hinverse ih =>
    obtain ⟨hps, hbody'⟩ := numbersFit_append.1 hps
    obtain ⟨ho, hbody'⟩ := numbersFit_cons.1 hbody'
    obtain ⟨hbody', hinverse'⟩ := numbersFit_append.1 hbody'
    obtain ⟨he, hinverse'⟩ := numbersFit_cons.1 hinverse'
    refine (ih hps).append fun s₁ hs₁ => ?_
    rw [← hs₁]
    refine reaches_cons rfl ho (.opening hopen) fun s₂ hs₂ => ?_
    refine (hbody.reaches hbody' s₂).append fun s₃ hs₃ => ?_
    refine reaches_cons (hs₃.trans hs₂) he (.inverse htag) fun s₄ hs₄ => ?_
    rw [← hs₄]
    exact hinverse.reaches hinverse' s₄

/-- Of two lists of blocks that segments leave open, whose numbers fit in 64 bits, none differs
from the other. -/
theorem OpenAfter.unique {ps : List Placed} {stack stack' : List Opening}
    (h : OpenAfter ps stack) (h' : OpenAfter ps stack') (hps : NumbersFit ps) : stack = stack' := by
  obtain ⟨s, hsteps, rfl⟩ := h.reaches hps
  obtain ⟨s', hsteps', rfl⟩ := h'.reaches hps
  rw [hsteps] at hsteps'
  cases hsteps'
  rfl

/-! ## The first offence -/

/-- A segment offends behind these. -/
def OffendsBehind (before : List Placed) (p : Placed) (f : FaultAt) : Prop :=
  ∃ stack, OpenAfter before stack ∧ Offends stack p f

/-- No segment offends behind those before it. -/
def NoneOffends (ps : List Placed) : Prop :=
  ∀ before p after f, ps = before ++ p :: after → ¬ OffendsBehind before p f

/-- The fault of the first segment that offends, or if there is none, of the innermost block
that stays open, at the tag that opens it. -/
inductive FirstFault (ps : List Placed) : FaultAt → Prop where
  | offence {before p after f} : ps = before ++ p :: after → NoneOffends before →
    OffendsBehind before p f → FirstFault ps f
  | unclosed {b outer} : NoneOffends ps → OpenAfter ps (b :: outer) →
    FirstFault ps { fault := .unclosed b.name, line := b.span.line, column := b.span.column }

namespace Nesting

/-- Segments that are taken together are taken one after another. -/
theorem steps_before {s s' : Nesting} {before : List Placed} {p : Placed} {after : List Placed}
    (h : s.steps (before ++ p :: after) = .ok s') :
    ∃ s₁ s₂, s.steps before = .ok s₁ ∧ s₁.step p = .ok s₂ := by
  rw [steps_append] at h
  obtain ⟨s₁, hbefore, h⟩ := ok_of_bind h
  obtain ⟨s₂, hstep, -⟩ := ok_of_bind h
  exact ⟨s₁, s₂, hbefore, hstep⟩

/-- If segments are refused then one of them is. -/
theorem steps_error {s : Nesting} {ps : List Placed} {f : FaultAt} (h : s.steps ps = .error f) :
    ∃ before p after s', ps = before ++ p :: after ∧ s.steps before = .ok s' ∧
      s'.step p = .error f := by
  induction ps generalizing s with
  | nil => cases h
  | cons p ps ih =>
    cases hstep : s.step p with
    | error f' =>
      rw [steps, hstep] at h
      cases h
      exact ⟨[], p, ps, s, rfl, rfl, hstep⟩
    | ok s₁ =>
      rw [steps, hstep] at h
      obtain ⟨before, q, after, s', rfl, hbefore, hq⟩ := ih h
      refine ⟨p :: before, q, after, s', rfl, ?_, hq⟩
      rw [steps, hstep]
      exact hbefore

theorem numbersFit {s s' : Nesting} {ps : List Placed} (h : s.steps ps = .ok s') :
    NumbersFit ps := by
  induction ps generalizing s with
  | nil => exact nofun
  | cons p ps ih =>
    obtain ⟨s₁, hstep, hsteps⟩ := ok_of_bind h
    exact numbersFit_cons.2 ⟨(step_ok hstep).1, ih hsteps⟩

/-- The blocks that segments leave open, once they are taken, are those that are held. -/
theorem openAfter_iff {s : Nesting} {ps : List Placed} (h : Nesting.empty.steps ps = .ok s)
    {stack : List Opening} : OpenAfter ps stack ↔ stack = s.openings := by
  have hempty : OpenAfter [] Nesting.empty.openings := .balanced .nil
  have hopen : OpenAfter ps s.openings := openAfter hempty h
  refine ⟨fun hstack => hstack.unique hopen (numbersFit h), ?_⟩
  rintro rfl
  exact hopen

theorem offendsBehind_iff {s : Nesting} {ps : List Placed} (h : Nesting.empty.steps ps = .ok s)
    {p : Placed} {f : FaultAt} : OffendsBehind ps p f ↔ s.step p = .error f := by
  simp [OffendsBehind, openAfter_iff h, step_error_iff]

/-- Among segments that are taken none offends. -/
theorem noneOffends {s : Nesting} {ps : List Placed} (h : Nesting.empty.steps ps = .ok s) :
    NoneOffends ps := by
  rintro before p after f rfl hoffends
  obtain ⟨s₁, s₂, hbefore, hstep⟩ := steps_before h
  rw [offendsBehind_iff hbefore, hstep] at hoffends
  cases hoffends

/-- If segments are refused then for the first that offends. -/
theorem firstFault_of_steps {ps : List Placed} {f : FaultAt}
    (h : Nesting.empty.steps ps = .error f) :
    ∃ before p after, ps = before ++ p :: after ∧ NoneOffends before ∧
      OffendsBehind before p f := by
  obtain ⟨before, p, after, s, hps, hbefore, hstep⟩ := steps_error h
  exact ⟨before, p, after, hps, noneOffends hbefore, (offendsBehind_iff hbefore).2 hstep⟩

/-- Segments of which none offends are taken. -/
theorem steps_of_noneOffends {ps : List Placed} (h : NoneOffends ps) :
    ∃ s, Nesting.empty.steps ps = .ok s := by
  cases hsteps : Nesting.empty.steps ps with
  | error f =>
    obtain ⟨before, p, after, hps, -, hoffends⟩ := firstFault_of_steps hsteps
    exact absurd hoffends (h before p after f hps)
  | ok s => exact ⟨s, rfl⟩

/-- Segments are refused exactly for the first that offends. -/
theorem steps_error_iff {ps : List Placed} {f : FaultAt} :
    Nesting.empty.steps ps = .error f ↔
      ∃ before p after, ps = before ++ p :: after ∧ NoneOffends before ∧
        OffendsBehind before p f := by
  refine ⟨firstFault_of_steps, ?_⟩
  rintro ⟨before, p, after, rfl, hbefore, hp⟩
  obtain ⟨s, hs⟩ := steps_of_noneOffends hbefore
  have hstep := (offendsBehind_iff hs).1 hp
  rw [steps_append, hs]
  show s.steps (p :: after) = .error f
  rw [steps, hstep]
  rfl

theorem finish_error_iff {s : Nesting} {f : FaultAt} :
    s.finish = .error f ↔ ∃ b outer, s.openings = b :: outer ∧
      f = { fault := .unclosed b.name, line := b.span.line, column := b.span.column } := by
  cases hopened : s.opened with
  | nil => simp [finish, openings, hopened]
  | cons b outer => simp [finish, openings, hopened, OpenBlock.opening, eq_comm]

theorem nest_of_steps {ps : List Placed} {s : Nesting} (h : Nesting.empty.steps ps = .ok s) :
    nest ps = s.finish := by
  rw [nest, h]
  rfl

end Nesting

/-- What is reported is the first fault. -/
theorem nest_error_iff {ps : List Placed} {f : FaultAt} : nest ps = .error f ↔ FirstFault ps f := by
  constructor
  · intro h
    cases hsteps : Nesting.empty.steps ps with
    | error f' =>
      rw [nest, hsteps] at h
      cases h
      obtain ⟨before, p, after, hps, hbefore, hp⟩ := steps_error_iff.1 hsteps
      exact .offence hps hbefore hp
    | ok s =>
      rw [nest_of_steps hsteps] at h
      obtain ⟨b, outer, hopen, rfl⟩ := finish_error_iff.1 h
      exact .unclosed (noneOffends hsteps) ((openAfter_iff hsteps).2 hopen.symm)
  · intro h
    cases h with
    | offence hps hbefore hp =>
      rw [nest, steps_error_iff.2 ⟨_, _, _, hps, hbefore, hp⟩]
      rfl
    | unclosed hps hopen =>
      obtain ⟨s, hsteps⟩ := steps_of_noneOffends hps
      rw [nest_of_steps hsteps]
      exact finish_error_iff.2 ⟨_, _, ((openAfter_iff hsteps).1 hopen).symm, rfl⟩

/-! ## Well-nested segments -/

/-- The numbers of some segments fit in 64 bits, each inverse stands directly in an open block
that has none yet, each closing tag closes the innermost open block and bears its name, and no
block stays open. -/
structure WellNested (ps : List Placed) : Prop where
  numbers : NumbersFit ps
  inverses : ∀ before p after, ps = before ++ p :: after → p.segment = .inverse →
    ∃ b outer, OpenAfter before (b :: outer) ∧ b.inverted = false
  closings : ∀ before p after name, ps = before ++ p :: after → p.segment = .blockClose name →
    ∃ b outer, OpenAfter before (b :: outer) ∧ b.name = name
  closed : ∀ stack, OpenAfter ps stack → stack = []

theorem wellNested_of_nest {ps : List Placed} {nodes : List Node} (h : nest ps = .ok nodes) :
    WellNested ps := by
  obtain ⟨s, hsteps, hfinish⟩ := ok_of_bind h
  obtain ⟨hopened, -⟩ := finish_cases hfinish
  have htaken (before : List Placed) (p : Placed) (after : List Placed)
      (hps : ps = before ++ p :: after) :
      ∃ stack stack', OpenAfter before stack ∧ Alters p stack stack' := by
    subst hps
    obtain ⟨s₁, s₂, hbefore, hstep⟩ := steps_before hsteps
    exact ⟨_, _, (openAfter_iff hbefore).2 rfl, (step_ok hstep).2.alters⟩
  constructor
  case numbers => exact numbersFit hsteps
  case inverses =>
    intro before p after hps hp
    obtain ⟨_, _, hopen, halters⟩ := htaken before p after hps
    cases halters with
    | inverse => exact ⟨_, _, hopen, rfl⟩
    | leaf h => simp [hp, Segment.isLeaf] at h
    | opening h | closing h => simp [hp] at h
  case closings =>
    intro before p after name hps hp
    obtain ⟨_, _, hopen, halters⟩ := htaken before p after hps
    cases halters with
    | closing h =>
      rw [hp] at h
      cases h
      exact ⟨_, _, hopen, rfl⟩
    | leaf h => simp [hp, Segment.isLeaf] at h
    | opening h | inverse h => simp [hp] at h
  case closed =>
    intro stack hstack
    rw [(openAfter_iff hsteps).1 hstack, openings, hopened, List.map_nil]

/-- Well-nested segments have no fault. -/
theorem WellNested.not_firstFault {ps : List Placed} (h : WellNested ps) (f : FaultAt) :
    ¬ FirstFault ps f := by
  intro hfault
  cases hfault with
  | unclosed _ hopen => cases h.closed _ hopen
  | @offence before p after _ hps _ hp =>
    obtain ⟨stack, hopen, hoffends⟩ := hp
    have hnumbers := h.numbers
    rw [hps, numbersFit_append, numbersFit_cons] at hnumbers
    obtain ⟨hbefore, hwords, -⟩ := hnumbers
    cases hoffends with
    | number hexcess =>
      rw [hwords] at hexcess
      cases hexcess
    | inverseOutside hsegment =>
      obtain ⟨b, outer, hopen', -⟩ := h.inverses before p after hps hsegment
      cases hopen.unique hopen' hbefore
    | secondInverse hsegment hinverted =>
      obtain ⟨b, outer, hopen', hnone⟩ := h.inverses before p after hps hsegment
      cases hopen.unique hopen' hbefore
      rw [hnone] at hinverted
      cases hinverted
    | unexpectedClose hsegment =>
      obtain ⟨b, outer, hopen', -⟩ := h.closings before p after _ hps hsegment
      cases hopen.unique hopen' hbefore
    | mismatchedClose hsegment hname =>
      obtain ⟨b, outer, hopen', heq⟩ := h.closings before p after _ hps hsegment
      cases hopen.unique hopen' hbefore
      exact hname heq

theorem WellNested.nest {ps : List Placed} (h : WellNested ps) :
    ∃ nodes, Template.nest ps = .ok nodes := by
  cases hnest : Template.nest ps with
  | error f => exact absurd (nest_error_iff.1 hnest) (h.not_firstFault f)
  | ok nodes => exact ⟨nodes, rfl⟩

/-- Well-nested segments are exactly the balanced ones whose numbers fit in 64 bits. -/
theorem wellNested_iff_balanced {ps : List Placed} :
    WellNested ps ↔ NumbersFit ps ∧ Balanced ps := by
  constructor
  · intro h
    obtain ⟨nodes, hnest⟩ := h.nest
    obtain ⟨s, hsteps, hfinish⟩ := ok_of_bind hnest
    have hopen : OpenAfter ps [] := by
      rw [openAfter_iff hsteps, openings, (finish_cases hfinish).1, List.map_nil]
    cases hopen with
    | balanced hps => exact ⟨h.numbers, hps⟩
  · rintro ⟨hnumbers, hps⟩
    obtain ⟨s, hsteps, hopenings⟩ := hps.reaches hnumbers .empty
    have hfinish : s.finish = .ok s.root.reverse := by
      rw [finish, List.map_eq_nil_iff.1 hopenings]
    exact wellNested_of_nest ((nest_of_steps hsteps).trans hfinish)

/-! ## Sources -/

/-- The whole source is read as these segments. -/
def IsReadAs (source : String) (ps : List Placed) : Prop :=
  ∃ stuck, Segment.sequence source.toList = (ps, stuck) ∧ stuck.rest = []

/-- A source that is read as segments has the tree that they make, or the error of their fault. -/
theorem parse_of_isReadAs {source : String} {ps : List Placed} (h : IsReadAs source ps)
    (name : String) :
    (∀ t, parse source name = .ok t ↔ t.name = name ∧ nest ps = .ok t.body) ∧
      ∀ e, parse source name = .error e ↔ ∃ f, nest ps = .error f ∧ e = f.error source name := by
  obtain ⟨stuck, hsequence, hrest⟩ := h
  have hbody : parseBody source.toList = nest ps := by
    rw [parseBody, hsequence]
    show (if stuck.rest.isEmpty then nest ps else _) = nest ps
    rw [hrest]
    rfl
  rw [parse, hbody]
  cases nest ps with
  | ok body =>
    refine ⟨fun t => ⟨?_, ?_⟩, by simp⟩
    · rintro ⟨⟩
      exact ⟨rfl, rfl⟩
    · rintro ⟨rfl, ⟨⟩⟩
      rfl
  | error f => simp [eq_comm]

theorem AreWritable.isWritable {ps : List Placed} (h : AreWritable ps) {p : Placed}
    (hp : p ∈ ps) : p.segment.IsWritable := by
  induction ps with
  | nil => cases hp
  | cons q ps ih =>
    obtain ⟨hq, -, hps⟩ := h
    cases hp with
    | head => exact hq
    | tail _ hp => exact ih hps hp

/-- The numbers of a segment that can be written are numerals. -/
theorem Segment.IsWritable.isNumeral {s : Segment} (h : s.IsWritable) {literal : String}
    {place : Position} (hw : .number literal place ∈ s.words) : isNumeral literal.toList := by
  have hof (args : List Arg) (hargs : ∀ a ∈ args, a.IsWritable)
      (hw : .number literal place ∈ args.map Arg.word) : Template.isNumeral literal.toList := by
    obtain ⟨a, ha, hword⟩ := List.mem_map.1 hw
    have hnumeral := (hargs a ha).2
    rwa [hword] at hnumeral
  cases s with
  | expression name args escaped => exact hof args h.2.1 hw
  | blockOpen name args => exact hof args h.2 hw
  | inclusion word args =>
    obtain ⟨⟨_, hname, -⟩, hargs⟩ := h
    obtain rfl | hw := List.mem_cons.1 hw
    · obtain hname | hname := hname <;> cases hname
    · exact hof args hargs hw
  | layout arg => exact hof [arg] (List.forall_mem_singleton.2 h) hw
  | comment | text | inverse | blockClose => cases hw

/-- The numbers of a source fit in 64 bits if each lies between the least integer of 64 bits and
the greatest. -/
theorem numbersFit_of_isReadAs {source : String} {ps : List Placed} (h : IsReadAs source ps) :
    NumbersFit ps ↔ ∀ p ∈ ps, ∀ literal place, .number literal place ∈ p.segment.words →
      minInt64 ≤ numeralValue literal.toList ∧ numeralValue literal.toList ≤ maxInt64 := by
  obtain ⟨stuck, hsequence, -⟩ := h
  have hwritable := Segment.sequence_writable source.toList
  rw [hsequence] at hwritable
  have hnumber (p : Placed) (hp : p ∈ ps) (literal : String) (place : Position)
      (hw : .number literal place ∈ p.segment.words) : (Word.number literal place).excess? = none ↔
        minInt64 ≤ numeralValue literal.toList ∧ numeralValue literal.toList ≤ maxInt64 :=
    Word.excess?_number ((hwritable.isWritable hp).isNumeral hw)
  refine ⟨fun h p hp literal place hw => (hnumber p hp literal place hw).1 (h p hp _ hw),
    fun h p hp w hw => ?_⟩
  cases w with
  | number literal place => exact (hnumber p hp literal place hw).2 (h p hp literal place hw)
  | string | boolean | path => rfl

/-- Segments nest exactly if they are well nested, which is that they are balanced and their
numbers fit in 64 bits. Then the tree says what they say, in their order. Otherwise the first
fault is reported. Where a source is read as these segments, its numbers fit if they lie between
the bounds, it has the tree that the segments make, and its error has the place of the fault. -/
theorem nest_wellNested (ps : List Placed) :
    ((∃ nodes, nest ps = .ok nodes) ↔ WellNested ps) ∧
      (WellNested ps ↔ NumbersFit ps ∧ Balanced ps) ∧
      (∀ nodes, nest ps = .ok nodes → allItems nodes = ps.filterMap Placed.item?) ∧
      (∀ f, nest ps = .error f ↔ FirstFault ps f) ∧
      ∀ source, IsReadAs source ps →
        (NumbersFit ps ↔ ∀ p ∈ ps, ∀ literal place, .number literal place ∈ p.segment.words →
          minInt64 ≤ numeralValue literal.toList ∧ numeralValue literal.toList ≤ maxInt64) ∧
        ∀ name, (∀ t, parse source name = .ok t ↔ t.name = name ∧ nest ps = .ok t.body) ∧
          ∀ e, parse source name = .error e ↔ ∃ f, FirstFault ps f ∧ e = f.error source name := by
  refine ⟨⟨fun ⟨_, h⟩ => wellNested_of_nest h, WellNested.nest⟩, wellNested_iff_balanced,
    fun _ => allItems_nest, fun _ => nest_error_iff, fun source hread => ?_⟩
  refine ⟨numbersFit_of_isReadAs hread, fun name => ?_⟩
  simpa only [nest_error_iff] using parse_of_isReadAs hread name

end BlogTheme.Template
