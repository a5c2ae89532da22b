import BlogTheme.Proofs.Render.Composition
import BlogTheme.Proofs.Render.Resemblance

/-!
# Partials in place of their inclusions

A partial is rendered in the scopes of the place at which it is included, with the text so
far, the slots and the escaping of that place, and what it writes is not escaped again. So its
nodes can stand where it is included (`Page.render_inline`). Only diagnostics tell the
difference, as they name the template that holds the node.

The proof compares the effects of nodes at a place with those of nodes in which some
expressions were replaced, at a place that resembles it (`Page.nodesEffects_follows`). With
no replacement this says that partials do the same wherever they are included and whatever
levels are left, as long as these are enough (`Page.partialEffects_follows`).
-/

namespace BlogTheme

open Template (Invocation Node)

namespace Template

mutual

/-- A node in which other nodes stand in place of some expressions, also in bodies and
inverses. -/
def Node.replace (nodes? : Invocation → Option (List Node)) : Node → List Node
  | .text content => [.text content]
  | .expression i escaped => (nodes? i).getD [.expression i escaped]
  | .block i body inverse => [.block i (replaceAll nodes? body) (replaceInverse nodes? inverse)]

@[inherit_doc Node.replace]
def replaceInverse (nodes? : Invocation → Option (List Node)) :
    Option (List Node) → Option (List Node)
  | none => none
  | some nodes => some (replaceAll nodes? nodes)

@[inherit_doc Node.replace]
def replaceAll (nodes? : Invocation → Option (List Node)) : List Node → List Node
  | [] => []
  | node :: nodes => node.replace nodes? ++ replaceAll nodes? nodes

end

mutual

theorem Node.replace_none : (node : Node) → node.replace (fun _ => none) = [node]
  | .text content => by rw [Node.replace]
  | .expression i escaped => by rw [Node.replace, Option.getD_none]
  | .block i body inverse => by
    rw [Node.replace, replaceAll_none body, replaceInverse_none inverse]

theorem replaceInverse_none : (inverse : Option (List Node)) →
    replaceInverse (fun _ => none) inverse = inverse
  | none => by rw [replaceInverse]
  | some nodes => by rw [replaceInverse, replaceAll_none nodes]

theorem replaceAll_none : (nodes : List Node) → replaceAll (fun _ => none) nodes = nodes
  | [] => by rw [replaceAll]
  | node :: nodes => by
    rw [replaceAll, Node.replace_none node, replaceAll_none nodes, List.singleton_append]

end

end Template

/-- The nodes of the partial that an expression includes, if it names one of the theme. -/
def Theme.included? (theme : Theme) (i : Invocation) : Option (List Node) :=
  match i.params with
  | [] => none
  | a :: _ =>
    if i.name = Template.includeName ∧ a.literalText ≠ "" then
      (theme.findPartial? a.literalText).map Template.body
    else none

/-- Nodes with the nodes of partials in place of their inclusions. The inclusions that stand in
these partials are left as they are. -/
def Theme.inline (theme : Theme) (nodes : List Node) : List Node :=
  Template.replaceAll theme.included? nodes

/-- The diagnostics are the same but for the template. -/
def Diagnostic.Resembles (d d' : Diagnostic) : Prop :=
  { d with template := d'.template } = d'

/-- The effects are the same but for the templates of diagnostics. -/
structure Effects.Resembles (e e' : Effects) : Prop where
  html : e.html = e'.html
  diagnostics : List.Forall₂ Diagnostic.Resembles e.diagnostics e'.diagnostics
  kept : e.kept = e'.kept

namespace Effects.Resembles

theorem ofHtml (s : String) : (Effects.ofHtml s).Resembles (.ofHtml s) :=
  ⟨rfl, .nil, rfl⟩

theorem empty : Effects.empty.Resembles .empty :=
  ofHtml ""

theorem append {a a' b b' : Effects} (ha : a.Resembles a') (hb : b.Resembles b') :
    (a ++ b).Resembles (a' ++ b') where
  html := by simp [ha.html, hb.html]
  diagnostics := List.rel_append ha.diagnostics hb.diagnostics
  kept := by simp [ha.kept, hb.kept]

theorem keep {e e' : Effects} (h : e.Resembles e') (name : String) :
    (e.keep name).Resembles (e'.keep name) where
  html := rfl
  diagnostics := h.diagnostics
  kept := by simp [Effects.keep, h.html, h.kept]

theorem concat {es es' : List Effects} (h : List.Forall₂ Effects.Resembles es es') :
    (Effects.concat es).Resembles (Effects.concat es') := by
  induction h with
  | nil => exact empty
  | cons he _ ih => exact he.append ih

end Effects.Resembles

namespace Page

variable {page : Page} {f f' : Frame}

/-! ## Nodes at places that resemble one another -/

theorem faultEffects_follows (i : Invocation) (e : ThemeError) :
    Follows Effects.Resembles (faultEffects f i e) (faultEffects f' i e) := by
  unfold faultEffects ThemeError.diagnostic?
  cases hkind : e.diagnosticKind? with
  | none => exact .abort hkind _
  | some kind => exact .ok ⟨rfl, .cons rfl .nil, rfl⟩

theorem invocationEffects_follows (i : Invocation) {out out' : Plan → Except ThemeError Effects}
    {plan? plan?' : Except ThemeError Plan} (hplan : Follows Plan.Resembles plan? plan?')
    (hout : ∀ plan plan', plan.Resembles plan' →
      Follows Effects.Resembles (out plan) (out' plan')) :
    Follows Effects.Resembles (invocationEffects f i out plan?)
      (invocationEffects f' i out' plan?') := by
  cases plan? with
  | ok plan =>
    obtain ⟨plan', rfl, hplan⟩ := hplan
    exact hout plan plan' hplan
  | error e =>
    obtain hfatal | rfl := hplan
    · have habort : faultEffects f i e = .error e := by
        rw [faultEffects, ThemeError.diagnostic?, hfatal]
        rfl
      rw [invocationEffects, habort]
      exact .abort hfatal _
    · exact faultEffects_follows i e

theorem carryOut_follows (hf : f.Resembles f') {escaped : Bool}
    {body body' : Frame → Except ThemeError Effects} {inverse inverse' : Except ThemeError Effects}
    {partials partials' : Template → Except ThemeError Effects}
    (hbody : ∀ g g', g.Resembles g' → Follows Effects.Resembles (body g) (body' g'))
    (hinverse : Follows Effects.Resembles inverse inverse')
    (hpartials : ∀ t, Follows Effects.Resembles (partials t) (partials' t)) {plan plan' : Plan}
    (hplan : plan.Resembles plan') :
    Follows Effects.Resembles (plan.carryOut f escaped body inverse partials)
      (plan'.carryOut f' escaped body' inverse' partials') := by
  cases hplan with
  | write v =>
    simp only [Plan.carryOut, hf.write_eq]
    exact .ok (.ofHtml _)
  | body hplaces => exact (Follows.mapM hplaces hbody).bind fun _ _ h => .ok (.concat h)
  | inverse => exact hinverse
  | keep name => exact (hbody f f' hf).bind fun _ _ h => .ok (h.keep name)
  | insert t => exact hpartials t

/-- Partials do the same at places that resemble one another. -/
def PartialEffects.Follow (partials partials' : PartialEffects) : Prop :=
  ∀ f f' t, f.Resembles f' → Follows Effects.Resembles (partials f t) (partials' f' t)

/-- Nodes that stand in place of an expression do the same as the expression. -/
def Replaces (page : Page) (partials partials' : PartialEffects)
    (nodes? : Invocation → Option (List Node)) : Prop :=
  ∀ i nodes, nodes? i = some nodes → ∀ f f' escaped, f.Resembles f' →
    Follows Effects.Resembles (page.nodeEffects partials f (.expression i escaped))
      (page.nodesEffects partials' f' nodes)

variable {partials partials' : PartialEffects} {nodes? : Invocation → Option (List Node)}

mutual

theorem nodeEffects_follows (hp : partials.Follow partials')
    (hr : page.Replaces partials partials' nodes?) {f f' : Frame} (hf : f.Resembles f') :
    (node : Node) → Follows Effects.Resembles (page.nodeEffects partials f node)
      (page.nodesEffects partials' f' (node.replace nodes?))
  | .text content => by
    rw [Node.replace, nodesEffects_singleton, nodeEffects, nodeEffects]
    exact .ok (.ofHtml content)
  | .expression i escaped => by
    rw [Node.replace]
    cases hnodes : nodes? i with
    | some nodes => exact hr i nodes hnodes f f' escaped hf
    | none =>
      rw [Option.getD_none, nodesEffects_singleton, nodeEffects, nodeEffects]
      have hnone : Follows Effects.Resembles (.ok .empty) (.ok .empty) := .ok .empty
      refine invocationEffects_follows i (page.planExpression_follows hf i) fun plan plan' h => ?_
      exact carryOut_follows hf (fun _ _ _ => hnone) hnone (fun t => hp f f' t hf) h
  | .block i body inverse => by
    have hinside := hf.enterBlock
    have hinverse := inverseEffects_follows hp hr hinside inverse
    rw [Node.replace, nodesEffects_singleton, nodeEffects, nodeEffects]
    refine invocationEffects_follows i (page.planBlock_follows hinside i) fun plan plan' h => ?_
    refine carryOut_follows hinside (fun g g' hg => ?_) hinverse (fun t => hp _ _ t hinside) h
    exact nodesEffects_follows hp hr hg body

theorem inverseEffects_follows (hp : partials.Follow partials')
    (hr : page.Replaces partials partials' nodes?) {f f' : Frame} (hf : f.Resembles f') :
    (inverse : Option (List Node)) →
    Follows Effects.Resembles (page.inverseEffects partials f inverse)
      (page.inverseEffects partials' f' (Template.replaceInverse nodes? inverse))
  | none => by
    rw [Template.replaceInverse, inverseEffects, inverseEffects]
    exact .ok .empty
  | some nodes => by
    rw [Template.replaceInverse, inverseEffects, inverseEffects]
    exact nodesEffects_follows hp hr hf nodes

/-- Nodes in which expressions were replaced do the same as before. -/
theorem nodesEffects_follows (hp : partials.Follow partials')
    (hr : page.Replaces partials partials' nodes?) {f f' : Frame} (hf : f.Resembles f') :
    (nodes : List Node) → Follows Effects.Resembles (page.nodesEffects partials f nodes)
      (page.nodesEffects partials' f' (Template.replaceAll nodes? nodes))
  | [] => by
    rw [Template.replaceAll, nodesEffects, nodesEffects]
    exact .ok .empty
  | node :: nodes => by
    have hnode := nodeEffects_follows hp hr hf node
    have hnodes := nodesEffects_follows hp hr hf nodes
    rw [Template.replaceAll, nodesEffects_append, nodesEffects]
    exact hnode.bind fun _ _ h => hnodes.bind fun _ _ h' => .ok (h.append h')

end

/-- Nodes do the same at places that resemble one another. -/
theorem nodesEffects_follows_self (hp : partials.Follow partials') {f f' : Frame}
    (hf : f.Resembles f') (nodes : List Node) :
    Follows Effects.Resembles (page.nodesEffects partials f nodes)
      (page.nodesEffects partials' f' nodes) := by
  have hnone : page.Replaces partials partials' fun _ => none := fun _ _ h => nomatch h
  have hnodes := nodesEffects_follows hp hnone hf nodes
  rw [Template.replaceAll_none] at hnodes
  exact hnodes

/-! ## Partials -/

/-- Partials do the same with more levels left. -/
theorem partialEffects_follows (page : Page) {levels levels' : Nat} (hlevels : levels ≤ levels') :
    PartialEffects.Follow (page.partialEffects levels) (page.partialEffects levels') := by
  induction levels generalizing levels' with
  | zero => exact fun f f' t _ => .abort rfl _
  | succ levels ih =>
    obtain _ | levels' := levels'
    · cases hlevels
    · intro f f' t hf
      exact nodesEffects_follows_self (ih (Nat.le_of_succ_le_succ hlevels))
        (hf.enterPartial t.name t.name) t.body

/-- An expression that includes a partial does what the partial does. -/
theorem nodeEffects_included (hhelpers : page.helpers = .builtin) (partials : PartialEffects)
    (f : Frame) {i : Invocation} {escaped : Bool} {nodes : List Node}
    (h : page.theme.included? i = some nodes) :
    ∃ t : Template, t.body = nodes ∧
      page.nodeEffects partials f (.expression i escaped) = partials f t := by
  unfold Theme.included? at h
  cases hparams : i.params with
  | nil =>
    rw [hparams] at h
    cases h
  | cons a params =>
    simp only [hparams] at h
    split at h
    · rename_i hname
      obtain ⟨hinclude, hne⟩ := hname
      obtain ⟨t, ht, rfl⟩ := Option.map_eq_some_iff.1 h
      refine ⟨t, rfl, ?_⟩
      have hfind : page.helpers.find? i.name = some (.builder .partialOf) := by
        rw [hhelpers, hinclude]
        rfl
      have hargument : (page.callAt f i).nameArgument = .ok a.literalText := by
        simp [Call.nameArgument, callAt, hparams, givenAt, hne]
        rfl
      rw [nodeEffects, planExpression, hfind]
      simp only [planBuilder, hargument]
      show invocationEffects f i _ (page.planPartial a.literalText) = _
      rw [planPartial, ht]
      rfl
    · cases h

/-- The nodes of a partial do in its place what its inclusion does. -/
theorem replaces_included (hhelpers : page.helpers = .builtin) (levels : Nat) :
    page.Replaces (page.partialEffects levels) (page.partialEffects levels)
      page.theme.included? := by
  intro i nodes hnodes f f' escaped hf
  obtain ⟨t, rfl, heffects⟩ := nodeEffects_included hhelpers (page.partialEffects levels) f hnodes
  rw [heffects]
  cases levels with
  | zero => exact .abort rfl _
  | succ levels =>
    -- In the partial there is one level less, and the place is not that of the inclusion.
    exact nodesEffects_follows_self (page.partialEffects_follows (Nat.le_succ levels))
      (hf.inlined t.name) t.body

/-- Where nodes can be rendered, they can be rendered with the nodes of partials in place of
their inclusions, from the same state. They then write the same, keep the same for layouts and
record the same diagnostics but for the templates that these name. -/
theorem render_inline (page : Page) (hhelpers : page.helpers = .builtin) (st : RenderState)
    (nodes : List Node) {text : String} {st' : RenderState}
    (h : (page.render nodes).run st = .ok text st') :
    ∃ st'', (page.render (page.theme.inline nodes)).run st = .ok text st'' ∧
      st''.toFrame = st'.toFrame ∧ st''.kept = st'.kept ∧
      ∃ d d', st'.diagnostics = st.diagnostics ++ d ∧ st''.diagnostics = st.diagnostics ++ d' ∧
        List.Forall₂ Diagnostic.Resembles d d' := by
  have hrender := page.render_leaves st.toFrame nodes
  have hinlined := page.render_leaves st.toFrame (page.theme.inline nodes)
  obtain ⟨e, he, rfl, rfl⟩ := hrender.of_run_ok h
  have hfollows := nodesEffects_follows (page.partialEffects_follows (Nat.le_refl _))
    (replaces_included hhelpers (page.config.maxDepth - st.depth)) (.refl st.toFrame) nodes
  rw [show page.nodesEffects _ st.toFrame nodes = .ok e from he] at hfollows
  obtain ⟨e', he', hee'⟩ := hfollows
  have hinlined := hinlined st rfl
  rw [show page.effects st.toFrame (page.theme.inline nodes) = .ok e' from he'] at hinlined
  obtain ⟨text, hrun, rfl⟩ := hinlined
  refine ⟨st.after e', ?_, rfl, ?_, e.diagnostics, e'.diagnostics, rfl, rfl, hee'.diagnostics⟩
  · rw [hrun, hee'.html]
  · simp [hee'.kept]

/-- A partial in a loop without escaping, of which one expression stands for nothing. -/
theorem render_inline_loop :
    let write (name : String) : Node :=
      .expression { name, params := [], hash := [], span := default } true
    let card : Template := { name := "partials/card", body := [write "title", write "nope"] }
    let inclusion : Node :=
      .expression { name := ">", params := [.string "card"], hash := [], span := default } true
    let loop (body : List Node) : Node :=
      .block { name := "foreach", params := [.path "posts"], hash := [], span := default }
        [.block { name := "encode", params := [], hash := [], span := default } body none] none
    let request : Request :=
      { (default : Request) with posts := [{ (default : Post) with title := "<b>" }] }
    let page : Page := { bare with request, theme := Theme.empty.insert card }
    page.theme.inline [loop [inclusion]] = [loop card.body] ∧
      (∃ st, (page.render [loop [inclusion]]).run (.start .root) = .ok "<b>" st) ∧
      ∃ st, (page.render (page.theme.inline [loop [inclusion]])).run (.start .root) = .ok "<b>" st := by
  dsimp only
  refine ⟨rfl, ⟨_, rfl⟩, ?_⟩
  have hinline (page : Page) (hhelpers : page.helpers = .builtin) (nodes : List Node)
      (h : ∃ st, (page.render nodes).run (.start .root) = .ok "<b>" st) :
      ∃ st, (page.render (page.theme.inline nodes)).run (.start .root) = .ok "<b>" st := by
    obtain ⟨st, hrun⟩ := h
    obtain ⟨st', hinlined, -⟩ := render_inline page hhelpers (.start .root) nodes hrun
    exact ⟨st', hinlined⟩
  exact hinline _ rfl _ ⟨_, rfl⟩

end Page

end BlogTheme
