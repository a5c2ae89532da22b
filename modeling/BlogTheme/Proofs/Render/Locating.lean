import BlogTheme.Engine.Basic
import BlogTheme.Proofs.Render.Depth
import BlogTheme.Proofs.Render.Reaching
import BlogTheme.Proofs.Theme.LayoutChain

/-!
# Where diagnostics come from

A diagnostic names a template and a line. The template is the one that holds the node which failed:
wherever rendering gets to, the nodes that are left stand in the template of which the place bears
the name, and this is a template of the layout chain or a partial that is reached from one by
inclusion (`Page.Reaches.standsIn`). The line is that of the node, as diagnostics arise only at
visits (`Page.effects_nodes_explained`, by induction on the nodes, and
`Page.explainsPartials`, by induction on the levels).
-/

namespace BlogTheme

open Template (Argument Invocation Node)

/-- The node is one of some nodes, or lies inside of one, at any depth. -/
inductive Template.Node.OccursIn (node : Node) : List Node → Prop
  | here {nodes} : node ∈ nodes → OccursIn node nodes
  | body {i body inverse nodes} :
    .block i body inverse ∈ nodes → OccursIn node body → OccursIn node nodes
  | inverse {i body inverse nodes} :
    .block i body (some inverse) ∈ nodes → OccursIn node inverse → OccursIn node nodes

namespace Template.Node.OccursIn

variable {node : Node} {i : Invocation} {body nodes : List Node} {inverse : Option (List Node)}

/-- What occurs wherever another node stands occurs wherever that node occurs. -/
theorem trans {outer : Node} (h : outer.OccursIn nodes)
    (hnode : ∀ nodes, outer ∈ nodes → node.OccursIn nodes) : node.OccursIn nodes := by
  induction h with
  | here hmem => exact hnode _ hmem
  | body hmem _ ih => exact .body hmem ih
  | inverse hmem _ ih => exact .inverse hmem ih

theorem of_body (h : (Node.block i body inverse).OccursIn nodes) (hnode : node ∈ body) :
    node.OccursIn nodes :=
  h.trans fun _ hmem => .body hmem (.here hnode)

theorem of_inverse {inverse : List Node} (h : (Node.block i body (some inverse)).OccursIn nodes)
    (hnode : node ∈ inverse) : node.OccursIn nodes :=
  h.trans fun _ hmem => .inverse hmem (.here hnode)

/-- Whatever a node includes is included by the nodes in which it occurs. -/
theorem inclusions_subset (h : node.OccursIn nodes) :
    node.inclusions ⊆ Template.allInclusions nodes := by
  have hmem {outer : Node} {nodes : List Node} (houter : outer ∈ nodes) :
      outer.inclusions ⊆ Template.allInclusions nodes := by
    induction nodes with
    | nil => cases houter
    | cons first rest ih =>
      rw [Template.allInclusions]
      rcases List.mem_cons.1 houter with rfl | houter
      · exact List.subset_append_left _ _
      · exact List.subset_append_of_subset_right _ (ih houter)
  induction h with
  | here hnode => exact hmem hnode
  | body hblock _ ih =>
    refine List.Subset.trans ih (List.Subset.trans ?_ (hmem hblock))
    rw [Node.inclusions]
    exact List.subset_append_of_subset_right _ (List.subset_append_left _ _)
  | inverse hblock _ ih =>
    refine List.Subset.trans ih (List.Subset.trans ?_ (hmem hblock))
    rw [Node.inclusions, Template.inverseInclusions]
    exact List.subset_append_of_subset_right _ (List.subset_append_right _ _)

end Template.Node.OccursIn

/-- In the template, at some depth, an expression or a block stands on the line. -/
def Template.HasInvocationOn (t : Template) (line : Nat) : Prop :=
  ∃ (node : Node) (i : Invocation), node.OccursIn t.body ∧ node.invocation? = some i ∧
    i.span.line = line

/-- The templates of a layout chain are in the theme if the first of them is. -/
theorem Theme.mem_of_layoutChain {theme : Theme} {t : Template} {limit : Nat}
    {chain : List Template} (h : theme.layoutChain t limit = .ok chain) (ht : t ∈ theme.items) :
    ∀ top ∈ chain, top ∈ theme.items := by
  have hpath := ((theme.layoutChain_eq_ok_iff t limit chain).1 h).toIsPath
  cases chain with
  | nil => exact nofun
  | cons first rest =>
    obtain rfl : first = t := Option.some.inj hpath.begins
    exact List.forall_mem_cons.2 ⟨ht, subset_items_of_isChain hpath.climbs⟩

namespace Page

variable {page : Page} {f : Frame}

/-! ## Which partials are included -/

/-- A partial that is inserted is found in the theme. -/
theorem Inserts.found {node : Node} {t : Template} (h : page.Inserts f t node) :
    ∃ name, page.theme.findPartial? name = some t := by
  have hfrom : ∃ names, (Plan.insert t).InsertsFrom page.theme names := by
    cases node with
    | text content => exact h.elim
    | expression i escaped =>
      have hinserts : Yields (Plan.InsertsFrom page.theme
          ("navigation" :: "pagination" :: (i.params.head?.map Argument.literalText).toList))
          (page.planExpression f i) :=
        planExpression_insertsFrom (by simp) (by simp) fun _ => by simp
      exact ⟨_, hinserts.result h⟩
    | block i body inverse =>
      have hinserts : Yields
          (Plan.InsertsFrom page.theme (i.params.head?.map Argument.literalText).toList)
          (page.planBlock f.enterBlock i) :=
        planBlock_insertsFrom fun _ => List.Subset.refl _
      exact ⟨_, hinserts.result h⟩
  obtain ⟨names, name, -, hfind⟩ := hfrom
  exact ⟨name, hfind⟩

/-- With the helpers that every theme can use, a partial that is inserted is named by the node. -/
theorem Inserts.named (hhelpers : page.helpers = .builtin) {node : Node} {t : Template}
    (h : page.Inserts f t node) :
    ∃ name ∈ node.inclusions, page.theme.findPartial? name = some t := by
  cases node with
  | text content => exact h.elim
  | expression i escaped => exact (planExpression_inserts hhelpers).result h
  | block i body inverse =>
    obtain ⟨name, hmem, hfind⟩ := (planBlock_inserts hhelpers).result h
    exact ⟨name, List.mem_append_left _ hmem, hfind⟩

/-! ## Which template holds the nodes -/

/-- A node of the template, at any depth in it, inserts the partial at some place. -/
def Includes (page : Page) (t partialTemplate : Template) : Prop :=
  ∃ node, node.OccursIn t.body ∧ ∃ f, page.Inserts f partialTemplate node

theorem Includes.mem {t t' : Template} (h : page.Includes t t') : t' ∈ page.theme.items := by
  obtain ⟨node, -, f, hinserts⟩ := h
  obtain ⟨name, hfind⟩ := hinserts.found
  rcases Option.or_eq_some_iff.1 hfind with hfind | ⟨-, hfind⟩
  · exact Catalog.mem_of_find? hfind
  · exact Catalog.mem_of_find? hfind

/-- With the helpers that every theme can use, inclusions can be told from the templates. -/
theorem Includes.of_builtin (hhelpers : page.helpers = .builtin) {t t' : Template}
    (h : page.Includes t t') : page.theme.Includes t t' := by
  obtain ⟨node, hnode, f, hinserts⟩ := h
  obtain ⟨name, hname, hfind⟩ := hinserts.named hhelpers
  exact ⟨name, hnode.inclusions_subset hname, hfind⟩

/-- The nodes of a visit stand in a template that has the name of the place and is reached from
`t` by inclusions. -/
def StandsIn (page : Page) (t : Template) (v : Visit) (holder : Template) : Prop :=
  v.place.template = holder.name ∧ (∀ node ∈ v.nodes, node.OccursIn holder.body) ∧
    Relation.ReflTransGen page.Includes t holder

/-- The next nodes stand in the same template, or in a partial that it includes. -/
theorem Step.standsIn {t holder : Template} {u v : Visit} (h : page.Step u v)
    (hu : page.StandsIn t u holder) : ∃ holder, page.StandsIn t v holder := by
  obtain ⟨hname, hnodes, hincludes⟩ := hu
  cases h with
  | next =>
    have hrest := (List.forall_mem_cons.1 hnodes).2
    exact ⟨holder, hname, hrest, hincludes⟩
  | enter henters =>
    have hnode := hnodes _ List.mem_cons_self
    cases henters with
    | body hplan =>
      obtain ⟨scopes, raw, rfl⟩ := surrounds_of_planBlock hplan _ (List.mem_append_right _
        List.mem_cons_self)
      exact ⟨holder, hname, fun _ => hnode.of_body, hincludes⟩
    | inverse => exact ⟨holder, hname, fun _ => hnode.of_inverse, hincludes⟩
    | kept => exact ⟨holder, hname, fun _ => hnode.of_body, hincludes⟩
    | @included _ t' hinserts =>
      exact ⟨t', rfl, fun _ => .here, hincludes.tail ⟨_, hnode, _, hinserts⟩⟩

/-- Wherever rendering gets to from the top of a template, the nodes stand in a template that it
reaches by inclusions. -/
theorem Reaches.standsIn {t : Template} {v : Visit} (hname : f.template = t.name)
    (h : page.Reaches ⟨f, t.body⟩ v) : ∃ holder, page.StandsIn t v holder := by
  induction h with
  | refl => exact ⟨t, hname, fun _ => .here, .refl⟩
  | tail _ hstep ih =>
    obtain ⟨holder, hstands⟩ := ih
    exact hstep.standsIn hstands

end Page

/-! ## Which nodes diagnostics are about -/

/-- The first of the nodes of a visit has the invocation. -/
def Visit.Invokes (v : Visit) (i : Invocation) : Prop :=
  ∃ node rest, v.nodes = node :: rest ∧ node.invocation? = some i

/-- The diagnostic is about the first of the nodes of a visit. -/
def Visit.IsAbout (v : Visit) (d : Diagnostic) : Prop :=
  ∃ i, v.Invokes i ∧ d.template = v.place.template ∧ d.line = i.span.line

/-- The effects that a computation comes to have the diagnostic. -/
def Records (d : Diagnostic) (x : Except ThemeError Effects) : Prop :=
  ∃ e, x = .ok e ∧ d ∈ e.diagnostics

namespace Records

variable {d : Diagnostic} {x y : Except ThemeError Effects}

theorem not_empty : ¬ Records d (.ok .empty) := by
  rintro ⟨_, ⟨⟩, hd⟩
  cases hd

theorem not_ofHtml {html : String} : ¬ Records d (.ok (.ofHtml html)) := by
  rintro ⟨_, ⟨⟩, hd⟩
  cases hd

/-- A diagnostic of effects in sequence is one of the first, or else one of the second. -/
theorem of_seq (h : Records d (do return (← x) ++ (← y))) :
    Records d x ∨ (∃ e, x = .ok e) ∧ Records d y := by
  obtain ⟨e, he, hd⟩ := h
  cases x with
  | error err => cases he
  | ok ex =>
    cases y with
    | error err => cases he
    | ok ey =>
      cases he
      rcases List.mem_append.1 hd with hd | hd
      · exact .inl ⟨ex, rfl, hd⟩
      · exact .inr ⟨⟨ex, rfl⟩, ey, rfl, hd⟩

theorem of_keep {name : String} (h : Records d (do return (← x).keep name)) : Records d x := by
  obtain ⟨e, he, hd⟩ := h
  cases x with
  | error err => cases he
  | ok ex =>
    cases he
    exact ⟨ex, rfl, hd⟩

/-- A diagnostic of repeated effects is one of the effects at some place, and those before have
succeeded. -/
theorem of_mapM {g : α → Except ThemeError Effects} {l : List α}
    (h : Records d (do return .concat (← l.mapM g))) :
    ∃ before a after, l = before ++ a :: after ∧ (∀ b ∈ before, ∃ e, g b = .ok e) ∧
      Records d (g a) := by
  induction l with
  | nil =>
    obtain ⟨_, ⟨⟩, hd⟩ := h
    cases hd
  | cons a l ih =>
    have hseq : (do return Effects.concat (← (a :: l).mapM g)) =
        (do return (← g a) ++ (← (do return Effects.concat (← l.mapM g)))) := by
      simp
    rw [hseq] at h
    exact exists_split_cons.2 (h.of_seq.imp_right fun ⟨ha, hl⟩ => ⟨ha, ih hl⟩)

/-- What a failed invocation records is about it. -/
theorem of_faultEffects {f : Frame} {i : Invocation} {e : ThemeError}
    (h : Records d (Page.faultEffects f i e)) : d.template = f.template ∧ d.line = i.span.line := by
  obtain ⟨effects, heffects, hd⟩ := h
  unfold Page.faultEffects ThemeError.diagnostic? at heffects
  cases hkind : e.diagnosticKind? with
  | none =>
    rw [hkind] at heffects
    cases heffects
  | some kind =>
    rw [hkind] at heffects
    cases heffects
    obtain rfl := List.mem_singleton.1 hd
    exact ⟨rfl, rfl⟩

/-- What an invocation records is about it if it has failed, and else is recorded by what was
planned. -/
theorem of_invocationEffects {f : Frame} {i : Invocation} {out : Plan → Except ThemeError Effects}
    {plan? : Except ThemeError Plan} (h : Records d (Page.invocationEffects f i out plan?)) :
    (d.template = f.template ∧ d.line = i.span.line) ∨
      ∃ plan, plan? = .ok plan ∧ Records d (out plan) := by
  cases plan? with
  | error e => exact .inl h.of_faultEffects
  | ok plan => exact .inr ⟨plan, rfl, h⟩

/-- What a plan records is recorded by something that it meets. -/
theorem of_carryOut {f : Frame} {escaped : Bool} {body : Frame → Except ThemeError Effects}
    {inverse : Except ThemeError Effects} {partials : Template → Except ThemeError Effects}
    {plan : Plan} (h : Records d (plan.carryOut f escaped body inverse partials)) :
    plan.Meets f body (fun place => Records d (body place)) (Records d inverse)
      fun t => Records d (partials t) := by
  cases plan with
  | write v => exact absurd h not_ofHtml
  | body places => exact h.of_mapM
  | inverse => exact h
  | keep name => exact h.of_keep
  | insert t => exact h

end Records

namespace Page

variable {page : Page} {d : Diagnostic}

/-- Rendering comes from a visit to one that the diagnostic is about. -/
def Explains (page : Page) (u : Visit) (d : Diagnostic) : Prop :=
  ∃ v, page.Reaches u v ∧ v.IsAbout d

/-- With so many levels left, partials record the diagnostic only if rendering them comes to what it
is about. -/
def ExplainsPartials (page : Page) (levels : Nat) (d : Diagnostic) : Prop :=
  ∀ f t, page.config.maxDepth - f.depth = levels →
    Records d (page.partialEffects (page.config.maxDepth - f.depth) f t) →
    f.depth < page.config.maxDepth ∧ page.Explains ⟨f.enterPartial t.name, t.body⟩ d

section

variable {levels : Nat}

mutual

theorem effects_node_explained (hp : page.ExplainsPartials levels d) {f : Frame}
    (hf : page.config.maxDepth - f.depth = levels) : (node : Node) →
    Records d (page.effects f [node]) →
    (∀ rest, Visit.IsAbout ⟨f, node :: rest⟩ d) ∨ ∃ v, page.Enters f node v ∧ page.Explains v d
  | .text content, h => by
    rw [effects, nodesEffects_singleton, nodeEffects] at h
    exact absurd h Records.not_ofHtml
  | .expression i escaped, h => by
    rw [effects_expression] at h
    rcases h.of_invocationEffects with habout | ⟨plan, hplan, h⟩
    · exact .inl fun rest => ⟨i, ⟨_, rest, rfl, rfl⟩, habout⟩
    · -- The body and the inverse of an expression are empty, so only a partial is left.
      refine .inr (exists_enters_expression.2 ⟨plan, hplan, ?_⟩)
      exact h.of_carryOut.imp (fun _ _ hnone => absurd hnone Records.not_empty)
        (fun hnone => absurd hnone Records.not_empty) fun t ht => hp f t hf ht
  | .block i body inverse, h => by
    rw [effects_block] at h
    rcases h.of_invocationEffects with habout | ⟨plan, hplan, h⟩
    · exact .inl fun rest => ⟨i, ⟨_, rest, rfl, rfl⟩, habout⟩
    · refine .inr (exists_enters_block.2 ⟨plan, hplan, ?_⟩)
      refine h.of_carryOut.imp (fun place hplace hbody => ?_) (fun hinverse => ?_) fun t ht => ?_
      · obtain ⟨scopes, raw, rfl⟩ := surrounds_of_bodyAt hplan hplace
        exact effects_nodes_explained hp (f := { f.enterBlock with scopes, raw }) hf body hbody
      · exact effects_inverse_explained hp (f := f.enterBlock) hf inverse hinverse
      · exact hp f.enterBlock t hf ht

/-- A diagnostic of an inverse is about a node that rendering it comes to. -/
theorem effects_inverse_explained (hp : page.ExplainsPartials levels d) {f : Frame}
    (hf : page.config.maxDepth - f.depth = levels) : (inverse : Option (List Node)) →
    Records d (page.inverseEffects (page.partialEffects (page.config.maxDepth - f.depth)) f
      inverse) →
    ∃ nodes, inverse = some nodes ∧ page.Explains ⟨f, nodes⟩ d
  | none, h => absurd h Records.not_empty
  | some nodes, h => ⟨nodes, rfl, effects_nodes_explained hp hf nodes h⟩

/-- A diagnostic that nodes record is about a node that rendering them comes to. -/
theorem effects_nodes_explained (hp : page.ExplainsPartials levels d) {f : Frame}
    (hf : page.config.maxDepth - f.depth = levels) : (nodes : List Node) →
    Records d (page.effects f nodes) → page.Explains ⟨f, nodes⟩ d
  | [], h => by
    rw [effects, nodesEffects] at h
    exact absurd h Records.not_empty
  | node :: nodes, h => by
    rw [effects_cons] at h
    rcases h.of_seq with hfirst | ⟨⟨e, hfirst⟩, hrest⟩
    · rcases effects_node_explained hp hf node hfirst with habout | ⟨v, henters, w, hreaches, hw⟩
      · exact ⟨_, .refl, habout nodes⟩
      · exact ⟨w, .head (.enter henters) hreaches, hw⟩
    · obtain ⟨w, hreaches, hw⟩ := effects_nodes_explained hp hf nodes hrest
      exact ⟨w, .head (.next hfirst) hreaches, hw⟩

end

end

/-- A diagnostic that a partial records is about a node that rendering it comes to. -/
theorem explainsPartials (levels : Nat) : page.ExplainsPartials levels d := by
  induction levels with
  | zero =>
    intro f t hf h
    rw [hf] at h
    obtain ⟨_, ⟨⟩, -⟩ := h
  | succ levels ih =>
    intro f t hf h
    have hdepth : f.depth < page.config.maxDepth := by omega
    rw [partialEffects_eq hdepth] at h
    exact ⟨hdepth, effects_nodes_explained ih (levels_enterPartial hf t.name) t.body h⟩

/-- A diagnostic that nodes record is about a node that rendering them comes to. -/
theorem effects_explained {f : Frame} {nodes : List Node} (h : Records d (page.effects f nodes)) :
    page.Explains ⟨f, nodes⟩ d :=
  effects_nodes_explained (explainsPartials _) rfl nodes h

/-- The diagnostics of a layout chain are those that there were, and others that are about nodes
which rendering the templates comes to. -/
theorem chainEffects_explained {root : Scope} {h h' : Handover} {chain : List Template}
    (heffects : page.chainEffects root h chain = .ok h') (hd : d ∈ h'.diagnostics) :
    d ∈ h.diagnostics ∨ ∃ v, page.VisitsAlong root h chain v ∧ v.IsAbout d := by
  induction chain generalizing h with
  | nil =>
    cases heffects
    exact .inl hd
  | cons t chain ih =>
    obtain ⟨e, he, hrest⟩ := chainEffects_cons_eq_ok heffects
    rcases ih hrest with hd | ⟨v, hv, habout⟩
    · rcases List.mem_append.1 hd with hd | hd
      · exact .inl hd
      · obtain ⟨v, hreaches, habout⟩ := effects_explained ⟨e, he, hd⟩
        exact .inr ⟨v, .here hreaches, habout⟩
    · exact .inr ⟨v, .later he hv, habout⟩

/-! ## Pages -/

theorem mem_of_includes {t holder : Template} (ht : t ∈ page.theme.items)
    (h : Relation.ReflTransGen page.Includes t holder) : holder ∈ page.theme.items := by
  cases h with
  | refl => exact ht
  | tail _ hlast => exact hlast.mem

/-- Every diagnostic of a page is about an invocation in a template of the layout chain, or in a
partial that one of these includes. -/
theorem renderTemplate_explained {root : Scope} {t : Template} {out : Output}
    (h : page.renderTemplate root t = .ok out) :
    ∃ chain, page.theme.layoutChain t page.config.maxDepth = .ok chain ∧
      ∀ d ∈ out.diagnostics, ∃ top ∈ chain, ∃ holder,
        Relation.ReflTransGen page.Includes top holder ∧ holder.name = d.template ∧
          holder.HasInvocationOn d.line := by
  obtain ⟨chain, last, hchain, heffects, rfl⟩ := chain_of_renderTemplate h
  refine ⟨chain, hchain, fun d hd => ?_⟩
  rcases chainEffects_explained heffects hd with hnone | ⟨v, hv, habout⟩
  · cases hnone
  · obtain ⟨top, htop, _, hreaches⟩ := hv.origin
    obtain ⟨holder, hname, hnodes, hincludes⟩ := hreaches.standsIn rfl
    obtain ⟨i, ⟨node, rest, hrest, hinvocation⟩, htemplate, hline⟩ := habout
    have hnode : node.OccursIn holder.body := hnodes node (by simp [hrest])
    exact ⟨top, htop, holder, hincludes, (htemplate.trans hname).symm, node, i, hnode,
      hinvocation, hline.symm⟩

end Page

/-- Diagnostics point at templates: each of a page names a template of the theme in which there is,
at some depth, an invocation on the line that it names. This template belongs to the layout chain
of the page, or is a partial that a template of the chain reaches by inclusions. -/
theorem Engine.render_diagnostics (e : Engine) (theme : Theme) (name : String) (request : Request)
    (out : Output) (h : e.render theme name request = .ok out) :
    ∃ t chain, theme.find? (Template.canonicalName name) = some t ∧
      theme.layoutChain t e.config.maxDepth = .ok chain ∧
      ∀ d ∈ out.diagnostics, ∃ holder, theme.find? d.template = some holder ∧
        holder.HasInvocationOn d.line ∧
        ∃ top ∈ chain, Relation.ReflTransGen (e.page theme request).Includes top holder ∧
          (e.helpers = .builtin → Relation.ReflTransGen theme.Includes top holder) := by
  unfold render renderFrom at h
  cases hfind : theme.find? (Template.canonicalName name) with
  | none =>
    simp only [hfind] at h
    cases h
  | some t =>
    simp only [hfind] at h
    obtain ⟨chain, hchain, hexplained⟩ := Page.renderTemplate_explained h
    refine ⟨t, chain, rfl, hchain, fun d hd => ?_⟩
    obtain ⟨top, htop, holder, hincludes, hname, hinvocation⟩ := hexplained d hd
    have hchainMem := Theme.mem_of_layoutChain hchain (Catalog.mem_of_find? hfind)
    have hholder : holder ∈ theme.items := Page.mem_of_includes (hchainMem top htop) hincludes
    refine ⟨holder, Catalog.find?_eq_some_iff.2 ⟨hholder, hname⟩, hinvocation, top, htop, hincludes,
      fun hhelpers => ?_⟩
    exact Relation.ReflTransGen.mono (fun a b hab => hab.of_builtin hhelpers) _ _ hincludes

/-- A partial in which a name on line 7 stands for nothing, and a page that includes it. -/
theorem Engine.render_diagnostics_partial :
    let invoking (name : String) (params : List Template.Argument) (line : Nat) : Invocation :=
      { name, params, hash := [], span := { (default : Template.Span) with line } }
    let card : Template :=
      { name := "partials/card"
        body := [.block (invoking "if" [.boolean true] 6)
          [.expression (invoking "nowhere" [] 7) true] none] }
    let index : Template :=
      { name := "index", body := [.expression (invoking ">" [.string "card"] 1) true] }
    let theme : Theme := (Theme.empty.insert card).insert index
    let engine := Engine.ofConfig Store.empty.resolver {}
    ∃ out d, engine.render theme "index" default = .ok out ∧ out.diagnostics = [d] ∧
      d.template = "partials/card" ∧ d.line = 7 ∧
      ∃ holder, theme.find? d.template = some holder ∧ holder.HasInvocationOn d.line := by
  intro invoking card index theme engine
  let page := engine.page theme default
  have hchain : page.theme.layoutChain index page.config.maxDepth = .ok [index] := by
    rw [Theme.layoutChain, Theme.chainFrom]
    rfl
  have hrender : ∃ out, page.renderTemplate .root index = .ok out ∧
      ∃ d, out.diagnostics = [d] ∧ d.template = "partials/card" ∧ d.line = 7 := by
    unfold Page.renderTemplate
    rw [hchain]
    dsimp only [page, engine, theme, index, card, invoking]
    refine ⟨_, rfl, ?_⟩
    exact ⟨⟨.unresolvedPath, "partials/card", "Unresolved path: nowhere", 7⟩, rfl, rfl, rfl⟩
  have hfind : theme.find? (Template.canonicalName "index") = some index := by
    dsimp only [theme, index, card, invoking]
    rfl
  obtain ⟨out, hout, d, hd, htemplate, hline⟩ := hrender
  have hrender : engine.render theme "index" default = .ok out := by
    unfold render renderFrom
    simp only [hfind]
    exact hout
  obtain ⟨t, chain, -, -, hdiagnostics⟩ :=
    render_diagnostics engine theme "index" default out hrender
  obtain ⟨holder, hfind, hinvocation, -⟩ := hdiagnostics d (by simp [hd])
  exact ⟨out, d, hrender, hd, htemplate, hline, holder, hfind, hinvocation⟩

end BlogTheme
