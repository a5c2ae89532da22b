import BlogTheme.Proofs.Render.Locating

/-!
# Layout directives

A layout is extended by a directive at the top level of a template, which is found before anything
is rendered. A directive that rendering comes to anywhere else, in a block or in a partial, ends
the rendering (`Page.Reaches.directive`): nothing that surrounds it recovers from its error. So a
page is made only if rendering has come to no directives but those along which its layouts were
found (`Page.renderTemplate_directives`).
-/

namespace BlogTheme

open Template (Invocation Node)

namespace Template

theorem layout_eq_none_iff {t : Template} : t.layout = .ok none ↔ t.directives = [] := by
  rw [layout_eq]
  match t.directives with
  | [] => simp
  | [i] => cases hparams : i.params <;> simp [hparams]
  | _ :: _ :: _ => simp

theorem layout_eq_some_iff {t : Template} {parent : String} :
    t.layout = .ok (some parent) ↔ ∃ d, t.directives = [d] ∧
      d.params.head?.map Argument.literalText = some parent := by
  rw [layout_eq]
  match t.directives with
  | [] => simp
  | [i] => cases hparams : i.params <;> simp [hparams]
  | _ :: _ :: _ => simp

end Template

/-- A template extends another by its only directive, which names it. -/
def Theme.ExtendsBy (theme : Theme) (d : Invocation) (t layout : Template) : Prop :=
  t.directives = [d] ∧ ∃ name, d.params.head?.map Template.Argument.literalText = some name ∧
    theme.find? name = some layout

/-- Each template of a layout chain extends the next by its only directive, and the last has
none. -/
theorem Theme.IsLayoutChain.directives {theme : Theme} {t : Template} {limit : Nat}
    {chain : List Template} (h : theme.IsLayoutChain t limit chain) :
    chain.IsChain (fun a b => ∃ d, theme.ExtendsBy d a b) ∧
      ∀ last, chain.getLast? = some last → last.directives = [] := by
  refine ⟨h.climbs.imp fun a b hextends => ?_, fun last hlast => ?_⟩
  · obtain ⟨parent, hlayout, hfind⟩ := hextends
    obtain ⟨d, hd, hparent⟩ := Template.layout_eq_some_iff.1 hlayout
    exact ⟨d, hd, parent, hparent, hfind⟩
  · exact Template.layout_eq_none_iff.1 (h.root last hlast)

/-- The visit is to an expression at the top level of the template. -/
def Visit.IsTopLevel (root : Scope) (t : Template) (v : Visit) : Prop :=
  ∃ h before i escaped rest, t.body = before ++ .expression i escaped :: rest ∧
    v = ⟨Page.topFrame root h t, .expression i escaped :: rest⟩

namespace Page

variable {page : Page} {f : Frame}

/-! ## Places that are not at the top -/

theorem Enters.not_isTop {node : Node} {v : Visit} (h : page.Enters f node v) :
    v.place.isTop = false := by
  cases h with
  | body hplan =>
    obtain ⟨scopes, raw, rfl⟩ :=
      surrounds_of_planBlock hplan _ (List.mem_append_right _ List.mem_cons_self)
    rfl
  | inverse => rfl
  | kept => rfl
  | included => simp [Frame.isTop, Frame.enterPartial]

/-- From the top of a template rendering comes to what is left of its nodes, or to places that are
not at the top. -/
theorem Reaches.isTop {nodes : List Node} {v : Visit} (h : page.Reaches ⟨f, nodes⟩ v) :
    v.place = f ∧ v.nodes <:+ nodes ∨ v.place.isTop = false := by
  induction h with
  | refl => exact .inl ⟨rfl, List.suffix_refl nodes⟩
  | tail _ hstep ih =>
    cases hstep with
    | enter henters => exact .inr henters.not_isTop
    | next =>
      rcases ih with ⟨hplace, hsuffix⟩ | htop
      · exact .inl ⟨hplace, (List.suffix_cons _ _).trans hsuffix⟩
      · exact .inr htop

/-! ## Directives at such places -/

/-- Why a directive ends the rendering. -/
def misplaced (template : String) : ThemeError :=
  .structural template "extends must appear at the top level of a template"

variable {i : Invocation}

theorem effects_directive_expression (hhelpers : page.helpers = .builtin)
    (hname : i.name = Template.extendsName) (htop : f.isTop = false) (escaped : Bool) :
    page.effects f [.expression i escaped] = .error (misplaced f.template) := by
  have hplan : page.planExpression f i = .error (misplaced f.template) := by
    have hfind : page.helpers.find? i.name = some (.reader .layoutDirective) := by
      rw [hhelpers, hname]
      rfl
    rw [planExpression, hfind]
    simp only [planReader, Reader.read, htop]
    rfl
  rw [effects_expression, hplan]
  rfl

/-- What a block invokes is invoked inside of a block. -/
theorem effects_directive_block (hhelpers : page.helpers = .builtin)
    (hname : i.name = Template.extendsName) (body : List Node) (inverse : Option (List Node)) :
    page.effects f [.block i body inverse] = .error (misplaced f.template) := by
  have hplan : page.planBlock f.enterBlock i = .error (misplaced f.template) := by
    have hfind : page.helpers.find? i.name = some (.reader .layoutDirective) := by
      rw [hhelpers, hname]
      rfl
    rw [planBlock, hfind]
    rfl
  rw [effects_block, hplan]
  rfl

/-- A directive that rendering comes to from the top of a template stands at the top level of that
template, or ends the rendering. -/
theorem Reaches.directive (hhelpers : page.helpers = .builtin) {root : Scope} {h : Handover}
    {t : Template} {v : Visit} (hreaches : page.Reaches ⟨topFrame root h t, t.body⟩ v)
    (hv : v.Invokes i) (hname : i.name = Template.extendsName) :
    v.IsTopLevel root t ∨ page.effects v.place v.nodes = .error (misplaced v.place.template) := by
  obtain ⟨place, nodes⟩ := v
  obtain ⟨node, rest, rfl, hnode⟩ := hv
  cases node with
  | text content => cases hnode
  | block j body inverse =>
    obtain rfl : j = i := Option.some.inj hnode
    right
    rw [effects_cons, effects_directive_block hhelpers hname body inverse]
    rfl
  | expression j escaped =>
    obtain rfl : j = i := Option.some.inj hnode
    rcases hreaches.isTop with ⟨rfl, before, hbody⟩ | htop
    · exact .inl ⟨h, before, j, escaped, rest, hbody.symm, rfl⟩
    · right
      rw [effects_cons, effects_directive_expression hhelpers hname htop]
      rfl

/-! ## Nodes that are all rendered -/

/-- Rendering that succeeds comes to whatever is left of the nodes. -/
theorem reaches_suffix {before rest : List Node} {e : Effects}
    (h : page.effects f (before ++ rest) = .ok e) : page.Reaches ⟨f, before ++ rest⟩ ⟨f, rest⟩ := by
  induction before generalizing e with
  | nil => exact .refl
  | cons node before ih =>
    obtain ⟨first, others, hfirst, hothers, -⟩ :=
      effects_append_eq_ok.1 (show page.effects f ([node] ++ (before ++ rest)) = .ok e from h)
    exact .head (.next hfirst) (ih hothers)

/-- A layout chain that succeeds comes to whatever each of its templates comes to. -/
theorem visitsAlong_of_mem {root : Scope} {h h' : Handover} {chain : List Template}
    (hchain : page.chainEffects root h chain = .ok h') {t : Template} (ht : t ∈ chain) :
    ∃ begun e, page.effects (topFrame root begun t) t.body = .ok e ∧
      ∀ v, page.Reaches ⟨topFrame root begun t, t.body⟩ v → page.VisitsAlong root h chain v := by
  induction chain generalizing h with
  | nil => cases ht
  | cons first chain ih =>
    obtain ⟨e, he, hrest⟩ := chainEffects_cons_eq_ok hchain
    rcases List.mem_cons.1 ht with rfl | ht
    · exact ⟨h, e, he, fun v hv => .here hv⟩
    · obtain ⟨begun, e', he', hvisits⟩ := ih hrest ht
      exact ⟨begun, e', he', fun v hv => .later he (hvisits v hv)⟩

/-- A directive of a template in a layout chain that succeeds is rendered. -/
theorem visitsAlong_directive {root : Scope} {h h' : Handover} {chain : List Template}
    (hchain : page.chainEffects root h chain = .ok h') {t : Template} (ht : t ∈ chain)
    {d : Invocation} (hd : d ∈ t.directives) :
    ∃ v, page.VisitsAlong root h chain v ∧ v.IsTopLevel root t ∧ v.Invokes d := by
  obtain ⟨begun, e, he, hvisits⟩ := visitsAlong_of_mem hchain ht
  obtain ⟨node, hnode, hdirective⟩ := List.mem_filterMap.1 hd
  cases node with
  | text content => cases hdirective
  | block i body inverse => cases hdirective
  | expression i escaped =>
    obtain rfl : i = d := by
      simp only at hdirective
      split at hdirective
      · exact Option.some.inj hdirective
      · cases hdirective
    obtain ⟨before, rest, hbody⟩ := List.append_of_mem hnode
    rw [hbody] at he
    have hreaches := reaches_suffix he
    rw [← hbody] at hreaches
    exact ⟨_, hvisits _ hreaches, ⟨begun, before, i, escaped, rest, hbody, rfl⟩, _, rest, rfl, rfl⟩

/-! ## Pages -/

/-- What is invoked at the top level under the name of directives is one. -/
theorem mem_directives {root : Scope} {t : Template} {v : Visit} (h : v.IsTopLevel root t)
    (hv : v.Invokes i) (hname : i.name = Template.extendsName) : i ∈ t.directives := by
  obtain ⟨begun, before, j, escaped, rest, hbody, rfl⟩ := h
  obtain ⟨node, others, ⟨rfl, rfl⟩, ⟨⟩⟩ := hv
  refine List.mem_filterMap.2 ⟨.expression i escaped, ?_, if_pos hname⟩
  rw [hbody]
  exact List.mem_append_right _ List.mem_cons_self

/-- A directive is honoured or ends the rendering. If rendering a page comes to one that is no
expression at the top level of a template of the layout chain, the page fails for its structure, in
the name of the template or partial that holds the directive. So if the page is made, the directives
that rendering has come to are those by which each template of the chain extends the next. -/
theorem renderTemplate_directives (page : Page) (hhelpers : page.helpers = .builtin) (root : Scope)
    (t : Template) :
    (∀ chain v i, page.theme.layoutChain t page.config.maxDepth = .ok chain →
      page.Visits root t v → v.Invokes i → i.name = Template.extendsName →
      (¬ ∃ top ∈ chain, v.IsTopLevel root top) →
      ∃ top ∈ chain, ∃ holder, page.StandsIn top v holder ∧
        page.renderTemplate root t = .error (misplaced holder.name)) ∧
    ∀ out, page.renderTemplate root t = .ok out →
      ∃ chain, page.theme.layoutChain t page.config.maxDepth = .ok chain ∧
        chain.IsChain (fun a b => ∃ d, page.theme.ExtendsBy d a b) ∧
        (∀ last, chain.getLast? = some last → last.directives = []) ∧
        (∀ v i, page.Visits root t v → v.Invokes i → i.name = Template.extendsName →
          ∃ top ∈ chain, v.IsTopLevel root top ∧ i ∈ top.directives) ∧
        ∀ top ∈ chain, ∀ d ∈ top.directives,
          ∃ v, page.Visits root t v ∧ v.IsTopLevel root top ∧ v.Invokes d := by
  have hfails : ∀ chain v i, page.theme.layoutChain t page.config.maxDepth = .ok chain →
      page.Visits root t v → v.Invokes i → i.name = Template.extendsName →
      (¬ ∃ top ∈ chain, v.IsTopLevel root top) →
      ∃ top ∈ chain, ∃ holder, page.StandsIn top v holder ∧
        page.renderTemplate root t = .error (misplaced holder.name) := by
    intro chain v i hchain hvisits hv hname hnot
    have hvisited := hvisits
    obtain ⟨chain', hchain', halong⟩ := hvisits
    obtain rfl : chain = chain' := Except.ok.inj (hchain.symm.trans hchain')
    obtain ⟨top, htop, h, hreaches⟩ := halong.origin
    obtain ⟨holder, hstands⟩ := hreaches.standsIn rfl
    rcases hreaches.directive hhelpers hv hname with hlevel | herror
    · exact absurd ⟨top, htop, hlevel⟩ hnot
    · rw [hstands.1] at herror
      exact ⟨top, htop, holder, hstands, hvisited.fails herror⟩
  refine ⟨hfails, fun out hout => ?_⟩
  obtain ⟨chain, last, hchain, heffects, -⟩ := chain_of_renderTemplate hout
  obtain ⟨hextends, hlast⟩ :=
    ((page.theme.layoutChain_eq_ok_iff t page.config.maxDepth chain).1 hchain).directives
  refine ⟨chain, hchain, hextends, hlast, fun v i hvisits hv hname => ?_, fun top htop d hd => ?_⟩
  · by_contra hnone
    have hnot : ¬ ∃ top ∈ chain, v.IsTopLevel root top := by
      rintro ⟨top, htop, hlevel⟩
      exact hnone ⟨top, htop, hlevel, mem_directives hlevel hv hname⟩
    obtain ⟨_, _, _, _, herror⟩ := hfails chain v i hchain hvisits hv hname hnot
    rw [hout] at herror
    cases herror
  · obtain ⟨v, halong, hlevel, hv⟩ := visitsAlong_directive heffects htop hd
    exact ⟨v, ⟨chain, hchain, halong⟩, hlevel, hv⟩

/-- A partial with a directive, included in a page; and a page that extends a layout. -/
theorem renderTemplate_directives_partial :
    let directive : Node :=
      .expression { name := "!<", params := [.path "base"], hash := [], span := default } true
    let card : Template := { name := "partials/card", body := [directive] }
    let including : Node :=
      .expression { name := ">", params := [.string "card"], hash := [], span := default } true
    let index : Template := { name := "index", body := [including] }
    let post : Template := { name := "post", body := [directive] }
    let layout : Template := { name := "base", body := [.text "x"] }
    let page : Page := { bare with theme := (Theme.empty.insert card).insert layout }
    page.renderTemplate .root index = .error (misplaced "partials/card") ∧
      ∃ out v, page.renderTemplate .root post = .ok out ∧ page.Visits .root post v ∧
        v.IsTopLevel .root post ∧ post.directives.length = 1 := by
  intro directive card including index post layout page
  have hfind : page.theme.findPartial? "card" = some card := by
    dsimp only [page, card, layout, directive]
    rfl
  have hlayout : page.theme.find? "base" = some layout := by
    dsimp only [page, card, layout, directive]
    rfl
  constructor
  · have hchain : page.theme.layoutChain index page.config.maxDepth = .ok [index] := by
      rw [Theme.layoutChain, Theme.chainFrom]
      rfl
    have hinserts : page.Inserts (topFrame .root {} index) card including := by
      show page.planPartial "card" = .ok (.insert card)
      rw [planPartial, hfind]
    let v : Visit := ⟨(topFrame .root {} index).enterPartial "partials/card", card.body⟩
    have hvisits : page.Visits .root index v :=
      ⟨[index], hchain, .here (.single (.enter (.included hinserts (by decide))))⟩
    have hnot : ¬ ∃ top ∈ [index], v.IsTopLevel .root top := by
      rintro ⟨top, -, h, before, i, escaped, rest, -, hv⟩
      have hdepth : v.place.depth = 0 := congrArg (fun v => v.place.depth) hv
      cases hdepth
    obtain ⟨hfails, -⟩ := renderTemplate_directives page rfl .root index
    obtain ⟨-, -, holder, ⟨hname, -, -⟩, herror⟩ :=
      hfails [index] v _ hchain hvisits ⟨directive, [], rfl, rfl⟩ rfl hnot
    rw [herror, ← hname]
    rfl
  · have hchain : page.theme.layoutChain post page.config.maxDepth = .ok [post, layout] := by
      have hextends : page.theme.chainFrom 32 31 [] post = _ :=
        Theme.chainFrom_extends page.theme rfl hlayout rfl
      show page.theme.chainFrom 32 31 [] post = .ok [post, layout]
      rw [hextends, Theme.chainFrom]
      rfl
    have hout : ∃ out, page.renderTemplate .root post = .ok out := by
      unfold renderTemplate
      rw [hchain]
      exact ⟨_, rfl⟩
    obtain ⟨out, hout⟩ := hout
    obtain ⟨-, hmade⟩ := renderTemplate_directives page rfl .root post
    obtain ⟨chain, hchain', -, -, -, hexecuted⟩ := hmade out hout
    obtain rfl : chain = [post, layout] := Except.ok.inj (hchain'.symm.trans hchain)
    obtain ⟨v, hvisits, hlevel, -⟩ := hexecuted post List.mem_cons_self _ List.mem_cons_self
    exact ⟨out, v, hout, hvisits, hlevel, rfl⟩

end Page

end BlogTheme
