import BlogTheme.Proofs.Render.Throughout
import BlogTheme.Proofs.Theme.LayoutChain

/-!
# Layouts

A page is made by the templates of its layout chain one after the other, each from the top
and with what those before it hand over (`Page.chainEffects_layers`): the text of the one
just before, and for a name the content that was kept last in the first template that kept
one (`Handover.lookup_of`). While a template is rendered the place of every node still holds
that (`Region.handed`), so that `body` and `block` find it wherever they stand
(`Page.shows_of_frame`). `Page.renderTemplate_layers` puts this together.
-/

namespace BlogTheme

open Template (Argument Invocation Node)
open Rendering (inBlock)

/-- The content kept last under a name. -/
def Effects.lastKept? (e : Effects) (name : String) : Option String :=
  e.kept.reverse.lookup name

/-- What is handed over by templates with these effects: the text of the last, and the
contents that each has kept, the latest first. -/
def Handover.of (before : List Effects) : Handover where
  body := (before.getLast?.map Effects.html).getD ""
  slots := before.flatMap fun e => e.kept.reverse
  diagnostics := before.flatMap Effects.diagnostics

namespace Handover

theorem next_of (before : List Effects) (e : Effects) :
    (of before).next e = of (before ++ [e]) := by
  simp [of, next]

/-- The first template that has kept a content under a name decides. -/
theorem lookup_of (before : List Effects) (name : String) :
    (of before).slots.lookup name = before.findSome? (·.lastKept? name) := by
  show (before.flatMap fun e => e.kept.reverse).lookup name = _
  induction before with
  | nil => rfl
  | cons e before ih =>
    rw [List.flatMap_cons, List.lookup_append, ih, List.findSome?_cons]
    show (e.lastKept? name).or _ = _
    cases e.lastKept? name <;> rfl

end Handover

/-- The places of a layer: the depth and the levels left come to the limit, and the text and the
contents are those handed over. -/
theorem Region.handed (limit : Nat) (h : Handover) :
    Region fun levels f => f.depth + levels = limit ∧ f.body = h.body ∧ f.slots = h.slots where
  surrounds := by
    rintro levels f _ hf ⟨scopes, raw, rfl⟩
    exact hf
  enterBlock hf := hf
  enterPartial {levels f} hf name := by
    obtain ⟨hlevels, hbody, hslots⟩ := hf
    refine ⟨?_, hbody, hslots⟩
    show f.depth + 1 + levels = limit
    omega

/-- A layout chain begins with the template that is asked for. -/
theorem Theme.chainFrom_begins (theme : Theme) (limit room : Nat) (seen : List String)
    (t : Template) : Yields (fun chain => chain.head? = some t)
      (theme.chainFrom limit room seen t) := by
  unfold chainFrom
  refine .of_bind fun parent? => ?_
  cases parent? with
  | none => exact .ok rfl
  | some parent =>
    cases room with
    | zero => exact .error trivial
    | succ room =>
      simp only
      cases theme.find? parent with
      | none => exact .error trivial
      | some layout =>
        simp only
        split
        · exact .error trivial
        · exact .of_bind fun chain => .ok rfl

namespace Template

/-- The invocation has a name as its first argument. -/
def Invocation.Names (i : Invocation) (name : String) : Prop :=
  i.params.head?.map Argument.literalText = some name ∧ name ≠ ""

end Template

namespace Page

variable (page : Page)

/-- In the state `st` nodes get at what the templates with the effects `before` have left:
`body` writes the text of the last of them, in any form and without escaping, and as an
argument it is that text; a block writes what was kept under its name last by the first of
them that kept anything, and renders its own body in place if none did. What `contentFor` has
in its body is kept, after what its body keeps, and nothing is written. -/
structure Shows (before : List Effects) (st : RenderState) : Prop where
  body_expression : ∀ i escaped, i.name = "body" →
    (page.render [.expression i escaped]).run st = .ok (Handover.of before).body st
  body_block : ∀ i nodes inverse, i.name = "body" →
    (page.render [.block i nodes inverse]).run st = .ok (Handover.of before).body st
  body_argument : ∀ inclusion,
    (page.evaluate inclusion (.path "body")).run st = .ok (.markup (Handover.of before).body) st
  block_kept : ∀ i name content, i.name = "block" → i.Names name →
    before.findSome? (·.lastKept? name) = some content →
    (∀ nodes inverse, (page.render [.block i nodes inverse]).run st = .ok content st) ∧
    ∀ escaped, (page.render [.expression i escaped]).run st = .ok content st
  block_default : ∀ i name, i.name = "block" → i.Names name →
    before.findSome? (·.lastKept? name) = none →
    (∀ nodes inverse, (page.render [.block i nodes inverse]).outcome st =
      (inBlock (page.render nodes)).outcome st) ∧
    ∀ escaped, (page.render [.expression i escaped]).run st = .ok "" st
  contentFor : ∀ i name nodes inverse text st', i.name = "contentFor" → i.Names name →
    (inBlock (page.render nodes)).run st = .ok text st' →
    (page.render [.block i nodes inverse]).run st = .ok "" (st'.keep name text)

/-! ## Single nodes -/

section

variable {page} {st : RenderState}

/-- What a node is rendered to when its effects are known. -/
theorem run_render_node {node : Node} {e : Effects}
    (h : page.nodeEffects (page.partialEffects (page.config.maxDepth - st.depth)) st.toFrame node =
      .ok e) : (page.render [node]).run st = .ok e.html (st.after e) := by
  have hrender := page.render_leaves st.toFrame [node] st rfl
  rw [show page.effects st.toFrame [node] = .ok e from
    (page.nodesEffects_singleton _ _ node).trans h] at hrender
  obtain ⟨text, hrun, rfl⟩ := hrender
  exact hrun

/-- A node whose only effect is a text. -/
theorem run_render_text {node : Node} {text : String}
    (h : page.nodeEffects (page.partialEffects (page.config.maxDepth - st.depth)) st.toFrame node =
      .ok (.ofHtml text)) : (page.render [node]).run st = .ok text st := by
  rw [run_render_node h]
  simp [RenderState.after, Effects.ofHtml]

theorem nameArgument_eq {i : Invocation} {name : String} (h : i.Names name) (f : Frame) :
    (page.callAt f i).nameArgument = .ok name := by
  obtain ⟨hname, hne⟩ := h
  cases hparams : i.params with
  | nil => simp [hparams] at hname
  | cons a params =>
    rw [hparams] at hname
    obtain rfl : a.literalText = name := Option.some.inj hname
    simp [Call.nameArgument, callAt, hparams, givenAt, hne]
    rfl

end

section

variable {page} (hhelpers : page.helpers = .builtin) {f : Frame} {i : Invocation}
include hhelpers

theorem planExpression_body (h : i.name = "body") :
    page.planExpression f i = .ok (.write (.markup f.body)) := by
  have hfind : page.helpers.find? i.name = some (.reader .pageBody) := by
    rw [hhelpers, h]
    rfl
  rw [planExpression, hfind]
  rfl

theorem planBlock_body (h : i.name = "body") :
    page.planBlock f i = .ok (.write (.markup f.body)) := by
  have hfind : page.helpers.find? i.name = some (.reader .pageBody) := by
    rw [hhelpers, h]
    rfl
  rw [planBlock, hfind]
  rfl

theorem valueAt_body : page.valueAt f (.path "body") = .ok (.markup f.body) := by
  have hfind : page.helpers.find? "body" = some (.reader .pageBody) := by
    rw [hhelpers]
    rfl
  rw [valueAt, hfind]
  rfl

variable {name : String} (hname : i.Names name)
include hname

theorem planExpression_block (h : i.name = "block") :
    page.planExpression f i = .ok (.write (.markup ((f.slots.lookup name).getD ""))) := by
  have hfind : page.helpers.find? i.name = some (.builder .block) := by
    rw [hhelpers, h]
    rfl
  rw [planExpression, hfind]
  simp only [planBuilder, nameArgument_eq hname]
  rfl

theorem planBlock_block (h : i.name = "block") :
    page.planBlock f i = .ok (match f.slots.lookup name with
      | some content => Plan.write (.markup content)
      | none => Plan.body [f]) := by
  have hfind : page.helpers.find? i.name = some (.builder .block) := by
    rw [hhelpers, h]
    rfl
  rw [planBlock, hfind]
  simp only [planBuilderBlock, nameArgument_eq hname, bind, Except.bind]
  cases f.slots.lookup name <;> rfl

theorem planBlock_contentFor (h : i.name = "contentFor") :
    page.planBlock f i = .ok (.keep name) := by
  have hfind : page.helpers.find? i.name = some (.builder .contentFor) := by
    rw [hhelpers, h]
    rfl
  rw [planBlock, hfind]
  simp only [planBuilderBlock, nameArgument_eq hname]
  rfl

end

section

variable {page} {partials : PartialEffects} {f : Frame} {i : Invocation}

theorem nodeEffects_expression_markup {text : String}
    (h : page.planExpression f i = .ok (.write (.markup text))) (escaped : Bool) :
    page.nodeEffects partials f (.expression i escaped) = .ok (.ofHtml text) := by
  rw [nodeEffects, h]
  show Except.ok (Effects.ofHtml (f.write escaped (.markup text))) = _
  rw [f.write_markup]

variable (nodes : List Node) (inverse : Option (List Node))

theorem nodeEffects_block_markup {text : String}
    (h : page.planBlock f.enterBlock i = .ok (.write (.markup text))) :
    page.nodeEffects partials f (.block i nodes inverse) = .ok (.ofHtml text) := by
  rw [nodeEffects, h]
  show Except.ok (Effects.ofHtml (f.enterBlock.write true (.markup text))) = _
  rw [f.enterBlock.write_markup]

theorem nodeEffects_block_body (h : page.planBlock f.enterBlock i = .ok (.body [f.enterBlock])) :
    page.nodeEffects partials f (.block i nodes inverse) =
      page.nodesEffects partials f.enterBlock nodes := by
  rw [nodeEffects, h]
  simp only [invocationEffects, Plan.carryOut_body]

theorem nodeEffects_block_keep {name : String} {e : Effects}
    (h : page.planBlock f.enterBlock i = .ok (.keep name))
    (hnodes : page.nodesEffects partials f.enterBlock nodes = .ok e) :
    page.nodeEffects partials f (.block i nodes inverse) = .ok (e.keep name) := by
  rw [nodeEffects, h]
  show (do return (← page.nodesEffects partials f.enterBlock nodes).keep name) = _
  rw [hnodes]
  rfl

end

/-- Where the place of a state holds what is handed over, nodes get at it. -/
theorem shows_of_frame {page : Page} (hhelpers : page.helpers = .builtin) {before : List Effects}
    {st : RenderState} (hbody : st.body = (Handover.of before).body)
    (hslots : st.slots = (Handover.of before).slots) : page.Shows before st := by
  have hlookup (name : String) :
      st.slots.lookup name = before.findSome? (·.lastKept? name) := by
    rw [hslots, Handover.lookup_of]
  have hinside nodes := (page.render_leaves st.toFrame.enterBlock nodes).inBlock
  exact {
    body_expression := fun i escaped h => by
      rw [← hbody]
      exact run_render_text (nodeEffects_expression_markup (planExpression_body hhelpers h) escaped)
    body_block := fun i nodes inverse h => by
      rw [← hbody]
      exact run_render_text (nodeEffects_block_markup nodes inverse (planBlock_body hhelpers h))
    body_argument := fun inclusion => by
      have hvalue := page.evaluate_quiet inclusion st.toFrame (.path "body") st rfl
      rw [valueAt_body hhelpers, show st.toFrame.body = _ from hbody] at hvalue
      exact hvalue
    block_kept := fun i name content h hname hkept => by
      have hfound : st.toFrame.slots.lookup name = some content := (hlookup name).trans hkept
      refine ⟨fun nodes inverse => run_render_text (nodeEffects_block_markup nodes inverse ?_),
        fun escaped => run_render_text (nodeEffects_expression_markup ?_ escaped)⟩
      · rw [planBlock_block hhelpers hname h,
          show st.toFrame.enterBlock.slots = st.toFrame.slots from rfl, hfound]
      · rw [planExpression_block hhelpers hname h, hfound]
        rfl
    block_default := fun i name h hname hkept => by
      have hfound : st.toFrame.slots.lookup name = none := (hlookup name).trans hkept
      refine ⟨fun nodes inverse => ?_,
        fun escaped => run_render_text (nodeEffects_expression_markup ?_ escaped)⟩
      · have hplan : page.planBlock st.toFrame.enterBlock i =
            .ok (.body [st.toFrame.enterBlock]) := by
          rw [planBlock_block hhelpers hname h,
            show st.toFrame.enterBlock.slots = st.toFrame.slots from rfl, hfound]
        have hrender := page.render_leaves st.toFrame [.block i nodes inverse]
        rw [effects, nodesEffects_singleton, nodeEffects_block_body nodes inverse hplan] at hrender
        exact hrender.outcome_eq (hinside nodes)
      · rw [planExpression_block hhelpers hname h, hfound]
        rfl
    contentFor := fun i name nodes inverse text st' h hname hrun => by
      obtain ⟨e, he, rfl, rfl⟩ := (hinside nodes).of_run_ok hrun
      have hplan := planBlock_contentFor hhelpers hname h (f := st.toFrame.enterBlock)
      rw [run_render_node (nodeEffects_block_keep nodes inverse hplan he)]
      simp [RenderState.keep, RenderState.after, Effects.keep] }

/-! ## Chains -/

/-- Each template of a chain is rendered with what the templates before it hand over. -/
theorem chainEffects_layers (root : Scope) (chain : List Template) (before : List Effects)
    {h : Handover} (hchain : page.chainEffects root (.of before) chain = .ok h) :
    ∃ layers : List Effects, h = .of (before ++ layers) ∧ layers.length = chain.length ∧
      ∀ i t, chain[i]? = some t → ∃ e, layers[i]? = some e ∧
        page.effects (topFrame root (.of (before ++ layers.take i)) t) t.body = .ok e := by
  induction chain generalizing before with
  | nil =>
    obtain rfl : Handover.of before = h := by cases hchain; rfl
    exact ⟨[], by simp, rfl, fun i t ht => by simp at ht⟩
  | cons t chain ih =>
    rw [chainEffects] at hchain
    cases he : page.effects (topFrame root (.of before) t) t.body with
    | error err =>
      rw [he] at hchain
      cases hchain
    | ok e =>
      rw [he] at hchain
      have hrest : page.chainEffects root (.of (before ++ [e])) chain = .ok h := by
        rw [← Handover.next_of]
        exact hchain
      obtain ⟨layers, hh, hlength, hlayers⟩ := ih _ hrest
      refine ⟨e :: layers, by simpa using hh, by simp [hlength], fun i t' ht' => ?_⟩
      cases i with
      | zero =>
        obtain rfl : t = t' := by simpa using ht'
        exact ⟨e, rfl, by simpa using he⟩
      | succ i =>
        obtain ⟨e', he', heffects⟩ := hlayers i t' (by simpa using ht')
        exact ⟨e', by simpa using he', by simpa using heffects⟩

/-- The state in which a template of a chain begins, after templates with these effects. -/
def layerState (root : Scope) (before : List Effects) (t : Template) : RenderState where
  toFrame := topFrame root (.of before) t
  diagnostics := (Handover.of before).diagnostics

/-- A page is made in layers, one for each template of its layout chain: each is what the
template is rendered to at the top of the page, and throughout that rendering it shows what the
layers before it have left. The page is the text of the last layer. -/
theorem renderTemplate_layers (page : Page) (hhelpers : page.helpers = .builtin) (root : Scope)
    (t : Template) {out : Output} (h : page.renderTemplate root t = .ok out) :
    ∃ chain layers, page.theme.layoutChain t page.config.maxDepth = .ok chain ∧
      chain.head? = some t ∧ layers.length = chain.length ∧ out.html = (Handover.of layers).body ∧
      out.diagnostics = (Handover.of layers).diagnostics ∧
      ∀ i t, chain[i]? = some t → ∃ e, layers[i]? = some e ∧
        page.effects (topFrame root (.of (layers.take i)) t) t.body = .ok e ∧
        (page.render t.body).run (layerState root (layers.take i) t) =
          .ok e.html ((layerState root (layers.take i) t).after e) ∧
        page.Throughout (fun _ st => page.Shows (layers.take i) st) t.body
          (layerState root (layers.take i) t) := by
  rw [page.renderTemplate_eq] at h
  cases hchain : page.theme.layoutChain t page.config.maxDepth with
  | error e =>
    rw [hchain] at h
    cases h
  | ok chain =>
    rw [hchain] at h
    cases hmeaning : page.chainEffects root {} chain with
    | error e =>
      simp only [bind, Except.bind, hmeaning] at h
      cases h
    | ok last =>
      simp only [bind, Except.bind, hmeaning] at h
      obtain ⟨layers, rfl, hlength, hlayers⟩ := page.chainEffects_layers root chain [] hmeaning
      cases h
      have hbegins := (page.theme.chainFrom_begins _ _ [] t).result hchain
      refine ⟨chain, layers, rfl, hbegins, hlength, rfl, rfl, fun i t ht => ?_⟩
      obtain ⟨e, he, heffects⟩ := hlayers i t ht
      rw [List.nil_append] at heffects
      have hrender := page.render_leaves _ t.body (layerState root (layers.take i) t) rfl
      rw [show page.effects (layerState root (layers.take i) t).toFrame t.body = .ok e
        from heffects] at hrender
      obtain ⟨text, hrun, rfl⟩ := hrender
      refine ⟨e, he, heffects, hrun, ?_⟩
      refine throughout (.handed page.config.maxDepth (.of (layers.take i))) ?_ ?_ t.body
      · rintro _ _ st ⟨-, hbody, hslots⟩
        exact shows_of_frame hhelpers hbody hslots
      · exact ⟨Nat.zero_add _, rfl, rfl⟩

/-- A page with two layouts. Each of the upper two templates keeps something for a block of the
layouts below, and the page keeps it twice. -/
theorem renderTemplate_layers_three :
    let named (name : String) (arguments : List Argument) : Invocation :=
      { name, params := arguments, hash := [], span := default }
    let extending (layout : String) : Node := .expression (named "!<" [.string layout]) true
    let keeping (text : String) : Node :=
      .block (named "contentFor" [.string "a"]) [.text text] none
    let slot : Node := .block (named "block" [.string "a"]) [.text "d"] none
    let body : Node := .expression (named "body" []) false
    let index : Template :=
      { name := "index", body := [extending "mid", keeping "1", keeping "2", .text "P", slot] }
    let mid : Template := { name := "mid", body := [extending "base", keeping "3", body, slot] }
    let base : Template := { name := "base", body := [.text "<", body, slot, .text ">"] }
    let page : Page :=
      { bare with theme := (Theme.empty.insert mid).insert base, config := { maxDepth := 3 } }
    page.renderTemplate .root index = .ok { html := "<Pd22>", diagnostics := [] } ∧
      ∃ layers : List Effects, layers.length = 3 ∧ (Handover.of layers).body = "<Pd22>" ∧
        page.Throughout (fun _ st => page.Shows (layers.take 2) st) base.body
          (layerState .root (layers.take 2) base) := by
  intro named extending keeping slot body index mid base page
  have hfindMid : page.theme.find? "mid" = some mid := by
    dsimp only [page, base, mid, index, slot, body, extending, keeping, named]
    rfl
  have hfindBase : page.theme.find? "base" = some base := by
    dsimp only [page, base, mid, index, slot, body, extending, keeping, named]
    rfl
  have hbase : page.theme.chainFrom 3 0 ["index", "mid"] base = .ok [base] := by
    rw [Theme.chainFrom]
    rfl
  have hmid : page.theme.chainFrom 3 1 ["index"] mid = .ok [mid, base] := by
    have hmid : page.theme.chainFrom 3 1 ["index"] mid =
        (do return mid :: (← page.theme.chainFrom 3 0 ["index", "mid"] base)) :=
      page.theme.chainFrom_extends rfl hfindBase rfl
    rw [hbase] at hmid
    exact hmid
  have hchain : page.theme.layoutChain index page.config.maxDepth = .ok [index, mid, base] := by
    have hindex : page.theme.chainFrom 3 2 [] index =
        (do return index :: (← page.theme.chainFrom 3 1 ["index"] mid)) :=
      page.theme.chainFrom_extends rfl hfindMid rfl
    rw [hmid] at hindex
    exact hindex
  have hout : page.renderTemplate .root index = .ok { html := "<Pd22>", diagnostics := [] } := by
    rw [renderTemplate, hchain]
    rfl
  obtain ⟨chain, layers, hchain', -, hlength, hhtml, -, hlayers⟩ :=
    renderTemplate_layers page rfl .root index hout
  obtain rfl : [index, mid, base] = chain := by
    rw [hchain] at hchain'
    cases hchain'
    rfl
  obtain ⟨e, -, -, -, hshows⟩ := hlayers 2 base rfl
  exact ⟨hout, layers, hlength, hhtml.symm, hshows⟩

end Page

end BlogTheme
