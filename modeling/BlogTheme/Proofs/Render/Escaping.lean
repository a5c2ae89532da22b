import BlogTheme.Engine.Basic
import BlogTheme.Proofs.Render.EscapedPlan
import BlogTheme.Proofs.Render.Pages

/-!
# Escaping is complete

Plain templates write no markup, whatever the request holds
(`Engine.render_isEscaped`). The invariant is that places are escaped: what is planned at
such places renders the body and partials at such places only, so that by induction
nodes leave escaped effects (`Page.nodesEffects_yields`). Effects are all that a layout
sees of the templates before it (`Page.chainEffects_yields`).
-/

namespace BlogTheme

open Template (Invocation Node)

/-- What is written and what is kept is escaped. -/
structure Effects.IsEscaped (e : Effects) : Prop where
  html : Html.IsEscaped e.html
  kept : ∀ entry ∈ e.kept, Html.IsEscaped entry.2

namespace Effects

theorem isEscaped_empty : empty.IsEscaped :=
  ⟨Html.isEscaped_empty, nofun⟩

theorem isEscaped_ofHtml {s : String} (hs : Html.IsEscaped s) : (ofHtml s).IsEscaped :=
  ⟨hs, nofun⟩

theorem isEscaped_ofDiagnostic (d : Diagnostic) : (ofDiagnostic d).IsEscaped :=
  ⟨Html.isEscaped_empty, nofun⟩

theorem IsEscaped.append {a b : Effects} (ha : a.IsEscaped) (hb : b.IsEscaped) :
    (a ++ b).IsEscaped :=
  ⟨ha.html.append hb.html, List.forall_mem_append.2 ⟨ha.kept, hb.kept⟩⟩

theorem IsEscaped.keep {e : Effects} (he : e.IsEscaped) (name : String) :
    (e.keep name).IsEscaped :=
  ⟨Html.isEscaped_empty,
    List.forall_mem_append.2 ⟨he.kept, List.forall_mem_singleton.2 he.html⟩⟩

theorem isEscaped_concat {es : List Effects} (h : ∀ e ∈ es, e.IsEscaped) :
    (concat es).IsEscaped := by
  induction es with
  | nil => exact isEscaped_empty
  | cons e es ih =>
    obtain ⟨he, hes⟩ := List.forall_mem_cons.1 h
    exact he.append (ih hes)

end Effects

/-! ## Nodes -/

namespace Page

variable {page : Page} {f : Frame}

theorem carryOut_yields (hf : f.IsEscaped) {body : Frame → Except ThemeError Effects}
    {inverse : Except ThemeError Effects} {partials : Template → Except ThemeError Effects}
    (hbody : ∀ place, place.IsEscaped → Yields Effects.IsEscaped (body place))
    (hinverse : Yields Effects.IsEscaped inverse)
    (hpartials : ∀ t, Template.allPlain t.body → Yields Effects.IsEscaped (partials t))
    {plan : Plan} (hplan : plan.IsEscaped) :
    Yields Effects.IsEscaped (plan.carryOut f true body inverse partials) := by
  cases plan with
  | write v => exact .ok (Effects.isEscaped_ofHtml (hf.write hplan))
  | body places =>
    have hbodies : Yields (fun es => ∀ e ∈ es, Effects.IsEscaped e) (places.mapM body) :=
      Ends.mapM fun place hplace => hbody place (hplan place hplace)
    exact hbodies.bind fun es hes => .ok (Effects.isEscaped_concat hes)
  | inverse => exact hinverse
  | keep name => exact (hbody f hf).bind fun _ he => .ok (he.keep name)
  | insert t => exact hpartials t hplan

theorem faultEffects_yields (i : Invocation) (e : ThemeError) :
    Yields Effects.IsEscaped (faultEffects f i e) := by
  unfold faultEffects
  split
  · exact .ok (Effects.isEscaped_ofDiagnostic _)
  · exact .error trivial

theorem invocationEffects_yields (i : Invocation) {out : Plan → Except ThemeError Effects}
    {plan? : Except ThemeError Plan} (hplan : Yields Plan.IsEscaped plan?)
    (hout : ∀ plan, plan.IsEscaped → Yields Effects.IsEscaped (out plan)) :
    Yields Effects.IsEscaped (invocationEffects f i out plan?) := by
  cases plan? with
  | error e => exact faultEffects_yields i e
  | ok plan => exact hout plan hplan

/-- Plain partials that are included at escaped places leave escaped effects. -/
def PartialEffects.AreEscaped (partials : PartialEffects) : Prop :=
  ∀ f t, f.IsEscaped → Template.allPlain t.body → Yields Effects.IsEscaped (partials f t)

variable {partials : PartialEffects}

-- Bodies are rendered at other places than their blocks, so the place is not fixed.
mutual

theorem nodeEffects_yields (hhelpers : page.helpers = .builtin) (htheme : page.theme.isPlain)
    (hp : partials.AreEscaped) {f : Frame} (hf : f.IsEscaped) : (node : Node) → node.isPlain →
    Yields Effects.IsEscaped (page.nodeEffects partials f node)
  | .text content, hnode => by
    rw [nodeEffects]
    simp only [Node.isPlain, List.all_eq_true, List.contains_eq_mem, Bool.not_eq_true',
      decide_eq_false_iff_not] at hnode
    exact .ok (Effects.isEscaped_ofHtml (Html.escapedChars_of_forall hnode))
  | .expression i escaped, hnode => by
    simp only [Node.isPlain, Bool.and_eq_true] at hnode
    obtain ⟨⟨rfl, hi⟩, hwidget⟩ := hnode
    have hplans := planExpression_yields hhelpers htheme hf hi hwidget
    have hnone : Yields Effects.IsEscaped (.ok .empty) := .ok Effects.isEscaped_empty
    rw [nodeEffects]
    refine invocationEffects_yields i hplans fun plan hplan => ?_
    exact carryOut_yields hf (fun _ _ => hnone) hnone (fun t => hp f t hf) hplan
  | .block i body inverse, hnode => by
    simp only [Node.isPlain, Bool.and_eq_true] at hnode
    obtain ⟨⟨hi, hbody⟩, hinverse⟩ := hnode
    have hinside := hf.enterBlock
    have hplans := planBlock_yields hhelpers htheme hinside hi
    have hinverse := inverseEffects_yields hhelpers htheme hp hinside inverse hinverse
    rw [nodeEffects]
    refine invocationEffects_yields i hplans fun plan hplan => ?_
    refine carryOut_yields hinside (fun place hplace => ?_) hinverse (fun t => hp _ t hinside) hplan
    exact nodesEffects_yields hhelpers htheme hp hplace body hbody

theorem inverseEffects_yields (hhelpers : page.helpers = .builtin) (htheme : page.theme.isPlain)
    (hp : partials.AreEscaped) {f : Frame} (hf : f.IsEscaped) : (inverse : Option (List Node)) →
    Template.inversePlain inverse →
    Yields Effects.IsEscaped (page.inverseEffects partials f inverse)
  | none, _ => by
    rw [inverseEffects]
    exact .ok Effects.isEscaped_empty
  | some nodes, h => by
    rw [inverseEffects]
    exact nodesEffects_yields hhelpers htheme hp hf nodes h

/-- Nodes of plain templates leave escaped effects. -/
theorem nodesEffects_yields (hhelpers : page.helpers = .builtin) (htheme : page.theme.isPlain)
    (hp : partials.AreEscaped) {f : Frame} (hf : f.IsEscaped) : (nodes : List Node) →
    Template.allPlain nodes → Yields Effects.IsEscaped (page.nodesEffects partials f nodes)
  | [], _ => by
    rw [nodesEffects]
    exact .ok Effects.isEscaped_empty
  | node :: nodes, h => by
    simp only [Template.allPlain, Bool.and_eq_true] at h
    obtain ⟨hnode, hnodes⟩ := h
    have hfirst := nodeEffects_yields hhelpers htheme hp hf node hnode
    have hrest := nodesEffects_yields hhelpers htheme hp hf nodes hnodes
    rw [nodesEffects]
    exact hfirst.bind fun first hfirst => hrest.bind fun rest hrest => .ok (hfirst.append hrest)

end

theorem partialEffects_areEscaped (hhelpers : page.helpers = .builtin)
    (htheme : page.theme.isPlain) (levels : Nat) :
    PartialEffects.AreEscaped (page.partialEffects levels) := by
  induction levels with
  | zero => exact fun _ _ _ _ => .error trivial
  | succ levels ih =>
    intro f t hf ht
    have hinside := hf.enterPartial t.name
    exact nodesEffects_yields hhelpers htheme ih hinside t.body ht

/-! ## Layout chains -/

end Page

/-- The page so far and what was kept for layouts are escaped. -/
structure Handover.IsEscaped (h : Handover) : Prop where
  body : Html.IsEscaped h.body
  slots : ∀ entry ∈ h.slots, Html.IsEscaped entry.2

theorem Handover.IsEscaped.next {h : Handover} (hh : h.IsEscaped) {e : Effects}
    (he : e.IsEscaped) : (h.next e).IsEscaped where
  body := he.html
  slots := List.forall_mem_append.2
    ⟨hh.slots, fun entry hentry => he.kept entry (List.mem_reverse.1 hentry)⟩

namespace Page

variable {page : Page}

theorem topFrame_isEscaped {root : Scope} (hroot : root.IsEscaped) {h : Handover}
    (hh : h.IsEscaped) (t : Template) : (topFrame root h t).IsEscaped :=
  ⟨rfl, hh.body, hh.slots, List.forall_mem_singleton.2 hroot⟩

theorem chainEffects_yields (hhelpers : page.helpers = .builtin) (htheme : page.theme.isPlain)
    {root : Scope} (hroot : root.IsEscaped) {chain : List Template}
    (hchain : ∀ t ∈ chain, Template.allPlain t.body) {h : Handover} (hh : h.IsEscaped) :
    Yields Handover.IsEscaped (page.chainEffects root h chain) := by
  induction chain generalizing h with
  | nil => exact .ok hh
  | cons t chain ih =>
    obtain ⟨ht, hchain⟩ := List.forall_mem_cons.1 hchain
    have heffects : Yields Effects.IsEscaped (page.effects (topFrame root h t) t.body) :=
      nodesEffects_yields hhelpers htheme (partialEffects_areEscaped hhelpers htheme _)
        (topFrame_isEscaped hroot hh t) t.body ht
    exact heffects.bind fun e he => ih hchain (hh.next he)

end Page

/-- The layouts of a template are those of the theme. -/
theorem Theme.chainFrom_yields {theme : Theme} (htheme : theme.isPlain) (limit room : Nat)
    (seen : List String) {t : Template} (ht : Template.allPlain t.body) :
    Yields (fun chain => ∀ t ∈ chain, Template.allPlain t.body)
      (theme.chainFrom limit room seen t) := by
  induction room generalizing seen t with
  | zero =>
    unfold chainFrom
    refine .of_bind fun parent? => ?_
    cases parent? with
    | none => exact .ok (List.forall_mem_singleton.2 ht)
    | some parent => exact .error trivial
  | succ room ih =>
    unfold chainFrom
    refine .of_bind fun parent? => ?_
    cases parent? with
    | none => exact .ok (List.forall_mem_singleton.2 ht)
    | some parent =>
      simp only
      cases hfind : theme.find? parent with
      | none => exact .error trivial
      | some layout =>
        simp only
        split
        · exact .error trivial
        · have hlayout := Theme.isPlain_of_find? htheme hfind
          refine (ih _ hlayout).bind fun chain hchain => .ok ?_
          show ∀ t' ∈ t :: chain, Template.allPlain t'.body
          exact List.forall_mem_cons.2 ⟨ht, hchain⟩

/-- A plain template with its layouts writes escaped text. -/
theorem Page.renderTemplate_yields (page : Page) (hhelpers : page.helpers = .builtin)
    (htheme : page.theme.isPlain) {root : Scope} (hroot : root.IsEscaped) {t : Template}
    (ht : Template.allPlain t.body) :
    Yields (fun out => Html.IsEscaped out.html) (page.renderTemplate root t) := by
  have hempty : Handover.IsEscaped {} := ⟨Html.isEscaped_empty, fun _ => nofun⟩
  rw [renderTemplate_eq]
  refine (Theme.chainFrom_yields htheme _ _ [] ht).bind fun chain hchain => ?_
  refine (chainEffects_yields hhelpers htheme hroot hchain hempty).bind fun h hh => ?_
  exact .ok hh.body

/-- A page of a plain theme holds no markup, whatever the request and the arguments of
its templates hold. -/
theorem Engine.render_isEscaped (engine : Engine) (hhelpers : engine.helpers = .builtin)
    (theme : Theme) (htheme : theme.isPlain) (name : String) (request : Request) {out : Output}
    (h : engine.render theme name request = .ok out) : Html.IsEscaped out.html := by
  have hroot : Scope.root.IsEscaped := ⟨trivial, fun _ => nofun⟩
  unfold render renderFrom at h
  cases hfind : theme.find? (Template.canonicalName name) with
  | none =>
    simp only [hfind] at h
    cases h
  | some t =>
    simp only [hfind] at h
    have ht := Theme.isPlain_of_find? htheme hfind
    have hpage := (engine.page theme request).renderTemplate_yields hhelpers htheme hroot ht
    exact hpage.result h

/-- A title and an argument with delimiters are escaped in a loop. -/
theorem Engine.render_isEscaped_forEach :
    let engine := Engine.ofConfig Store.empty.resolver {}
    let write (name : String) : Node :=
      .expression { name, params := [], hash := [], span := default } true
    let loop : Invocation :=
      { name := "foreach"
        params := [.path "posts"]
        hash := [("mark", .string "'")]
        span := default }
    let body : List Node := [write "title", write "mark"]
    let home : Template := { name := "home", body := [.block loop body none] }
    let theme : Theme := Theme.empty.insert home
    let request : Request :=
      { (default : Request) with posts := [{ (default : Post) with title := "<b>" }] }
    engine.render theme "home" request = .ok { html := "&lt;b&gt;&#39;", diagnostics := [] } ∧
      Html.IsEscaped "&lt;b&gt;&#39;" := by
  dsimp only
  refine ⟨?hrender, render_isEscaped _ rfl _ rfl "home" _ ?hrender⟩
  show Page.renderTemplate _ _ _ = _
  unfold Page.renderTemplate Theme.layoutChain Theme.chainFrom
  rfl

end BlogTheme
