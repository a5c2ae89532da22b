import BlogTheme.Engine.Basic
import BlogTheme.Proofs.Render.Layouts

/-!
# Raising the limit of the depth

What is planned for an invocation does not depend on how deep partials may nest
(`Page.planExpression_withLimit`, `Page.planBlock_withLimit`): the limit is looked at where a
partial is included and where a layout is followed, and what exceeds it is fatal, so no
diagnostic tells of it. With a higher limit nodes come to the same wherever they have come to
something (`Page.nodesEffects_withLimit`, by induction on the nodes), partials do so by
induction on the levels left (`Page.partialEffects_withLimit`), and layout chains by induction
on the layouts for which there is room (`Theme.chainFrom_limit`). So a page that can be rendered
stays as it is (`Engine.render_withLimit`).
-/

namespace BlogTheme

open Template (Node)

/-- With room for more layouts the same chain is followed. -/
theorem Theme.chainFrom_limit (theme : Theme) (limit limit' : Nat) {room room' : Nat}
    (h : room ≤ room') (seen : List String) (t : Template) :
    Follows Eq (theme.chainFrom limit room seen t) (theme.chainFrom limit' room' seen t) := by
  induction room generalizing room' seen t with
  | zero =>
    unfold chainFrom
    refine (Follows.of_eq rfl).bind fun parent? _ heq => ?_
    subst heq
    cases parent? with
    | none => exact .ok rfl
    | some parent => exact .abort rfl _
  | succ room ih =>
    obtain _ | room' := room'
    · cases h
    unfold chainFrom
    refine (Follows.of_eq rfl).bind fun parent? _ heq => ?_
    subst heq
    cases parent? with
    | none => exact .ok rfl
    | some parent =>
      simp only
      cases theme.find? parent with
      | none => exact .error _
      | some layout =>
        simp only
        split
        · exact .error _
        · refine (ih (Nat.le_of_succ_le_succ h) _ layout).bind fun chain _ heq => ?_
          exact .ok (congrArg (t :: ·) heq)

theorem Theme.layoutChain_limit (theme : Theme) {limit limit' : Nat} (h : limit ≤ limit')
    (t : Template) : Follows Eq (theme.layoutChain t limit) (theme.layoutChain t limit') :=
  theme.chainFrom_limit limit limit' (Nat.sub_le_sub_right h 1) [] t

namespace Page

variable (page : Page)

/-- The page with another limit of the depth. -/
def withLimit (limit : Nat) : Page :=
  { page with config := { page.config with maxDepth := limit } }

/-- What is planned for an expression is planned with any limit. -/
theorem planExpression_withLimit (limit : Nat) (f : Frame) (i : Template.Invocation) :
    (page.withLimit limit).planExpression f i = page.planExpression f i := rfl

/-- What is planned for a block is planned with any limit. -/
theorem planBlock_withLimit (limit : Nat) (f : Frame) (i : Template.Invocation) :
    (page.withLimit limit).planBlock f i = page.planBlock f i := rfl

section

variable {page}

/-- Carrying out a plan comes to the same where the body, the inverse and partials do. -/
theorem carryOut_limit {f : Frame} {escaped : Bool}
    {body body' : Frame → Except ThemeError Effects} {inverse inverse' : Except ThemeError Effects}
    {partials partials' : Template → Except ThemeError Effects}
    (hbody : ∀ place, Follows Eq (body place) (body' place))
    (hinverse : Follows Eq inverse inverse')
    (hpartials : ∀ t, Follows Eq (partials t) (partials' t)) (plan : Plan) :
    Follows Eq (plan.carryOut f escaped body inverse partials)
      (plan.carryOut f escaped body' inverse' partials') := by
  cases plan with
  | write v => exact .ok rfl
  | body places =>
    have hplaces : List.Forall₂ Eq places places := List.forall₂_same.2 fun _ _ => rfl
    have hbodies : Follows (List.Forall₂ Eq) (places.mapM body) (places.mapM body') :=
      Follows.mapM hplaces fun place _ heq => heq ▸ hbody place
    refine hbodies.bind fun es es' hes => .ok ?_
    rw [List.forall₂_eq_eq_eq] at hes
    exact congrArg Effects.concat hes
  | inverse => exact hinverse
  | keep name => exact (hbody f).bind fun e _ heq => .ok (congrArg (Effects.keep · name) heq)
  | insert t => exact hpartials t

theorem invocationEffects_limit (f : Frame) (i : Template.Invocation)
    {out out' : Plan → Except ThemeError Effects} (hout : ∀ plan, Follows Eq (out plan) (out' plan))
    (plan? : Except ThemeError Plan) :
    Follows Eq (invocationEffects f i out plan?) (invocationEffects f i out' plan?) := by
  cases plan? with
  | error e => exact .of_eq rfl
  | ok plan => exact hout plan

end

/-- Partials come to the same at any place where the first come to something. -/
def PartialEffects.Extends (partials partials' : PartialEffects) : Prop :=
  ∀ f t, Follows Eq (partials f t) (partials' f t)

section

variable {partials partials' : PartialEffects}

mutual

theorem nodeEffects_withLimit (hp : partials.Extends partials') (limit : Nat) (f : Frame) :
    (node : Node) → Follows Eq (page.nodeEffects partials f node)
      ((page.withLimit limit).nodeEffects partials' f node)
  | .text content => by
    rw [nodeEffects, nodeEffects]
    exact .ok rfl
  | .expression i escaped => by
    have hnone : Follows Eq (.ok Effects.empty) (.ok Effects.empty) := .ok rfl
    rw [nodeEffects, nodeEffects, planExpression_withLimit]
    refine invocationEffects_limit f i (fun plan => ?_) _
    exact carryOut_limit (fun _ => hnone) hnone (hp f) plan
  | .block i body inverse => by
    have hinverse := inverseEffects_withLimit hp limit f.enterBlock inverse
    rw [nodeEffects, nodeEffects, planBlock_withLimit]
    refine invocationEffects_limit f i (fun plan => ?_) _
    refine carryOut_limit (fun place => ?_) hinverse (hp f.enterBlock) plan
    exact nodesEffects_withLimit hp limit place body

theorem inverseEffects_withLimit (hp : partials.Extends partials') (limit : Nat) (f : Frame) :
    (inverse : Option (List Node)) → Follows Eq (page.inverseEffects partials f inverse)
      ((page.withLimit limit).inverseEffects partials' f inverse)
  | none => by
    rw [inverseEffects, inverseEffects]
    exact .ok rfl
  | some nodes => by
    rw [inverseEffects, inverseEffects]
    exact nodesEffects_withLimit hp limit f nodes

/-- Nodes come to the same with another limit, if the partials that they include do. -/
theorem nodesEffects_withLimit (hp : partials.Extends partials') (limit : Nat) (f : Frame) :
    (nodes : List Node) → Follows Eq (page.nodesEffects partials f nodes)
      ((page.withLimit limit).nodesEffects partials' f nodes)
  | [] => by
    rw [nodesEffects, nodesEffects]
    exact .ok rfl
  | node :: nodes => by
    have hnode := nodeEffects_withLimit hp limit f node
    have hnodes := nodesEffects_withLimit hp limit f nodes
    rw [nodesEffects, nodesEffects]
    refine hnode.bind fun first _ hfirst => hnodes.bind fun rest _ hrest => .ok ?_
    rw [hfirst, hrest]

end

end

/-- With more levels left partials come to the same. -/
theorem partialEffects_withLimit (limit : Nat) {levels levels' : Nat} (h : levels ≤ levels') :
    PartialEffects.Extends (page.partialEffects levels)
      ((page.withLimit limit).partialEffects levels') := by
  induction levels generalizing levels' with
  | zero => exact fun f t => .abort rfl _
  | succ levels ih =>
    obtain _ | levels' := levels'
    · cases h
    intro f t
    exact page.nodesEffects_withLimit (ih (Nat.le_of_succ_le_succ h)) limit _ t.body

section

variable {page} {limit : Nat} (h : page.config.maxDepth ≤ limit)
include h

/-- With a higher limit nodes come to the same at any place. -/
theorem effects_withLimit (f : Frame) (nodes : List Node) :
    Follows Eq (page.effects f nodes) ((page.withLimit limit).effects f nodes) :=
  page.nodesEffects_withLimit (page.partialEffects_withLimit limit (Nat.sub_le_sub_right h f.depth))
    limit f nodes

/-- With a higher limit the templates of a layout chain hand on the same. -/
theorem chainEffects_withLimit (root : Scope) (chain : List Template) (handed : Handover) :
    Follows Eq (page.chainEffects root handed chain)
      ((page.withLimit limit).chainEffects root handed chain) := by
  induction chain generalizing handed with
  | nil => exact .ok rfl
  | cons t chain ih =>
    rw [chainEffects, chainEffects]
    refine (effects_withLimit h (topFrame root handed t) t.body).bind fun e _ heq => ?_
    subst heq
    exact ih (handed.next e)

/-- With a higher limit a template is rendered as before. -/
theorem renderTemplate_withLimit (root : Scope) (t : Template) :
    Follows Eq (page.renderTemplate root t) ((page.withLimit limit).renderTemplate root t) := by
  rw [renderTemplate_eq, renderTemplate_eq]
  refine (page.theme.layoutChain_limit h t).bind fun chain _ heq => ?_
  subst heq
  refine (chainEffects_withLimit h root chain {}).bind fun last _ heq => ?_
  subst heq
  exact .ok rfl

end

end Page

namespace Engine

/-- A page that an engine can render, of a name, from a scope or of a template that has been
parsed, is rendered with a higher limit of the depth to the same text and with the same
diagnostics. -/
theorem render_withLimit (e : Engine) (theme : Theme) (request : Request) {limit : Nat}
    (h : e.config.maxDepth ≤ limit) :
    let raised : Engine := { e with config := { e.config with maxDepth := limit } }
    (∀ name out, e.render theme name request = .ok out →
      raised.render theme name request = .ok out) ∧
    (∀ name root out, e.renderFrom theme name request root = .ok out →
      raised.renderFrom theme name request root = .ok out) ∧
    ∀ t out, e.renderTemplate theme t request = .ok out →
      raised.renderTemplate theme t request = .ok out := by
  intro raised
  have htemplate (root : Scope) (t : Template) (out : Output)
      (hout : (e.page theme request).renderTemplate root t = .ok out) :
      (raised.page theme request).renderTemplate root t = .ok out := by
    have hpage : (e.page theme request).config.maxDepth ≤ limit := h
    have hfollows := Page.renderTemplate_withLimit hpage root t
    rw [hout] at hfollows
    obtain ⟨_, hraised, rfl⟩ := hfollows
    exact hraised
  have hfrom (name : String) (root : Scope) (out : Output)
      (hout : e.renderFrom theme name request root = .ok out) :
      raised.renderFrom theme name request root = .ok out := by
    unfold renderFrom at hout ⊢
    cases hfind : theme.find? (Template.canonicalName name) with
    | none =>
      simp only [hfind] at hout
      cases hout
    | some t =>
      simp only [hfind] at hout ⊢
      exact htemplate root t out hout
  exact ⟨fun name => hfrom name .root, hfrom, htemplate .root⟩

/-- An expression with positional arguments. -/
def writing (name : String) (arguments : List Template.Argument) : Node :=
  .expression { name, params := arguments, hash := [], span := default } true

/-- The layout of `indexOfTwo`. -/
def baseOfTwo : Template :=
  { name := "base", body := [.text "<", writing "body" [], .text ">"] }

/-- A page with a layout and a partial, in which there is another. -/
def indexOfTwo : Template :=
  { name := "index", body := [writing "!<" [.string "base"], writing ">" [.string "outer"]] }

/-- The theme of `indexOfTwo`. The second expression of the inner partial names nothing. -/
def themeOfTwo : Theme :=
  let inner : Template :=
    { name := "partials/inner", body := [writing "kind" [], writing "nope" []] }
  let outer : Template := { name := "partials/outer", body := [writing ">" [.string "inner"]] }
  (((Theme.empty.insert inner).insert outer).insert baseOfTwo).insert indexOfTwo

/-- An engine in which layouts and partials may nest as deeply as in `themeOfTwo`. -/
def ofTwo : Engine :=
  { resolver := Store.empty.resolver, cache := .never, config := { maxDepth := 2 } }

/-- A scope that knows the name that the inner partial writes. -/
def rootOfTwo : Scope := { subject := .absent, hash := [("kind", .text "&")] }

/-- What `indexOfTwo` is rendered to. -/
def outputOfTwo : Output :=
  { html := "<&amp;>"
    diagnostics :=
      [{ kind := .unresolvedPath, template := "partials/inner", message := "Unresolved path: nope"
         line := 0 }] }

/-- A page whose partials and layouts are nested as deeply as the limit allows. -/
theorem render_withLimit_nested :
    ofTwo.config.maxDepth ≤ 7 ∧
      ofTwo.renderFrom themeOfTwo "./index.hbs" default rootOfTwo = .ok outputOfTwo ∧
      { ofTwo with config := { ofTwo.config with maxDepth := 7 } }.renderFrom themeOfTwo
        "./index.hbs" default rootOfTwo = .ok outputOfTwo := by
  have hbase : themeOfTwo.chainFrom 2 0 ["index"] baseOfTwo = .ok [baseOfTwo] := by
    rw [Theme.chainFrom]
    rfl
  have hchain : themeOfTwo.layoutChain indexOfTwo 2 = .ok [indexOfTwo, baseOfTwo] := by
    have hindex : themeOfTwo.chainFrom 2 1 [] indexOfTwo =
        (do return indexOfTwo :: (← themeOfTwo.chainFrom 2 0 ["index"] baseOfTwo)) :=
      themeOfTwo.chainFrom_extends rfl rfl rfl
    rw [hbase] at hindex
    exact hindex
  have hout : ofTwo.renderFrom themeOfTwo "./index.hbs" default rootOfTwo = .ok outputOfTwo := by
    show (ofTwo.page themeOfTwo default).renderTemplate rootOfTwo indexOfTwo = .ok outputOfTwo
    rw [Page.renderTemplate, show (ofTwo.page themeOfTwo default).theme.layoutChain indexOfTwo
      (ofTwo.page themeOfTwo default).config.maxDepth = .ok [indexOfTwo, baseOfTwo] from hchain]
    rfl
  have hlimit : ofTwo.config.maxDepth ≤ 7 := by decide
  have hraised := (render_withLimit ofTwo themeOfTwo default hlimit).2.1
  exact ⟨hlimit, hout, hraised "./index.hbs" rootOfTwo outputOfTwo hout⟩

end Engine

end BlogTheme
