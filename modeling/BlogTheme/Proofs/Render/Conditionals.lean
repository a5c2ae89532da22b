import BlogTheme.Proofs.Render.Locating

/-!
# Conditionals

`if` and `unless` are one helper with its branches exchanged (`Page.renderNode_complement`). A
conditional with the same nodes in both branches renders these nodes inside of a block, and how many
blocks surround nodes matters to layout directives alone: plans do not depend on it
(`Page.planExpression_inBlocks`, `Page.planBlock_inBlocks`), nor do the effects of nodes that come
to no directive (`Page.effects_inBlocks`, by induction on the nodes). So such a conditional does
what the nodes do in its place (`Page.render_conditional`).
-/

namespace BlogTheme

open Template (Argument Invocation Node)

/-- The place surrounded by so many blocks. -/
def Frame.inBlocks (f : Frame) (n : Nat) : Frame :=
  { f with blocks := n }

/-- The same plan for other places. -/
def Plan.mapPlaces (move : Frame → Frame) : Plan → Plan
  | .body places => .body (places.map move)
  | plan => plan

/-- The invocation is no directive and has none among its arguments. -/
def Template.Invocation.AvoidsDirective (i : Invocation) : Prop :=
  i.name ≠ extendsName ∧ (∀ a ∈ i.params, a ≠ .path extendsName) ∧
    ∀ entry ∈ i.hash, entry.2 ≠ .path extendsName

theorem Helpers.name_of_layoutDirective {name : String}
    (h : builtin.find? name = some (.reader .layoutDirective)) : name = Template.extendsName := by
  have hnames : ∀ entry ∈ builtin, entry.2 = .reader .layoutDirective →
      entry.1 = Template.extendsName := by decide
  exact hnames _ (mem_of_lookup h) rfl

/-! ## Reading inside of blocks -/

section

variable {page : Page} {f : Frame} {n : Nat}

/-- Only a directive asks how many blocks surround it. -/
theorem Reader.read_inBlocks {r : Reader} (hr : r ≠ .layoutDirective) (c : ValuedCall) :
    r.read page (f.inBlocks n) c = r.read page f c := by
  cases r <;> first | exact absurd rfl hr | rfl

namespace Page

theorem planItems_inBlocks (c : ValuedCall) (items : List Value) :
    planItems (f.inBlocks n) c items =
      (planItems f c items).map (Plan.mapPlaces (Frame.inBlocks · n)) := by
  unfold planItems
  cases c.limited items with
  | error e => rfl
  | ok items =>
    simp only [bind, Except.bind]
    split
    · rfl
    · cases c.givens with
      | error e => rfl
      | ok hash =>
        refine congrArg (fun places => Except.ok (Plan.body places)) ?_
        rw [List.map_map]
        rfl

theorem planReading_inBlocks (c : ValuedCall) (r : Reading) :
    planReading (f.inBlocks n) c r =
      (planReading f c r).map (Plan.mapPlaces (Frame.inBlocks · n)) := by
  cases r with
  | value v => rfl
  | flag b => cases b <;> rfl
  | entity v =>
    simp only [planReading, planEntity]
    split
    · rfl
    · cases c.givens <;> rfl
  | list v => exact planItems_inBlocks c _

theorem planReaderBlock_inBlocks {r : Reader} (hr : r ≠ .layoutDirective) (c : ValuedCall) :
    page.planReaderBlock (f.inBlocks n) c r =
      (page.planReaderBlock f c r).map (Plan.mapPlaces (Frame.inBlocks · n)) := by
  by_cases hunescaped : r = .unescaped
  · subst hunescaped
    rfl
  · rw [planReaderBlock_eq hunescaped, planReaderBlock_eq hunescaped, Reader.read_inBlocks hr]
    cases r.read page f c with
    | error e => rfl
    | ok reading => exact planReading_inBlocks c reading

theorem planPartial_inBlocks (name : String) :
    page.planPartial name =
      (page.planPartial name).map (Plan.mapPlaces (Frame.inBlocks · n)) := by
  unfold planPartial
  cases page.theme.findPartial? name <;> rfl

theorem planBuilderBlock_inBlocks (b : Builder) (c : ValuedCall) :
    page.planBuilderBlock (f.inBlocks n) c b =
      (page.planBuilderBlock f c b).map (Plan.mapPlaces (Frame.inBlocks · n)) := by
  cases b with
  | forEach =>
    simp only [planBuilderBlock]
    cases c.loopItems with
    | error e => rfl
    | ok items => exact planItems_inBlocks c items
  | contentFor =>
    simp only [planBuilderBlock]
    cases c.nameArgument <;> rfl
  | block =>
    simp only [planBuilderBlock]
    cases c.nameArgument with
    | error e => rfl
    | ok name =>
      have hslots : (f.inBlocks n).slots = f.slots := rfl
      simp only [bind, Except.bind, hslots]
      cases f.slots.lookup name <;> rfl
  | partialOf =>
    simp only [planBuilderBlock]
    cases c.nameArgument with
    | error e => rfl
    | ok name => exact planPartial_inBlocks name

theorem planReader_inBlocks {r : Reader} (hr : r ≠ .layoutDirective) (c : ValuedCall) :
    page.planReader (f.inBlocks n) c r = page.planReader f c r := by
  cases r with
  | postTags | navigation | pagination => rfl
  | _ =>
    simp only [planReader]
    rw [Reader.read_inBlocks hr]

/-! ## Plans inside of blocks -/

variable (hhelpers : page.helpers = .builtin)
include hhelpers

theorem valueAt_inBlocks {a : Argument} (ha : a ≠ .path Template.extendsName) :
    page.valueAt (f.inBlocks n) a = page.valueAt f a := by
  cases a with
  | path p =>
    simp only [valueAt]
    cases hfind : page.helpers.find? p with
    | none => rfl
    | some h =>
      cases h with
      | reader r =>
        have hr : r ≠ .layoutDirective := by
          rintro rfl
          rw [hhelpers] at hfind
          exact ha (congrArg Argument.path (Helpers.name_of_layoutDirective hfind))
        simp only
        rw [Reader.read_inBlocks hr]
      | builder b => rfl
  | _ => rfl

variable {i : Invocation} (hi : i.AvoidsDirective)
include hi

theorem callAt_inBlocks : page.callAt (f.inBlocks n) i = page.callAt f i := by
  have hgiven {a : Argument} (ha : a ≠ .path Template.extendsName) :
      page.givenAt (f.inBlocks n) a = page.givenAt f a :=
    congrArg (Given.mk a) (valueAt_inBlocks hhelpers ha)
  have hparams : i.params.map (page.givenAt (f.inBlocks n)) = i.params.map (page.givenAt f) :=
    List.map_congr_left fun a ha => hgiven (hi.2.1 a ha)
  have hhash : (i.hash.map fun entry => (entry.1, page.givenAt (f.inBlocks n) entry.2)) =
      i.hash.map fun entry => (entry.1, page.givenAt f entry.2) :=
    List.map_congr_left fun entry hentry =>
      congrArg (Prod.mk entry.1) (hgiven (hi.2.2 entry hentry))
  rw [callAt, hparams, hhash, callAt]

theorem ne_layoutDirective {r : Reader} (hfind : page.helpers.find? i.name = some (.reader r)) :
    r ≠ .layoutDirective := by
  rintro rfl
  rw [hhelpers] at hfind
  exact hi.1 (Helpers.name_of_layoutDirective hfind)

/-- What is planned for an expression does not depend on the blocks around it. -/
theorem planExpression_inBlocks :
    page.planExpression (f.inBlocks n) i = page.planExpression f i := by
  unfold planExpression
  rw [callAt_inBlocks hhelpers hi]
  cases hfind : page.helpers.find? i.name with
  | none => rfl
  | some h =>
    cases h with
    | reader r => exact planReader_inBlocks (ne_layoutDirective hhelpers hi hfind) _
    | builder b => cases b <;> rfl

/-- What is planned for a block does not depend on the blocks around it, but for the places of its
body, which lie in as many. -/
theorem planBlock_inBlocks :
    page.planBlock (f.inBlocks n) i =
      (page.planBlock f i).map (Plan.mapPlaces (Frame.inBlocks · n)) := by
  unfold planBlock
  rw [callAt_inBlocks hhelpers hi]
  cases hfind : page.helpers.find? i.name with
  | none => rfl
  | some h =>
    cases h with
    | reader r => exact planReaderBlock_inBlocks (ne_layoutDirective hhelpers hi hfind) _
    | builder b => exact planBuilderBlock_inBlocks b _

end Page

end

/-! ## Effects inside of blocks -/

/-- A plan whose places are moved into so many blocks is carried out like before, if the body, the
inverse and the partials that it comes to have the same effects there. -/
theorem Plan.carryOut_inBlocks {f : Frame} {n : Nat} {escaped : Bool} {plan : Plan}
    {body body' : Frame → Except ThemeError Effects} {inverse inverse' : Except ThemeError Effects}
    {partials partials' : Template → Except ThemeError Effects}
    (hbody : ∀ place, plan.BodyAt f body place → body' (place.inBlocks n) = body place)
    (hinverse : plan = .inverse → inverse' = inverse)
    (hpartials : ∀ t, partials' t = partials t) :
    (plan.mapPlaces (Frame.inBlocks · n)).carryOut (f.inBlocks n) escaped body' inverse' partials' =
      plan.carryOut f escaped body inverse partials := by
  cases plan with
  | write v => rfl
  | body places =>
    have hmap : places.mapM body = places.mapM fun place => body' (place.inBlocks n) :=
      mapM_congr_along fun before place after hplaces hbefore =>
        (hbody place ⟨before, place, after, hplaces, hbefore, rfl⟩).symm
    rw [mapPlaces, carryOut, carryOut, List.mapM_map, hmap]
    rfl
  | inverse => exact hinverse rfl
  | keep name => exact congrArg (fun out => do return Effects.keep (← out) name) (hbody f rfl)
  | insert t => exact hpartials t

/-- Rendering comes from a visit to no directive, in the place of a node or of an argument. -/
def Page.AvoidsDirectives (page : Page) (u : Visit) : Prop :=
  ∀ v i, page.Reaches u v → v.Invokes i → i.AvoidsDirective

namespace Page

/-- Partials do not depend on how many blocks they are included in. -/
theorem partialEffects_inBlocks {page : Page} (f : Frame) (n : Nat) (t : Template) :
    page.partialEffects (page.config.maxDepth - f.depth) (f.inBlocks n) t =
      page.partialEffects (page.config.maxDepth - f.depth) f t := by
  cases page.config.maxDepth - f.depth <;> rfl

variable {page : Page}

mutual

theorem effects_node_inBlocks (hhelpers : page.helpers = .builtin) : (node : Node) → (f : Frame) →
    (∀ i, node.invocation? = some i → i.AvoidsDirective) →
    (∀ v, page.Enters f node v → page.AvoidsDirectives v) → (n : Nat) →
    page.effects (f.inBlocks n) [node] = page.effects f [node]
  | .text content, f, _, _, n => by
    rw [effects, effects, nodesEffects_singleton, nodesEffects_singleton, nodeEffects, nodeEffects]
  | .expression i escaped, f, hnode, _, n => by
    have hplan : page.planExpression (f.inBlocks n) i = page.planExpression f i :=
      planExpression_inBlocks hhelpers (hnode i rfl)
    rw [effects_expression, effects_expression, hplan]
    cases page.planExpression f i with
    | error e => rfl
    | ok plan =>
      cases plan with
      | insert t => exact partialEffects_inBlocks f n t
      | _ => rfl
  | .block i body inverse, f, hnode, hinside, n => by
    have hplan : page.planBlock (f.inBlocks n).enterBlock i =
        (page.planBlock f.enterBlock i).map (Plan.mapPlaces (Frame.inBlocks · (n + 1))) :=
      planBlock_inBlocks (f := f.enterBlock) hhelpers (hnode i rfl)
    rw [effects_block, effects_block, hplan]
    cases hold : page.planBlock f.enterBlock i with
    | error e => rfl
    | ok plan =>
      refine Plan.carryOut_inBlocks (f := f.enterBlock) (n := n + 1) (fun place hplace => ?_)
        (fun hinverse => ?_) fun t => ?_
      · have henters : page.Enters f (.block i body inverse) ⟨place, body⟩ :=
          enters_of_bodyAt hold hplace
        obtain ⟨scopes, raw, rfl⟩ := surrounds_of_bodyAt hold hplace
        exact effects_inBlocks hhelpers body _ (hinside _ henters) (n + 1)
      · subst hinverse
        exact effects_inverse_inBlocks hhelpers inverse f.enterBlock
          (fun nodes hnodes => by subst hnodes; exact hinside _ (.inverse hold)) (n + 1)
      · exact partialEffects_inBlocks f.enterBlock (n + 1) t

theorem effects_inverse_inBlocks (hhelpers : page.helpers = .builtin) :
    (inverse : Option (List Node)) → (f : Frame) →
    (∀ nodes, inverse = some nodes → page.AvoidsDirectives ⟨f, nodes⟩) → (n : Nat) →
    page.inverseEffects (page.partialEffects (page.config.maxDepth - f.depth)) (f.inBlocks n)
        inverse =
      page.inverseEffects (page.partialEffects (page.config.maxDepth - f.depth)) f inverse
  | none, _, _, _ => rfl
  | some nodes, f, h, n => effects_inBlocks hhelpers nodes f (h nodes rfl) n

/-- Nodes that come to no directive have the same effects inside of any number of blocks. -/
theorem effects_inBlocks (hhelpers : page.helpers = .builtin) : (nodes : List Node) → (f : Frame) →
    page.AvoidsDirectives ⟨f, nodes⟩ → (n : Nat) →
    page.effects (f.inBlocks n) nodes = page.effects f nodes
  | [], _, _, _ => by
    rw [effects, nodesEffects, effects, nodesEffects]
  | node :: nodes, f, h, n => by
    have hnode : page.effects (f.inBlocks n) [node] = page.effects f [node] := by
      refine effects_node_inBlocks hhelpers node f (fun i hi => ?_)
        (fun v henters w i hreaches => ?_) n
      · exact h _ i .refl ⟨node, nodes, rfl, hi⟩
      · exact h w i (.head (.enter henters) hreaches)
    rw [effects_cons (f := f) node nodes, effects_cons (f := f.inBlocks n) node nodes, hnode]
    cases hfirst : page.effects f [node] with
    | error e => rfl
    | ok e =>
      have hrest : page.effects (f.inBlocks n) nodes = page.effects f nodes :=
        effects_inBlocks hhelpers nodes f
          (fun v i hreaches => h v i (.head (.next hfirst) hreaches)) n
      rw [hrest]

end

/-- An expression that includes nothing is done with at once. -/
theorem reaches_expression {page : Page} {f : Frame} {i : Invocation} {escaped : Bool} {v : Visit}
    (hplan : ∀ t, page.planExpression f i ≠ .ok (.insert t))
    (h : page.Reaches ⟨f, [.expression i escaped]⟩ v) :
    v = ⟨f, [.expression i escaped]⟩ ∨ v = ⟨f, []⟩ := by
  rcases h.cases_head with rfl | ⟨w, hstep, hreaches⟩
  · exact .inl rfl
  · cases hstep with
    | enter henters =>
      cases henters with
      | included hinserts => exact absurd hinserts (hplan _)
    | next =>
      rcases hreaches.cases_head with rfl | ⟨w, hstep, -⟩
      · exact .inr rfl
      · cases hstep

end Page

/-! ## Conditionals -/

/-- The invocation of a helper with one argument. -/
def Template.Invocation.ofArgument (name : String) (a : Argument) (span : Template.Span) :
    Invocation :=
  { name, params := [a], hash := [], span }

open Template.Invocation (ofArgument)

/-- A condition with a body evaluates its argument and decides between its branches. -/
theorem Reader.run_condition {page : Page} {inclusion : Inclusion} {c : PlacedCall}
    {g : Given Rendering} (hpos : c.position = .block) (hparams : c.params = [g]) (holds : Bool) :
    (Reader.condition holds).run page inclusion c =
      (do c.branch ((← g.value).isTruthy == holds)) := by
  have hne : Reader.condition holds ≠ .unescaped := nofun
  rw [Reader.run_block hpos hne]
  simp only [Reader.read, Call.first, hparams, List.isEmpty_cons, Bool.false_eq_true, if_false,
    bind_assoc, pure_bind, PlacedCall.present, if_pos hpos]
  -- The place is not looked at.
  funext st
  rfl

namespace Page

section

variable {page : Page} (hhelpers : page.helpers = .builtin)
include hhelpers

/-- With its branches exchanged `if` is `unless`. -/
theorem invokeBlock_complement (inclusion : Inclusion) (a : Argument) (span span' : Template.Span)
    (body inverse : Rendering String) :
    page.invokeBlock inclusion (ofArgument "if" a span) body inverse =
      page.invokeBlock inclusion (ofArgument "unless" a span') inverse body := by
  have hif : page.helpers.find? "if" = some (.reader (.condition true)) := by
    rw [hhelpers]
    rfl
  have hunless : page.helpers.find? "unless" = some (.reader (.condition false)) := by
    rw [hhelpers]
    rfl
  unfold invokeBlock invoke
  simp only [call, ofArgument, hif, hunless, Helper.run]
  rw [Reader.run_condition rfl rfl, Reader.run_condition rfl rfl]
  refine congrArg Rendering.inBlock (congrArg (_ >>= ·) (funext fun v => ?_))
  cases v.isTruthy <;> rfl

/-- On one line a conditional is its complement with the branches exchanged. -/
theorem renderNode_complement (inclusion : Inclusion) (a : Argument) {span span' : Template.Span}
    (hline : span.line = span'.line) (A B : List Node) :
    page.renderNode inclusion (.block (ofArgument "if" a span) A (some B)) =
      page.renderNode inclusion (.block (ofArgument "unless" a span') B (some A)) := by
  rw [renderNode, renderNode, renderInverse, renderInverse,
    invokeBlock_complement hhelpers inclusion a span span']
  unfold writing
  rw [show (ofArgument "if" a span).span.line = (ofArgument "unless" a span').span.line from hline]

/-- A condition that has a value decides between the body and the inverse. -/
theorem planBlock_if {f : Frame} {a : Argument} {v : Value} (span : Template.Span)
    (ha : page.valueAt f a = .ok v) :
    page.planBlock f (ofArgument "if" a span) =
      .ok (if v.isTruthy then .body [f] else .inverse) := by
  have hfind : page.helpers.find? "if" = some (.reader (.condition true)) := by
    rw [hhelpers]
    rfl
  rw [planBlock, show page.helpers.find? (ofArgument "if" a span).name = _ from hfind]
  show (do planReading f _ (← (do
    return Reading.flag ((← page.valueAt f a).isTruthy == true)))) = _
  simp only [ha, bind, Except.bind, pure, Except.pure, planReading, beq_true]

/-- Inside of a conditional nodes that come to no directive have the effects that they have in its
place. -/
theorem effects_conditional {f : Frame} {a : Argument} {v : Value} (span : Template.Span)
    (ha : page.valueAt f.enterBlock a = .ok v) {nodes : List Node}
    (hnodes : page.AvoidsDirectives ⟨f, nodes⟩) :
    page.effects f [.block (ofArgument "if" a span) nodes (some nodes)] = page.effects f nodes := by
  have hinside : page.effects f.enterBlock nodes = page.effects f nodes :=
    effects_inBlocks hhelpers nodes f hnodes (f.blocks + 1)
  rw [effects_choice (planBlock_if hhelpers span ha), Option.getD_some, ite_self, hinside]

/-- On one line a conditional does what its complement does with the branches exchanged, whatever
comes of the condition. With the same nodes in both branches it does what these nodes do in its
place, if the condition has a value inside of the conditional and the nodes come to no directive:
they write the same text, record the same diagnostics, keep the same contents and fail with the same
error, with or without escaping. -/
theorem render_conditional (st : RenderState) (a : Argument) {span span' : Template.Span}
    (hline : span.line = span'.line) (A B : List Node) :
    page.render [.block (ofArgument "if" a span) A (some B)] =
        page.render [.block (ofArgument "unless" a span') B (some A)] ∧
      ((∃ v, page.Evaluates st.enterBlock a v) → page.AvoidsDirectives ⟨st.toFrame, A⟩ →
        (page.render [.block (ofArgument "if" a span) A (some A)]).outcome st =
          (page.render A).outcome st) := by
  constructor
  · unfold render
    simp only [renderNodes, renderNode_complement hhelpers _ a hline]
  · rintro ⟨v, hv⟩ havoids
    have heffects := effects_conditional hhelpers span hv.valueAt havoids
    have hconditional := page.render_leaves st.toFrame [.block (ofArgument "if" a span) A (some A)]
    rw [heffects] at hconditional
    exact hconditional.outcome_eq (page.render_leaves st.toFrame A)

end

/-- A directive among the arguments counts as one: in its place the condition of `asking` does not
hold, inside of a block it cannot be asked. -/
theorem render_conditional_directive :
    let asking : Node := .expression (ofArgument "if" (.path "!<") default) true
    let conditional : Node :=
      .block (ofArgument "if" (.boolean true) default) [asking] (some [asking])
    let st := RenderState.start .root
    bare.Evaluates st.enterBlock (.boolean true) (.bool true) ∧
      (∀ v i, bare.Reaches ⟨st.toFrame, [asking]⟩ v → v.Invokes i →
        i.name ≠ Template.extendsName) ∧
      (bare.render [asking]).outcome st = .ok ("false", st) ∧
      (bare.render [conditional]).outcome st =
        .error (.structural "" "extends must appear at the top level of a template") := by
  intro asking conditional st
  refine ⟨fun _ => rfl, fun v i hreaches hv => ?_, rfl, rfl⟩
  rcases reaches_expression (fun t ht => by cases ht) hreaches with rfl | rfl
  · obtain ⟨_, _, ⟨rfl, rfl⟩, ⟨⟩⟩ := hv
    decide
  · obtain ⟨_, _, ⟨⟩, -⟩ := hv

/-- Around the name of a tag a conditional that holds changes nothing. -/
theorem render_conditional_name :
    let name : Node :=
      .expression { name := "name", params := [], hash := [], span := default } true
    let conditional : Node := .block (ofArgument "if" (.path "name") default) [name] (some [name])
    let st := RenderState.start { subject := .tag { name := "a < b" } }
    bare.Evaluates st.enterBlock (.path "name") (.text "a < b") ∧
      bare.AvoidsDirectives ⟨st.toFrame, [name]⟩ ∧
      (bare.render [conditional]).outcome st = (bare.render [name]).outcome st := by
  intro name conditional st
  have hvalue : bare.Evaluates st.enterBlock (.path "name") (.text "a < b") := fun _ => rfl
  have havoids : bare.AvoidsDirectives ⟨st.toFrame, [name]⟩ := by
    intro v i hreaches hv
    rcases reaches_expression (fun t ht => by cases ht) hreaches with rfl | rfl
    · obtain ⟨_, _, ⟨rfl, rfl⟩, ⟨⟩⟩ := hv
      exact ⟨by decide, nofun, nofun⟩
    · obtain ⟨_, _, ⟨⟩, -⟩ := hv
  have hline : (default : Template.Span).line = (default : Template.Span).line := rfl
  have hsame := (render_conditional rfl st (.path "name") hline [name] []).2 ⟨_, hvalue⟩ havoids
  exact ⟨hvalue, havoids, hsame⟩

end Page

end BlogTheme
