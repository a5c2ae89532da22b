import BlogTheme.Proofs.Render.Looping
import BlogTheme.Proofs.Render.Opening
import Mathlib.Logic.Relation

/-!
# What rendering reaches

A visit is a place with the nodes that are to be rendered there. `Page.Step` says once where
rendering goes from a visit: into the first node (`Page.Enters`), or on to the next if the first
does not fail. A node is entered where its plan comes to a body, an inverse or a partial
(`Plan.Meets`). What is reached by steps is reached while the nodes are rendered, so that an error
there ends the rendering (`Page.Reaches.fails`), and what all steps keep holds wherever rendering
gets to.

Along a layout chain each template is begun at the top of the page, after those before it
(`Page.Visits`).
-/

namespace BlogTheme

open Template (Invocation Node)

/-- Nodes that are to be rendered at a place. -/
structure Visit where
  place : Frame
  nodes : List Node

/-- Computations go through a list in the same way if they do the same as far as they get. -/
theorem mapM_congr_along {g g' : α → Except ε β} {l : List α}
    (h : ∀ before a after, l = before ++ a :: after → (∀ b ∈ before, ∃ r, g b = .ok r) →
      g a = g' a) : l.mapM g = l.mapM g' := by
  induction l with
  | nil => rfl
  | cons a l ih =>
    have ha : g a = g' a := h [] a l rfl nofun
    rw [List.mapM_cons, List.mapM_cons, ← ha]
    cases hga : g a with
    | error e => rfl
    | ok r =>
      have hl : l.mapM g = l.mapM g' := ih fun before b after hl hbefore =>
        h (a :: before) b after (congrArg (a :: ·) hl) (List.forall_mem_cons.2 ⟨⟨r, hga⟩, hbefore⟩)
      rw [hl]

theorem exists_split_cons {P Q : α → Prop} {a : α} {l : List α} :
    (∃ before b after, a :: l = before ++ b :: after ∧ (∀ c ∈ before, Q c) ∧ P b) ↔
      P a ∨ Q a ∧ ∃ before b after, l = before ++ b :: after ∧ (∀ c ∈ before, Q c) ∧ P b := by
  constructor
  · rintro ⟨_ | ⟨c, before⟩, b, after, hl, hbefore, hb⟩
    · obtain ⟨rfl, rfl⟩ := List.cons.inj hl
      exact .inl hb
    · obtain ⟨rfl, rfl⟩ := List.cons.inj hl
      obtain ⟨ha, hbefore⟩ := List.forall_mem_cons.1 hbefore
      exact .inr ⟨ha, before, b, after, rfl, hbefore, hb⟩
  · rintro (ha | ⟨ha, before, b, after, rfl, hbefore, hb⟩)
    · exact ⟨[], a, l, rfl, nofun, ha⟩
    · exact ⟨a :: before, b, after, rfl, List.forall_mem_cons.2 ⟨ha, hbefore⟩, hb⟩

/-- Carrying out a plan at the place `f` comes to a body where `B` holds, after bodies that have
succeeded, to the inverse where `I` holds, or to a partial where `T` holds. -/
def Plan.Meets (f : Frame) (body : Frame → Except ThemeError Effects) (B : Frame → Prop)
    (I : Prop) (T : Template → Prop) : Plan → Prop
  | .write _ => False
  | .body places => ∃ before place after, places = before ++ place :: after ∧
      (∀ earlier ∈ before, ∃ e, body earlier = .ok e) ∧ B place
  | .inverse => I
  | .keep _ => B f
  | .insert t => T t

/-- Carrying out a plan at the place `f` comes to the body at this place. -/
def Plan.BodyAt (plan : Plan) (f : Frame) (body : Frame → Except ThemeError Effects)
    (place : Frame) : Prop :=
  plan.Meets f body (· = place) False fun _ => False

theorem Plan.Meets.imp {plan : Plan} {f : Frame} {body : Frame → Except ThemeError Effects}
    {B B' : Frame → Prop} {I I' : Prop} {T T' : Template → Prop} (h : plan.Meets f body B I T)
    (hB : ∀ place, plan.BodyAt f body place → B place → B' place) (hI : I → I')
    (hT : ∀ t, T t → T' t) : plan.Meets f body B' I' T' := by
  cases plan with
  | write v => exact h
  | body places =>
    obtain ⟨before, place, after, hplaces, hbefore, hplace⟩ := h
    exact ⟨before, place, after, hplaces, hbefore,
      hB place ⟨before, place, after, hplaces, hbefore, rfl⟩ hplace⟩
  | inverse => exact hI h
  | keep name => exact hB f rfl h
  | insert t => exact hT t h

namespace Page

variable (page : Page)

/-- At a place the node is planned to insert a partial. -/
def Inserts (f : Frame) (t : Template) : Node → Prop
  | .text _ => False
  | .expression i _ => page.planExpression f i = .ok (.insert t)
  | .block i _ _ => page.planBlock f.enterBlock i = .ok (.insert t)

/-- The nodes that are to be rendered inside of a node at a place: its body, once all
earlier repetitions have succeeded, its inverse, or a partial, if the limit allows it. -/
inductive Enters (f : Frame) : Node → Visit → Prop
  | body {i nodes inverse before place after} :
    page.planBlock f.enterBlock i = .ok (.body (before ++ place :: after)) →
    (∀ earlier ∈ before, ∃ e, page.effects earlier nodes = .ok e) →
    Enters f (.block i nodes inverse) ⟨place, nodes⟩
  | inverse {i body nodes} :
    page.planBlock f.enterBlock i = .ok .inverse →
    Enters f (.block i body (some nodes)) ⟨f.enterBlock, nodes⟩
  | kept {i nodes inverse name} :
    page.planBlock f.enterBlock i = .ok (.keep name) →
    Enters f (.block i nodes inverse) ⟨f.enterBlock, nodes⟩
  | included {node t} :
    page.Inserts f t node → f.depth < page.config.maxDepth →
    Enters f node ⟨f.enterPartial t.name, t.body⟩

/-- Where rendering goes from a visit. -/
inductive Step : Visit → Visit → Prop
  | enter {f node nodes v} : page.Enters f node v → Step ⟨f, node :: nodes⟩ v
  | next {f node nodes e} : page.effects f [node] = .ok e → Step ⟨f, node :: nodes⟩ ⟨f, nodes⟩

/-- Rendering comes from one visit to another. -/
abbrev Reaches : Visit → Visit → Prop :=
  Relation.ReflTransGen page.Step

/-- Rendering the templates of a layout chain comes to a visit. -/
inductive VisitsAlong (root : Scope) : Handover → List Template → Visit → Prop
  | here {h t chain v} :
    page.Reaches ⟨topFrame root h t, t.body⟩ v → VisitsAlong root h (t :: chain) v
  | later {h t chain e v} :
    page.effects (topFrame root h t) t.body = .ok e →
    VisitsAlong root (h.next e) chain v → VisitsAlong root h (t :: chain) v

/-- Rendering a template with its layouts comes to a visit. -/
def Visits (root : Scope) (t : Template) (v : Visit) : Prop :=
  ∃ chain, page.theme.layoutChain t page.config.maxDepth = .ok chain ∧
    page.VisitsAlong root {} chain v

variable {page} {f : Frame}

/-! ## Effects by the nodes inside -/

theorem effects_cons (node : Node) (nodes : List Node) :
    page.effects f (node :: nodes) = (do
      return (← page.effects f [node]) ++ (← page.effects f nodes)) :=
  page.effects_append f [node] nodes

theorem effects_expression (i : Invocation) (escaped : Bool) :
    page.effects f [.expression i escaped] =
      invocationEffects f i (Plan.carryOut f escaped (fun _ => .ok .empty) (.ok .empty)
        (page.partialEffects (page.config.maxDepth - f.depth) f)) (page.planExpression f i) := by
  rw [effects, nodesEffects_singleton, nodeEffects]

theorem effects_block (i : Invocation) (body : List Node) (inverse : Option (List Node)) :
    page.effects f [.block i body inverse] =
      invocationEffects f i (Plan.carryOut f.enterBlock true
        (fun place =>
          page.nodesEffects (page.partialEffects (page.config.maxDepth - f.depth)) place body)
        (page.inverseEffects (page.partialEffects (page.config.maxDepth - f.depth)) f.enterBlock
          inverse)
        (page.partialEffects (page.config.maxDepth - f.depth) f.enterBlock))
        (page.planBlock f.enterBlock i) := by
  rw [effects, nodesEffects_singleton, nodeEffects]

/-- The places of a body surround that of the block. -/
theorem surrounds_of_planBlock {i : Invocation} {places : List Frame}
    (hplan : page.planBlock f i = .ok (.body places)) : ∀ place ∈ places, f.Surrounds place := by
  obtain ⟨h, -, hopens⟩ := (page.planBlock_opens f i).result hplan
  exact fun place hplace => (hopens place hplace).surrounds

theorem surrounds_of_bodyAt {i : Invocation} {plan : Plan}
    {body : Frame → Except ThemeError Effects} {place : Frame}
    (hplan : page.planBlock f i = .ok plan) (h : plan.BodyAt f body place) :
    f.Surrounds place := by
  cases plan with
  | write v | inverse | insert t => exact False.elim h
  | body places =>
    obtain ⟨before, _, after, rfl, -, rfl⟩ := h
    exact surrounds_of_planBlock hplan _ (List.mem_append_right _ List.mem_cons_self)
  | keep name =>
    obtain rfl : f = place := h
    exact .refl f

/-- At the places of a body as many levels are left as at the block. -/
theorem effects_of_planBlock {i : Invocation} {places : List Frame}
    (hplan : page.planBlock f.enterBlock i = .ok (.body places)) (nodes : List Node) :
    ∀ place ∈ places, page.effects place nodes =
      page.nodesEffects (page.partialEffects (page.config.maxDepth - f.depth)) place nodes := by
  intro place hplace
  obtain ⟨scopes, raw, rfl⟩ := surrounds_of_planBlock hplan place hplace
  rfl

section

variable {i : Invocation} {body : List Node} {inverse : Option (List Node)}

theorem effects_body {places : List Frame}
    (hplan : page.planBlock f.enterBlock i = .ok (.body places)) :
    page.effects f [.block i body inverse] =
      (do return .concat (← places.mapM fun place => page.effects place body)) := by
  have hlevels : places.mapM (fun place => page.effects place body) = places.mapM fun place =>
      page.nodesEffects (page.partialEffects (page.config.maxDepth - f.depth)) place body :=
    mapM_congr_along fun before place after hplaces _ =>
      effects_of_planBlock hplan body place (by simp [hplaces])
  rw [hlevels, effects_block, hplan]
  rfl

theorem effects_inverse {nodes : List Node}
    (hplan : page.planBlock f.enterBlock i = .ok .inverse) :
    page.effects f [.block i body (some nodes)] = page.effects f.enterBlock nodes := by
  rw [effects_block, hplan]
  rfl

/-- A block that chooses between its body and its inverse has the effects of what it chooses. -/
theorem effects_choice {b : Bool}
    (hplan : page.planBlock f.enterBlock i =
      .ok (if b then .body [f.enterBlock] else .inverse)) :
    page.effects f [.block i body inverse] =
      page.effects f.enterBlock (if b then body else inverse.getD []) := by
  rw [effects_block, hplan]
  cases b with
  | true =>
    rw [if_pos rfl, invocationEffects, Plan.carryOut_body]
    rfl
  | false => cases inverse <;> rfl

theorem effects_kept {name : String}
    (hplan : page.planBlock f.enterBlock i = .ok (.keep name)) :
    page.effects f [.block i body inverse] =
      (do return (← page.effects f.enterBlock body).keep name) := by
  rw [effects_block, hplan]
  rfl

end

/-- In a partial there is one level less. -/
theorem levels_enterPartial {levels : Nat} (hf : page.config.maxDepth - f.depth = levels + 1)
    (name : String) : page.config.maxDepth - (f.enterPartial name).depth = levels := by
  show page.config.maxDepth - (f.depth + 1) = levels
  omega

/-- A partial has the effects of its nodes, one level deeper. -/
theorem partialEffects_eq (hdepth : f.depth < page.config.maxDepth) (t : Template) :
    page.partialEffects (page.config.maxDepth - f.depth) f t =
      page.effects (f.enterPartial t.name) t.body := by
  obtain ⟨levels, hlevels⟩ : ∃ levels, page.config.maxDepth - f.depth = levels + 1 :=
    ⟨page.config.maxDepth - f.depth - 1, by omega⟩
  rw [effects, hlevels, levels_enterPartial hlevels, partialEffects]

theorem effects_inserts {node : Node} {t : Template} (h : page.Inserts f t node) :
    page.effects f [node] = page.partialEffects (page.config.maxDepth - f.depth) f t := by
  cases node with
  | text content => exact h.elim
  | expression i escaped =>
    rw [effects_expression, show page.planExpression f i = .ok (.insert t) from h]
    rfl
  | block i body inverse =>
    rw [effects_block, show page.planBlock f.enterBlock i = .ok (.insert t) from h]
    -- Partials do not depend on how many blocks they are included in.
    cases page.config.maxDepth - f.depth <;> rfl

/-! ## What is met inside of nodes -/

section

variable {i : Invocation} {P : Visit → Prop}

/-- What is met inside of an expression is what its plan meets. -/
theorem exists_enters_expression {escaped : Bool} :
    (∃ v, page.Enters f (.expression i escaped) v ∧ P v) ↔
      ∃ plan, page.planExpression f i = .ok plan ∧
        plan.Meets f (fun _ => .ok .empty) (fun _ => False) False fun t =>
          f.depth < page.config.maxDepth ∧ P ⟨f.enterPartial t.name, t.body⟩ := by
  constructor
  · rintro ⟨v, henters, hv⟩
    cases henters with
    | included hinserts hdepth => exact ⟨_, hinserts, hdepth, hv⟩
  · rintro ⟨plan, hplan, hmeets⟩
    cases plan with
    | write v => exact hmeets.elim
    | body places =>
      obtain ⟨_, _, _, -, -, hnone⟩ := hmeets
      exact hnone.elim
    | inverse => exact hmeets.elim
    | keep name => exact hmeets.elim
    | insert t =>
      obtain ⟨hdepth, hv⟩ := hmeets
      exact ⟨_, .included hplan hdepth, hv⟩

/-- What is met inside of a block is what its plan meets. -/
theorem exists_enters_block {body : List Node} {inverse : Option (List Node)} :
    (∃ v, page.Enters f (.block i body inverse) v ∧ P v) ↔
      ∃ plan, page.planBlock f.enterBlock i = .ok plan ∧
        plan.Meets f.enterBlock
          (fun place =>
            page.nodesEffects (page.partialEffects (page.config.maxDepth - f.depth)) place body)
          (fun place => P ⟨place, body⟩) (∃ nodes, inverse = some nodes ∧ P ⟨f.enterBlock, nodes⟩)
          fun t => f.depth < page.config.maxDepth ∧ P ⟨f.enterPartial t.name, t.body⟩ := by
  constructor
  · rintro ⟨v, henters, hv⟩
    cases henters with
    | body hplan hbefore =>
      refine ⟨_, hplan, _, _, _, rfl, fun earlier hearlier => ?_, hv⟩
      obtain ⟨e, he⟩ := hbefore earlier hearlier
      have hlevels := effects_of_planBlock hplan body earlier (List.mem_append_left _ hearlier)
      exact ⟨e, hlevels.symm.trans he⟩
    | inverse hplan => exact ⟨_, hplan, _, rfl, hv⟩
    | kept hplan => exact ⟨_, hplan, hv⟩
    | included hinserts hdepth => exact ⟨_, hinserts, hdepth, hv⟩
  · rintro ⟨plan, hplan, hmeets⟩
    cases plan with
    | write v => exact hmeets.elim
    | body places =>
      obtain ⟨before, place, after, rfl, hbefore, hv⟩ := hmeets
      refine ⟨_, .body hplan fun earlier hearlier => ?_, hv⟩
      obtain ⟨e, he⟩ := hbefore earlier hearlier
      have hlevels := effects_of_planBlock hplan body earlier (List.mem_append_left _ hearlier)
      exact ⟨e, hlevels.trans he⟩
    | inverse =>
      obtain ⟨nodes, rfl, hv⟩ := hmeets
      exact ⟨_, .inverse hplan, hv⟩
    | keep name => exact ⟨_, .kept hplan, hmeets⟩
    | insert t =>
      obtain ⟨hdepth, hv⟩ := hmeets
      exact ⟨_, .included hplan hdepth, hv⟩

theorem enters_of_bodyAt {body : List Node} {inverse : Option (List Node)} {plan : Plan}
    {place : Frame} (hplan : page.planBlock f.enterBlock i = .ok plan)
    (h : plan.BodyAt f.enterBlock (fun place =>
      page.nodesEffects (page.partialEffects (page.config.maxDepth - f.depth)) place body) place) :
    page.Enters f (.block i body inverse) ⟨place, body⟩ := by
  have hmet : ∃ v, page.Enters f (.block i body inverse) v ∧ v = ⟨place, body⟩ :=
    exists_enters_block.2 ⟨plan, hplan, h.imp
      (fun other _ (hother : other = place) => congrArg (Visit.mk · body) hother)
      False.elim fun _ => False.elim⟩
  obtain ⟨v, henters, rfl⟩ := hmet
  exact henters

end

/-! ## Errors -/

/-- An error inside of a node is the error of the node. -/
theorem Enters.fails {node : Node} {v : Visit} {e : ThemeError} (h : page.Enters f node v)
    (he : page.effects v.place v.nodes = .error e) : page.effects f [node] = .error e := by
  cases h with
  | body hplan hbefore =>
    rw [effects_body hplan, mapM_eq_error hbefore he]
    rfl
  | inverse hplan => exact (effects_inverse hplan).trans he
  | kept hplan =>
    rw [effects_kept hplan, he]
    rfl
  | included hinserts hdepth =>
    rw [effects_inserts hinserts, partialEffects_eq hdepth, he]

/-- An error at the next visit is one at the visit before. -/
theorem Step.fails {u v : Visit} {e : ThemeError} (h : page.Step u v)
    (he : page.effects v.place v.nodes = .error e) : page.effects u.place u.nodes = .error e := by
  cases h with
  | enter henters =>
    rw [effects_cons, henters.fails he]
    rfl
  | next hfirst =>
    rw [effects_cons, hfirst, he]
    rfl

/-- An error wherever rendering gets to is its error. -/
theorem Reaches.fails {u v : Visit} {e : ThemeError} (h : page.Reaches u v)
    (he : page.effects v.place v.nodes = .error e) : page.effects u.place u.nodes = .error e := by
  induction h using Relation.ReflTransGen.head_induction_on with
  | refl => exact he
  | head hstep _ ih => exact hstep.fails ih

theorem VisitsAlong.fails {root : Scope} {h : Handover} {chain : List Template} {v : Visit}
    {e : ThemeError} (hv : page.VisitsAlong root h chain v)
    (he : page.effects v.place v.nodes = .error e) :
    page.chainEffects root h chain = .error e := by
  induction hv with
  | here hreaches =>
    rw [chainEffects, hreaches.fails he]
    rfl
  | later heffects _ ih =>
    rw [chainEffects, heffects]
    exact ih he

/-- An error at a visit is the error of the page. -/
theorem Visits.fails {root : Scope} {t : Template} {v : Visit} {e : ThemeError}
    (hv : page.Visits root t v) (he : page.effects v.place v.nodes = .error e) :
    page.renderTemplate root t = .error e := by
  obtain ⟨chain, hchain, hv⟩ := hv
  rw [page.renderTemplate_eq, hchain]
  simp only [bind, Except.bind, hv.fails he]

/-- Every visit of a page is reached from the top of a template of its layout chain. -/
theorem VisitsAlong.origin {root : Scope} {h : Handover} {chain : List Template} {v : Visit}
    (hv : page.VisitsAlong root h chain v) :
    ∃ t ∈ chain, ∃ h, page.Reaches ⟨topFrame root h t, t.body⟩ v := by
  induction hv with
  | here hreaches => exact ⟨_, List.mem_cons_self, _, hreaches⟩
  | later _ _ ih =>
    obtain ⟨t, ht, h, hreaches⟩ := ih
    exact ⟨t, List.mem_cons_of_mem _ ht, h, hreaches⟩

end Page

end BlogTheme
