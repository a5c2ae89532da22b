import BlogTheme.Proofs.Render.Pages

/-!
# Rendering nodes in sequence

What nodes mean does not depend on the nodes before them, so the meaning of a list
is put together from those of its parts (`Page.effects_append`). As rendering does
what nodes mean and comes back to its place, whether or not it fails
(`Page.render_returns`), the same holds of rendering: nodes in sequence do what each
part does when it is rendered alone, from the same state (`Page.render_append`).
-/

namespace BlogTheme

open Template (Node)
open Rendering (finalState)

namespace Page

theorem nodesEffects_append (page : Page) (partials : PartialEffects) (f : Frame)
    (a b : List Node) :
    page.nodesEffects partials f (a ++ b) = (do
      return (← page.nodesEffects partials f a) ++ (← page.nodesEffects partials f b)) := by
  -- The second list is rendered at the place of the first, whatever the first has left.
  induction a with
  | nil =>
    rw [List.nil_append, nodesEffects]
    cases page.nodesEffects partials f b with
    | error err => rfl
    | ok e => exact congrArg Except.ok e.empty_append.symm
  | cons node a ih =>
    rw [List.cons_append, nodesEffects, nodesEffects, ih]
    cases page.nodeEffects partials f node with
    | error err => rfl
    | ok first =>
      cases page.nodesEffects partials f a with
      | error err => rfl
      | ok rest =>
        cases page.nodesEffects partials f b with
        | error err => rfl
        | ok e => exact congrArg Except.ok (first.append_assoc rest e).symm

theorem nodesEffects_singleton (page : Page) (partials : PartialEffects) (f : Frame)
    (node : Node) :
    page.nodesEffects partials f [node] = page.nodeEffects partials f node := by
  rw [nodesEffects, nodesEffects]
  cases page.nodeEffects partials f node with
  | error e => rfl
  | ok e => simp [bind, Except.bind, pure, Except.pure]

/-- The effects of nodes in sequence, at any place. -/
theorem effects_append (page : Page) (f : Frame) (a b : List Node) :
    page.effects f (a ++ b) = (do return (← page.effects f a) ++ (← page.effects f b)) :=
  page.nodesEffects_append _ f a b

/-- Nodes succeed together where each part succeeds. -/
theorem effects_append_eq_ok {page : Page} {f : Frame} {a b : List Node} {e : Effects} :
    page.effects f (a ++ b) = .ok e ↔
      ∃ ea eb, page.effects f a = .ok ea ∧ page.effects f b = .ok eb ∧ e = ea ++ eb := by
  rw [effects_append]
  cases page.effects f a with
  | error err => simp [bind, Except.bind]
  | ok ea =>
    cases page.effects f b with
    | error err => simp [bind, Except.bind]
    | ok eb => simp [bind, Except.bind, pure, Except.pure, eq_comm]

/-- However rendering ends, it is back at the place where it began, and has added to
what was recorded. -/
theorem render_returns (page : Page) (st : RenderState) (nodes : List Node) :
    (finalState (page.render nodes) st).toFrame = st.toFrame ∧
      st.diagnostics <+: (finalState (page.render nodes) st).diagnostics := by
  obtain ⟨e, he⟩ := (page.render_leaves st.toFrame nodes).finalState_eq
  rw [he]
  exact ⟨st.toFrame_after e, List.prefix_append _ _⟩

/-- Nodes in sequence are rendered as if each part were rendered from the state in
which the first begins: they succeed if both do, and then the texts, the diagnostics and
the contents kept are those of the first followed by those of the second, where the
later of two contents with one name counts. Whether or not they succeed, the place is the
same after them as before, and no diagnostic is lost. -/
theorem render_append (page : Page) (st : RenderState) (a b : List Node) :
    ((page.render (a ++ b)).Succeeds st ↔
      (page.render a).Succeeds st ∧ (page.render b).Succeeds st) ∧
    (∀ ta sta tb stb, (page.render a).run st = .ok ta sta → (page.render b).run st = .ok tb stb →
      ∃ stab da db ka kb,
        (page.render (a ++ b)).run st = .ok (ta ++ tb) stab ∧
        sta.diagnostics = st.diagnostics ++ da ∧ stb.diagnostics = st.diagnostics ++ db ∧
        stab.diagnostics = st.diagnostics ++ da ++ db ∧
        sta.kept = ka ++ st.kept ∧ stb.kept = kb ++ st.kept ∧ stab.kept = kb ++ ka ++ st.kept ∧
        ∀ name, stab.kept.lookup name = (kb.lookup name).or (sta.kept.lookup name)) ∧
    ∀ nodes, (finalState (page.render nodes) st).toFrame = st.toFrame ∧
      st.diagnostics <+: (finalState (page.render nodes) st).diagnostics := by
  have ha := page.render_leaves st.toFrame a
  have hb := page.render_leaves st.toFrame b
  have hab := page.render_leaves st.toFrame (a ++ b)
  refine ⟨?_, fun ta sta tb stb hrunA hrunB => ?_, page.render_returns st⟩
  · rw [hab.succeeds_iff, ha.succeeds_iff, hb.succeeds_iff]
    constructor
    · rintro ⟨e, he⟩
      obtain ⟨ea, eb, hea, heb, -⟩ := effects_append_eq_ok.1 he
      exact ⟨⟨ea, hea⟩, eb, heb⟩
    · rintro ⟨⟨ea, hea⟩, eb, heb⟩
      exact ⟨ea ++ eb, effects_append_eq_ok.2 ⟨ea, eb, hea, heb, rfl⟩⟩
  · obtain ⟨ea, hea, rfl, rfl⟩ := ha.of_run_ok hrunA
    obtain ⟨eb, heb, rfl, rfl⟩ := hb.of_run_ok hrunB
    have hmeaning := effects_append_eq_ok.2 ⟨ea, eb, hea, heb, rfl⟩
    have hab := hab st rfl
    simp only [hmeaning] at hab
    obtain ⟨text, hrun, htext⟩ := hab
    refine ⟨st.after (ea ++ eb), ea.diagnostics, eb.diagnostics, ea.kept.reverse, eb.kept.reverse,
      ?_, rfl, rfl, ?_, rfl, rfl, ?_, fun name => ?_⟩
    · rw [hrun, htext]
      rfl
    · exact (List.append_assoc ..).symm
    · simp
    · simp [List.lookup_append]

/-- A page about nothing, from a theme without templates. -/
def bare : Page :=
  { request := default, helpers := .builtin, theme := .empty, config := {} }

/-- Of two contents kept under one name the later counts. -/
theorem render_append_kept :
    let keeping (text : String) : Node :=
      .block { name := "contentFor", params := [.string "head"], hash := [], span := default }
        [.text text] none
    ∃ st, (bare.render ([keeping "1", .text "a"] ++ [keeping "2", .text "b"])).run (.start .root) =
        .ok "ab" st ∧ st.kept.lookup "head" = some "2" := by
  intro keeping
  obtain ⟨st, _, _, _, kb, hrun, -, -, -, -, hkb, -, hkept⟩ :=
    (render_append bare (.start .root) [keeping "1", .text "a"] [keeping "2", .text "b"]).2.1
      "a" _ "b" _ rfl rfl
  have hkb : [("head", "2")] = kb := by rw [← kb.append_nil]; exact hkb
  subst hkb
  exact ⟨st, hrun, hkept "head"⟩

end Page

end BlogTheme
