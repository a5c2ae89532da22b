import BlogTheme.Proofs.Render.Stopping
import BlogTheme.Proofs.Value.Subjects

/-!
# Open scopes

Each scope but that of the page is opened by a helper, for a block that rendering comes to
(`Page.Pushes`). From one visit to the next the open scopes stay or one is opened
(`Page.Step.scopes`), so that by induction on the visits they are as `Page.WellScoped` says wherever
rendering gets to: the outermost is that of the page, the others have subjects, and exactly those of
helpers that go over items tell a place in a loop. There `./` and `this.` are the same.
-/

namespace BlogTheme

open Template (Invocation Node)
open BlogTheme.Path (resolve stepsOut)

/-- A scope that is open at a place but not around it is as the helper opens it. -/
theorem Frame.Opens.openedBy {h : Helper} {f : Frame} {s : Scope}
    (hopens : f.Opens h (f.enterScope s)) : s.OpenedBy h := by
  generalize hplace : f.enterScope s = place at hopens
  cases hopens with
  | here => exact absurd (congrArg scopes hplace) (List.cons_ne_self s f.scopes)
  | unescaped => exact absurd (congrArg scopes hplace) (List.cons_ne_self s f.scopes)
  | scope hs =>
    obtain ⟨rfl, -⟩ := List.cons.inj (congrArg scopes hplace)
    exact hs

namespace Page

section

variable (page : Page) (root : Scope) (t : Template)

/-- For a block that rendering a template comes to, the helper opens a scope in the scopes around
the block. -/
inductive Pushes : Helper → Scope → List Scope → Prop
  | intro {f i body inverse rest h places s} :
    page.Visits root t ⟨f, .block i body inverse :: rest⟩ →
    page.helpers.find? i.name = some h →
    page.planBlock f.enterBlock i = .ok (.body places) →
    f.enterBlock.enterScope s ∈ places →
    Pushes h s f.scopes

/-- How scopes lie in each other while a template is rendered from a root scope. -/
structure WellScoped (scopes : List Scope) : Prop where
  outermost : scopes.getLast? = some root
  filled : Scope.AreFilled scopes
  pushed : ∀ s outer, s :: outer <:+ scopes → outer ≠ [] → ∃ h, page.Pushes root t h s outer
  iteration_iff : ∀ s outer, s :: outer <:+ scopes →
    (s.iteration.isSome = true ↔ ∃ h, page.Pushes root t h s outer ∧ h.iterates = true)
  index_lt : ∀ s ∈ scopes, ∀ place, s.iteration = some place → place.index < place.length

end

variable {page : Page} {root : Scope} {t : Template}

/-! ## Visits in sequence -/

/-- What holds at the top of each template, and at a visit if it holds at the one before, holds
wherever rendering gets to. -/
theorem Visits.induct {P : Visit → Prop} (htop : ∀ h t, P ⟨topFrame root h t, t.body⟩)
    (hstep : ∀ u v, page.Visits root t u → page.Step u v → P u → P v) {v : Visit}
    (hv : page.Visits root t v) : P v := by
  obtain ⟨chain, hchain, hv⟩ := hv
  have hstep (u v) (hu : page.VisitsAlong root {} chain u) : page.Step u v → P u → P v :=
    hstep u v ⟨chain, hchain, hu⟩
  clear hchain
  generalize ({} : Handover) = h at hv hstep
  induction hv with
  | here hreaches =>
    induction hreaches with
    | refl => exact htop _ _
    | tail hreaches hlast ih => exact hstep _ _ (.here hreaches) hlast ih
  | later heffects _ ih => exact ih fun u v hu => hstep u v (.later heffects hu)

/-! ## Scopes from one visit to the next -/

/-- Rendering goes on in the same scopes, or in one that a helper opens in them. -/
theorem Step.scopes {u v : Visit} (hu : page.Visits root t u) (hstep : page.Step u v) :
    v.place.scopes = u.place.scopes ∨
      ∃ h s, page.Pushes root t h s u.place.scopes ∧ v.place.scopes = s :: u.place.scopes := by
  cases hstep with
  | next => exact .inl rfl
  | enter henters =>
    cases henters with
    | @body i nodes inverse before place after hplan =>
      have hplace : place ∈ before ++ place :: after := by simp
      obtain ⟨h, hfind, hopens⟩ := (page.planBlock_opens _ i).result hplan
      cases hopens place hplace with
      | here => exact .inl rfl
      | unescaped => exact .inl rfl
      | scope => exact .inr ⟨h, _, .intro hu hfind hplan hplace, rfl⟩
    | inverse => exact .inl rfl
    | kept => exact .inl rfl
    | included => exact .inl rfl

/-- The scope of the page stays the outermost. -/
theorem Visits.outermost {v : Visit} (hv : page.Visits root t v) :
    v.place.scopes.getLast? = some root := by
  refine hv.induct (P := fun v => v.place.scopes.getLast? = some root) (fun _ _ => rfl) ?_
  intro u v hu hstep ih
  rcases hstep.scopes hu with hsame | ⟨h, s, -, hpushed⟩
  · rw [hsame, ih]
  · rw [hpushed, List.getLast?_cons, ih]
    rfl

namespace Pushes

variable {h : Helper} {s : Scope} {outer : List Scope}

/-- Rendering comes to the scopes in which a helper opens one. -/
theorem visits (hs : page.Pushes root t h s outer) :
    ∃ v, page.Visits root t v ∧ v.place.scopes = outer := by
  cases hs with
  | intro hvisits => exact ⟨_, hvisits, rfl⟩

theorem ne_nil (hs : page.Pushes root t h s outer) : outer ≠ [] := by
  rintro rfl
  obtain ⟨v, hv, hscopes⟩ := hs.visits
  have houtermost := hv.outermost
  rw [hscopes] at houtermost
  cases houtermost

/-- Helpers open scopes with subjects, and the place in a loop if they go over items. -/
theorem openedBy (hs : page.Pushes root t h s outer) : s.OpenedBy h := by
  obtain ⟨hvisits, hfind, hplan, hplace⟩ := hs
  obtain ⟨h', hfind', hopens⟩ := (page.planBlock_opens _ _).result hplan
  obtain rfl : h = h' := Option.some.inj (hfind.symm.trans hfind')
  exact (hopens _ hplace).openedBy

end Pushes

/-! ## Scopes wherever rendering gets to -/

/-- The scope of the page is well on its own if it tells no place in a loop. -/
theorem wellScoped_root (hroot : root.iteration = none) : page.WellScoped root t [root] := by
  have hsuffix {s : Scope} {outer : List Scope} (h : s :: outer <:+ [root]) :
      s = root ∧ outer = [] := by
    simpa [List.suffix_cons_iff] using h
  refine ⟨rfl, Scope.areFilled_singleton root, fun s outer h hne => ?_, fun s outer h => ?_, ?_⟩
  · exact absurd (hsuffix h).2 hne
  · obtain ⟨rfl, rfl⟩ := hsuffix h
    constructor
    · intro hiteration
      simp [hroot] at hiteration
    · rintro ⟨h, hs, -⟩
      exact absurd rfl hs.ne_nil
  · intro s hs place hplace
    rw [List.mem_singleton.1 hs, hroot] at hplace
    cases hplace

/-- A scope that a helper opens is well in scopes that are. -/
theorem WellScoped.push {h : Helper} {s : Scope} {outer : List Scope}
    (houter : page.WellScoped root t outer) (hs : page.Pushes root t h s outer) :
    page.WellScoped root t (s :: outer) where
  outermost := by
    rw [List.getLast?_cons, houter.outermost]
    rfl
  filled := Scope.areFilled_cons hs.openedBy.present houter.filled
  pushed s' outer' hsuffix hne := by
    rcases List.suffix_cons_iff.1 hsuffix with heq | hsuffix
    · obtain ⟨rfl, rfl⟩ := List.cons.inj heq
      exact ⟨h, hs⟩
    · exact houter.pushed s' outer' hsuffix hne
  iteration_iff s' outer' hsuffix := by
    rcases List.suffix_cons_iff.1 hsuffix with heq | hsuffix
    · obtain ⟨rfl, rfl⟩ := List.cons.inj heq
      constructor
      · intro hiteration
        exact ⟨h, hs, by rw [← hs.openedBy.iteration_iff, hiteration]⟩
      · rintro ⟨h', hs', hiterates⟩
        rw [hs'.openedBy.iteration_iff, hiterates]
    · exact houter.iteration_iff s' outer' hsuffix
  index_lt s' hs' := by
    rcases List.mem_cons.1 hs' with rfl | hs'
    · exact hs.openedBy.index_lt
    · exact houter.index_lt s' hs'

/-- Scopes are well wherever rendering gets to. -/
theorem Visits.wellScoped (hroot : root.iteration = none) {v : Visit} (hv : page.Visits root t v) :
    page.WellScoped root t v.place.scopes := by
  refine hv.induct (P := fun v => page.WellScoped root t v.place.scopes)
    (fun _ _ => wellScoped_root hroot) ?_
  intro u v hu hstep ih
  rcases hstep.scopes hu with hsame | ⟨h, s, hpushes, hpushed⟩
  · rwa [hsame]
  · rw [hpushed]
    exact ih.push hpushes

/-- Wherever rendering a page gets to from a root scope that tells no place in a loop, the open scopes
are well: there is one, only the outermost may be without a subject, and exactly those that a helper
opened which goes over items tell the place of an item, among as many as there are. So a path that
begins with `./`, behind steps out of scopes or none, is the one that begins with `this.`. A
renderer that stopped with an error wherever the scopes were not well would make the same page. -/
theorem renderTemplate_scopes (page : Page) (root : Scope) (t : Template)
    (hroot : root.iteration = none) :
    (∀ v, page.Visits root t v → page.WellScoped root t v.place.scopes ∧
      ∀ request k path, resolve request v.place.scopes (stepsOut k ++ ("./" ++ path)) =
        resolve request v.place.scopes (stepsOut k ++ ("this." ++ path))) ∧
    ∀ (S : Visit → Bool) (stopped : ThemeError), stopped.IsAbort →
      (∀ v, page.WellScoped root t v.place.scopes → S v = false) →
      page.watchedTemplate (.stop S stopped) root t = page.renderTemplate root t := by
  constructor
  · intro v hv
    have hwell : page.WellScoped root t v.place.scopes := hv.wellScoped hroot
    exact ⟨hwell, fun request k path => Path.resolve_stepsOut_here request hwell.filled k path⟩
  · intro S stopped he hS
    have hnone : ¬ ∃ v, page.Visits root t v ∧ S v = true := by
      rintro ⟨v, hv, hstop⟩
      rw [hS v (hv.wellScoped hroot)] at hstop
      cases hstop
    rw [page.watchedTemplate_stop S he root t, halted_of_not hnone]

/-- The second of two tags, where a block goes over both. -/
theorem renderTemplate_scopes_tags :
    let tagName : Node :=
      .expression { name := "./name", params := [], hash := [], span := default } true
    let tags : Invocation := { name := "all_tags", params := [], hash := [], span := default }
    let t : Template := { name := "index", body := [.block tags [tagName] none] }
    let page : Page :=
      { bare with request := { bare.request with allTags := [{ name := "a" }, { name := "b" }] } }
    let scopes : List Scope :=
      [{ subject := .tag { name := "b" }, iteration := some { index := 1, length := 2 } }, .root]
    page.WellScoped .root t scopes ∧
      resolve page.request scopes (stepsOut 0 ++ ("./" ++ "name")) =
        resolve page.request scopes (stepsOut 0 ++ ("this." ++ "name")) := by
  intro tagName tags t page scopes
  let top : Frame := (topFrame .root {} t).enterBlock
  let first : Frame := top.enterScope
    { subject := .tag { name := "a" }, iteration := some { index := 0, length := 2 } }
  let second : Frame := { top with scopes }
  have hchain : page.theme.layoutChain t page.config.maxDepth = .ok [t] := by
    rw [Theme.layoutChain, Theme.chainFrom]
    rfl
  have hplan : page.planBlock top tags = .ok (.body ([first] ++ second :: [])) := rfl
  have hfirst : ∀ earlier ∈ [first], ∃ e, page.effects earlier [tagName] = .ok e :=
    List.forall_mem_singleton.2 ⟨_, rfl⟩
  have hvisits : page.Visits .root t ⟨second, [tagName]⟩ :=
    ⟨[t], hchain, .here (.single (.enter (.body hplan hfirst)))⟩
  obtain ⟨hwell, hpaths⟩ := (renderTemplate_scopes page .root t rfl).1 _ hvisits
  exact ⟨hwell, hpaths page.request 0 "name"⟩

end Page

end BlogTheme
