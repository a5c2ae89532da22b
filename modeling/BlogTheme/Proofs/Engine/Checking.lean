import BlogTheme.Command.Site
import BlogTheme.Proofs.Engine.Compiling

/-!
# What a check tells

A check reports a fault for each name without a tree and for each tree whose layouts cannot be
followed (`Engine.check_steady`), and loading fails with the first fault of the former kind
(`Engine.loadTheme_steady`). So a check finds nothing wrong exactly where the theme can be loaded
and all its layout chains can be followed (`Engine.check_sound_complete`), whatever the resolver
lists and finds.
-/

namespace BlogTheme

open Template (canonicalName)
open Folder (Tree)

theorem fault?_map (f : α → β) (x : Except ThemeError α) : fault? (x.map f) = fault? x := by
  cases x <;> rfl

/-- Each of so many computations comes to a result or to a fault. -/
theorem length_filter_isOk_add (f : β → Except ThemeError α) (l : List β) :
    (l.filter fun b => (f b).isOk).length + (l.filterMap fun b => fault? (f b)).length =
      l.length := by
  induction l with
  | nil => rfl
  | cons b l ih =>
    cases hb : f b with
    | ok a =>
      rw [List.filter_cons_of_pos (by rw [hb]; rfl), List.filterMap_cons_none (by rw [hb]; rfl)]
      simp only [List.length_cons]
      omega
    | error fault =>
      rw [List.filter_cons_of_neg (by rw [hb]; exact Bool.false_ne_true),
        List.filterMap_cons_some (b := fault) (by rw [hb]; rfl)]
      simp only [List.length_cons]
      omega

namespace Engine

variable {e : Engine}

theorem chainFaults_eq (e : Engine) (theme : Theme) :
    e.chainFaults theme =
      theme.items.filterMap fun t => fault? (theme.layoutChain t e.config.maxDepth) := by
  refine List.filterMap_congr fun t _ => ?_
  cases theme.layoutChain t e.config.maxDepth <;> rfl

theorem chainFaults_eq_nil_iff (e : Engine) (theme : Theme) :
    e.chainFaults theme = [] ↔
      ∀ t ∈ theme.items, ∃ chain, theme.layoutChain t e.config.maxDepth = .ok chain := by
  simp only [chainFaults_eq, List.filterMap_eq_nil_iff, fault?_eq_none_iff]

theorem tree_eq_ok_iff (h : e.Steady) {name : String} {t : Template} :
    e.resolver.tree name = .ok t ↔ ∃ c, (e.compile name).1 = .ok c ∧ c.template = t := by
  rw [← (compile_steady h name).1]
  cases (e.compile name).1 <;> simp [Except.map]

theorem faults_eq (h : e.Steady) (names : List String) :
    e.resolver.faults names = names.filterMap fun name => fault? (e.compile name).1 := by
  refine List.filterMap_congr fun name _ => ?_
  rw [← (compile_steady h name).1, fault?_map]

/-- A check reports the names without a tree, and then the layout chains that are broken among the
trees that there are. -/
theorem check_steady (h : e.Steady) :
    e.check = e.resolver.list.map fun names =>
      { compiled := (names.filter fun name => (e.resolver.tree name).isOk).length,
        faults := e.resolver.faults names ++
          e.chainFaults (e.resolver.gathered .empty names) } := by
  unfold check
  cases e.resolver.list with
  | error fault => rfl
  | ok names =>
    show Except.ok _ = _
    rw [gather_steady h]
    rfl

/-- A check that finds nothing wrong has seen what is loaded. -/
theorem loadTheme_of_check (h : e.Steady) {r : Report} (hcheck : e.check = .ok r) (hr : r.isOk) :
    ∃ theme, e.loadTheme.1 = .ok theme ∧
      ∀ t ∈ theme.items, ∃ chain, theme.layoutChain t e.config.maxDepth = .ok chain := by
  rw [check_steady h] at hcheck
  cases hlist : e.resolver.list with
  | error fault =>
    rw [hlist] at hcheck
    cases hcheck
  | ok names =>
    rw [hlist] at hcheck
    cases hcheck
    obtain ⟨hfaults, hchains⟩ := List.append_eq_nil_iff.1 (List.isEmpty_iff.1 hr)
    exact ⟨_, (loadTheme_eq_ok_iff h hlist).2 ⟨hfaults, rfl⟩,
      (e.chainFaults_eq_nil_iff _).1 hchains⟩

/-- What is loaded and has no broken layout chain passes a check. -/
theorem check_of_loadTheme (h : e.Steady) {theme : Theme} (hload : e.loadTheme.1 = .ok theme)
    (hchains : ∀ t ∈ theme.items, ∃ chain, theme.layoutChain t e.config.maxDepth = .ok chain) :
    ∃ r, e.check = .ok r ∧ r.isOk := by
  obtain ⟨names, hlist⟩ := list_of_loadTheme hload
  obtain ⟨hfaults, rfl⟩ := (loadTheme_eq_ok_iff h hlist).1 hload
  rw [check_steady h, hlist]
  refine ⟨_, rfl, List.isEmpty_iff.2 ?_⟩
  exact List.append_eq_nil_iff.2 ⟨hfaults, (e.chainFaults_eq_nil_iff _).2 hchains⟩

/-- What a check reports when the names can be listed. The theme that it fills on the way is the
one that is loaded if there is one. -/
theorem check_of_list (h : e.Steady) {names : List String} (hlist : e.resolver.list = .ok names) :
    let failed := names.filterMap fun name => fault? (e.compile name).1
    ∃ (compiled : Nat) (theme : Theme),
      compiled + failed.length = names.length ∧
      (∀ t, t ∈ theme.items ↔ ∃ name ∈ names, ∃ c, (e.compile name).1 = .ok c ∧ c.template = t) ∧
      (∀ loaded, e.loadTheme.1 = .ok loaded → loaded = theme) ∧
      e.check = .ok
        { compiled,
          faults := failed ++
            theme.items.filterMap fun t => fault? (theme.layoutChain t e.config.maxDepth) } := by
  refine ⟨(names.filter fun name => (e.resolver.tree name).isOk).length,
    e.resolver.gathered .empty names, ?_, fun t => ?_, fun loaded hload => ?_, ?_⟩
  · rw [← faults_eq h]
    exact length_filter_isOk_add e.resolver.tree names
  · simp only [Resolver.mem_gathered, tree_eq_ok_iff h]
  · exact ((loadTheme_eq_ok_iff h hlist).1 hload).2
  · rw [check_steady h, hlist, ← faults_eq h, ← chainFaults_eq]
    rfl

/-- Rendering a template of the theme whose layout chain can be followed is rendering the
chain. -/
theorem render_of_chain {theme : Theme} {name : String} {t : Template} {chain : List Template}
    (request : Request) (hfind : theme.find? (canonicalName name) = some t)
    (hchain : theme.layoutChain t e.config.maxDepth = .ok chain) :
    e.render theme name request =
      match ((e.page theme request).renderChain "" chain).run (.start .root) with
      | .ok html st => .ok { html, diagnostics := st.diagnostics }
      | .error fault _ => .error fault := by
  have hpage : (e.page theme request).theme.layoutChain t (e.page theme request).config.maxDepth =
      .ok chain := hchain
  simp only [render, renderFrom, hfind, Page.renderTemplate, hpage]
  rfl

end Engine

/-! ## Sites -/

namespace Site

variable {s : Site}

/-- Where there is a folder for the theme, checking a site is checking what its engine finds. -/
theorem check_eq_ok_iff (hfolder : (s.tree.folder? s.settings.themeDir).isSome) (r : Report) :
    s.check = .ok r ↔ s.engine.check = .ok r := by
  have hnone : (s.tree.folder? s.settings.themeDir).isNone = false := by
    simpa using hfolder
  rw [check, hnone]
  cases s.engine.check <;> simp [Except.mapError]

/-- Where a theme can be loaded, no page fails for loading it. -/
theorem page_ne_loading {theme : Theme} (hload : s.engine.loadTheme.1 = .ok theme)
    (now : Date.Moment) (template path dir : String) (fault : ThemeError) :
    s.page now template path ≠ .error (.loading dir fault) := by
  unfold page
  cases hrequest : s.request now path with
  | error failure =>
    rintro ⟨⟩
    unfold request at hrequest
    cases htext : s.tree.readText? path with
    | none => simp [htext] at hrequest
    | some text =>
      rw [htext] at hrequest
      cases hread : Request.read now text <;> simp [hread, Except.mapError] at hrequest
  | ok request =>
    cases hengine : s.engine.loadTheme with
    | mk loaded engine =>
      rw [hengine] at hload
      subst hload
      show (engine.render theme template request).mapError (CommandFailure.rendering template) ≠ _
      cases engine.render theme template request <;> simp [Except.mapError]

end Site

/-! ## What a check is worth -/

namespace Engine

/-- A check says about the trees of a theme and their layout chains what loading the theme and
following the chains would say: it counts the names that have a tree, and reports the fault of each
name that has none and then that of each tree whose chain is broken. For a theme that passes it,
loading does not fail, and a render of a template of the theme is that of a layout chain. -/
theorem check_sound_complete (resolver : Resolver) (settings : Settings) :
    let e := ofConfig resolver settings.config
    ((∃ r, e.check = .ok r ∧ r.isOk) ↔
      ∃ theme, e.loadTheme.1 = .ok theme ∧
        ∀ t ∈ theme.items, ∃ chain, theme.layoutChain t settings.maxDepth = .ok chain) ∧
    (∀ fault, resolver.list = .error fault → e.check = .error fault) ∧
    (∀ names, resolver.list = .ok names →
      let failed := names.filterMap fun name => fault? (e.compile name).1
      ∃ (compiled : Nat) (theme : Theme),
        compiled + failed.length = names.length ∧
        (∀ t, t ∈ theme.items ↔ ∃ name ∈ names, ∃ c, (e.compile name).1 = .ok c ∧ c.template = t) ∧
        (∀ loaded, e.loadTheme.1 = .ok loaded → loaded = theme) ∧
        e.check = .ok
          { compiled,
            faults := failed ++
              theme.items.filterMap fun t => fault? (theme.layoutChain t settings.maxDepth) }) ∧
    (∀ r, e.check = .ok r → r.isOk → ∃ theme e', e.loadTheme = (.ok theme, e') ∧
      ∀ name t request, theme.find? (canonicalName name) = some t →
        ∃ chain, theme.layoutChain t settings.maxDepth = .ok chain ∧
          e'.render theme name request =
            match ((e'.page theme request).renderChain "" chain).run (.start .root) with
            | .ok html st => .ok { html, diagnostics := st.diagnostics }
            | .error fault _ => .error fault) ∧
    ∀ tree : Tree, resolver = tree.resolver settings.themeDir →
      (tree.folder? settings.themeDir).isSome →
      let s : Site := { tree, settings }
      ∀ r, (s.check = .ok r ↔ e.check = .ok r) ∧
        (s.check = .ok r → r.isOk → ∀ now template path dir fault,
          s.page now template path ≠ .error (.loading dir fault)) := by
  have h := steady_ofConfig resolver settings.config
  refine ⟨⟨?sound, ?complete⟩, ?listing, ?report, ?passing, ?site⟩
  case sound =>
    rintro ⟨r, hcheck, hr⟩
    exact loadTheme_of_check h hcheck hr
  case complete =>
    rintro ⟨theme, hload, hchains⟩
    exact check_of_loadTheme h hload hchains
  case listing =>
    intro fault hlist
    rw [check_steady h]
    exact congrArg _ hlist
  case report =>
    intro names hlist
    exact check_of_list h hlist
  case passing =>
    intro r hcheck hr
    obtain ⟨theme, hload, hchains⟩ := loadTheme_of_check h hcheck hr
    obtain ⟨names, hlist⟩ := list_of_loadTheme hload
    obtain ⟨⟨cache, made, hlast⟩, -⟩ := (loadTheme_steady h hlist).2
    refine ⟨theme, _, Prod.ext hload hlast, fun name t request hfind => ?_⟩
    obtain ⟨chain, hchain⟩ := hchains t (Catalog.mem_of_find? hfind)
    exact ⟨chain, hchain, render_of_chain request hfind hchain⟩
  case site =>
    rintro tree rfl hfolder s r
    refine ⟨Site.check_eq_ok_iff hfolder r, fun hcheck hr => ?_⟩
    have hpassed : s.engine.check = .ok r := (Site.check_eq_ok_iff hfolder r).1 hcheck
    obtain ⟨theme, hload, -⟩ := loadTheme_of_check h hpassed hr
    exact Site.page_ne_loading hload

end Engine

end BlogTheme
