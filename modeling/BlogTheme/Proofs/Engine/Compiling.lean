import BlogTheme.Engine.Check
import BlogTheme.Proofs.Engine.Session
import BlogTheme.Proofs.Theme.Catalog

/-!
# Compiling against unchanged sources

While what a resolver finds does not change, it does not matter which trees an engine keeps: as
long as none of them passes for the tree of another source (`Engine.Steady`), asking for a tree
answers what `Resolver.tree` says (`Engine.compile_steady`). Going through the names of a theme
then meets the faults `Resolver.faults` and fills the theme `Resolver.gathered`, whether it stops at
the first fault (`Engine.loadNames_steady`) or goes on after it (`Engine.gather_steady`).
-/

namespace BlogTheme

open Template (canonicalName)

/-- The error that a computation ends in, if it does. -/
def fault? : Except ThemeError α → Option ThemeError
  | .ok _ => none
  | .error fault => some fault

theorem fault?_eq_none_iff {x : Except ThemeError α} : fault? x = none ↔ ∃ a, x = .ok a := by
  cases x <;> simp [fault?]

theorem Template.name_of_parse {source name : String} {t : Template}
    (h : Template.parse source name = .ok t) : t.name = name := by
  unfold parse at h
  cases hbody : parseBody source.toList with
  | ok body =>
    rw [hbody] at h
    cases h
    rfl
  | error fault =>
    rw [hbody] at h
    cases h

/-! ## What a resolver finds -/

namespace Resolver

variable {r : Resolver} {name name' : String} {t t' : Template}

/-- The tree of the source that is found under a name. -/
def tree (r : Resolver) (name : String) : Except ThemeError Template := do
  let located ← r.resolve (canonicalName name)
  Template.parse located.text (canonicalName name)

/-- The faults of the names that have no tree, in order. -/
def faults (r : Resolver) (names : List String) : List ThemeError :=
  names.filterMap fun name => fault? (r.tree name)

/-- A theme to which the trees of these names have been added, those that there are. -/
def gathered (r : Resolver) (theme : Theme) (names : List String) : Theme :=
  (names.filterMap fun name => (r.tree name).toOption).foldl Catalog.insert theme

theorem tree_of_resolve {located : Located} (h : r.resolve (canonicalName name) = .ok located) :
    r.tree name = Template.parse located.text (canonicalName name) := by
  rw [tree, h]
  rfl

theorem name_of_tree (h : r.tree name = .ok t) : t.name = canonicalName name := by
  unfold tree at h
  cases hlocated : r.resolve (canonicalName name) with
  | error fault =>
    rw [hlocated] at h
    cases h
  | ok located =>
    rw [hlocated] at h
    exact Template.name_of_parse h

/-- Two names with one canonical form have one tree. -/
theorem tree_unique (h : r.tree name = .ok t) (h' : r.tree name' = .ok t')
    (hname : t.name = t'.name) : t = t' := by
  rw [name_of_tree h, name_of_tree h'] at hname
  rw [tree, hname] at h
  exact Except.ok.inj (h.symm.trans h')

section

variable {theme : Theme} {names : List String} {fault : ThemeError}

theorem faults_cons_of_ok (h : r.tree name = .ok t) : r.faults (name :: names) = r.faults names :=
  List.filterMap_cons_none (by rw [h]; rfl)

theorem faults_cons_of_error (h : r.tree name = .error fault) :
    r.faults (name :: names) = fault :: r.faults names :=
  List.filterMap_cons_some (by rw [h]; rfl)

theorem faults_eq_nil_iff :
    r.faults names = [] ↔ ∀ name ∈ names, ∃ t, r.tree name = .ok t := by
  simp only [faults, List.filterMap_eq_nil_iff, fault?_eq_none_iff]

theorem gathered_cons_of_ok (h : r.tree name = .ok t) :
    r.gathered theme (name :: names) = r.gathered (theme.insert t) names := by
  rw [gathered, List.filterMap_cons_some (b := t) (by rw [h]; rfl), List.foldl_cons]
  rfl

theorem gathered_cons_of_error (h : r.tree name = .error fault) :
    r.gathered theme (name :: names) = r.gathered theme names := by
  rw [gathered, List.filterMap_cons_none (by rw [h]; rfl)]
  rfl

/-- Nothing is lost by adding trees to a theme that holds trees of the same sources. -/
theorem mem_gathered_append (htheme : ∀ t ∈ theme.items, ∃ name, r.tree name = .ok t) :
    t ∈ (r.gathered theme names).items ↔
      t ∈ theme.items ∨ ∃ name ∈ names, r.tree name = .ok t := by
  induction names generalizing theme with
  | nil => simp [gathered]
  | cons name names ih =>
    cases htree : r.tree name with
    | error fault => simp [gathered_cons_of_error htree, ih htheme, htree]
    | ok t' =>
      have hmem : t ∈ (theme.insert t').items ↔ t ∈ theme.items ∨ t' = t := by
        rw [Catalog.mem_insert]
        constructor
        · rintro (rfl | ⟨ht, -⟩)
          · exact .inr rfl
          · exact .inl ht
        · rintro (ht | rfl)
          · by_cases hname : t.name = t'.name
            · obtain ⟨_, hof⟩ := htheme t ht
              exact .inl (tree_unique hof htree hname)
            · exact .inr ⟨ht, hname⟩
          · exact .inl rfl
      have hinsert : ∀ t ∈ (theme.insert t').items, ∃ name, r.tree name = .ok t := by
        intro t ht
        obtain rfl | ⟨ht, -⟩ := Catalog.mem_insert.1 ht
        · exact ⟨name, htree⟩
        · exact htheme t ht
      rw [gathered_cons_of_ok htree, ih hinsert, hmem]
      simp [htree, or_assoc]

end

/-- A theme of all trees holds exactly these. -/
theorem mem_gathered {names : List String} :
    t ∈ (r.gathered .empty names).items ↔ ∃ name ∈ names, r.tree name = .ok t := by
  have hnone : ∀ t ∈ Theme.empty.items, ∃ name, r.tree name = .ok t := fun _ ht =>
    absurd ht List.not_mem_nil
  rw [mem_gathered_append hnone]
  exact or_iff_right List.not_mem_nil

end Resolver

/-! ## Engines -/

namespace Engine

variable {e : Engine}

/-- Of the trees that an engine keeps, one that has the digest of the source found under its name
is the tree of this source. -/
def Steady (e : Engine) : Prop :=
  e.cache.Holds fun key c => ∀ located, e.resolver.resolve key = .ok located →
    c.digest = e.digest located.text → Template.parse located.text key = .ok c.template

/-- A steady engine that differs from `e` at most in the trees it keeps. -/
structure Continues (e e' : Engine) : Prop where
  same : ∃ cache made, e' = { e with cache, made }
  steady : e'.Steady

/-- An engine that keeps no tree yet has nothing that could be out of date. -/
theorem steady_ofConfig (resolver : Resolver) (config : Config) :
    (ofConfig resolver config).Steady :=
  Cache.Holds.of_entries_nil rfl

theorem Steady.continues (h : e.Steady) : e.Continues e :=
  ⟨⟨e.cache, e.made, rfl⟩, h⟩

theorem Continues.resolver {e' : Engine} (h : e.Continues e') : e'.resolver = e.resolver := by
  obtain ⟨⟨_, _, rfl⟩, -⟩ := h
  rfl

theorem Continues.trans {e₁ e₂ e₃ : Engine} (h : e₁.Continues e₂) (h' : e₂.Continues e₃) :
    e₁.Continues e₃ := by
  obtain ⟨⟨_, _, rfl⟩, -⟩ := h
  obtain ⟨⟨cache, made, rfl⟩, hsteady⟩ := h'
  exact ⟨⟨cache, made, rfl⟩, hsteady⟩

/-- A tree is that of the source found under the name, whether it was kept or not. -/
theorem compile_steady (h : e.Steady) (name : String) :
    (e.compile name).1.map Compiled.template = e.resolver.tree name ∧
      e.Continues (e.compile name).2 := by
  have hlooked := Cache.Holds.get? h (canonicalName name)
  obtain ⟨fault, hlocated, hcompile⟩ | ⟨located, hlocated, hcases⟩ := e.compile_cases name
  · rw [hcompile, Resolver.tree, hlocated]
    exact ⟨rfl, h.continues⟩
  rw [Resolver.tree_of_resolve hlocated]
  obtain ⟨c, hget, hdigest, hcompile⟩ | ⟨fault, hparse, hcompile⟩ | ⟨t, hparse, hcompile⟩ := hcases
  · rw [hcompile, Cache.Holds.of_get? h hget located hlocated hdigest]
    exact ⟨rfl, ⟨_, _, rfl⟩, hlooked⟩
  · rw [hcompile, hparse]
    exact ⟨rfl, ⟨_, _, rfl⟩, hlooked⟩
  · rw [hcompile, hparse]
    refine ⟨rfl, ⟨_, _, rfl⟩, hlooked.set fun located' hlocated' _ => ?_⟩
    rw [Except.ok.inj (hlocated'.symm.trans hlocated), hparse]

/-- Loading stops at the first fault. If there is none it has gathered all trees. -/
theorem loadNames_steady (h : e.Steady) (theme : Theme) (names : List String) :
    (e.loadNames theme names).1 = (match e.resolver.faults names with
      | [] => .ok (e.resolver.gathered theme names)
      | fault :: _ => .error fault) ∧
    e.Continues (e.loadNames theme names).2 := by
  induction names generalizing e theme with
  | nil => exact ⟨rfl, h.continues⟩
  | cons name names ih =>
    obtain ⟨htree, hnext⟩ := compile_steady h name
    unfold loadNames
    cases hcompile : e.compile name with
    | mk result next =>
      rw [hcompile] at htree hnext
      cases result with
      | error fault =>
        rw [Resolver.faults_cons_of_error htree.symm]
        exact ⟨rfl, hnext⟩
      | ok c =>
        obtain ⟨hloaded, hlast⟩ := ih hnext.steady (theme.insert c.template)
        rw [Resolver.faults_cons_of_ok htree.symm, Resolver.gathered_cons_of_ok htree.symm]
        exact ⟨hnext.resolver ▸ hloaded, hnext.trans hlast⟩

section

variable {names : List String}

/-- Loading fails with the fault of the first listed name that has no tree. -/
theorem loadTheme_steady (h : e.Steady) (hlist : e.resolver.list = .ok names) :
    e.loadTheme.1 = (match e.resolver.faults names with
      | [] => .ok (e.resolver.gathered .empty names)
      | fault :: _ => .error fault) ∧
    e.Continues e.loadTheme.2 := by
  have hload : e.loadTheme = e.loadNames .empty names := by
    rw [loadTheme, hlist]
  rw [hload]
  exact loadNames_steady h .empty names

/-- What is loaded has been gathered without a fault. -/
theorem loadTheme_eq_ok_iff (h : e.Steady) (hlist : e.resolver.list = .ok names) {theme : Theme} :
    e.loadTheme.1 = .ok theme ↔
      e.resolver.faults names = [] ∧ theme = e.resolver.gathered .empty names := by
  rw [(loadTheme_steady h hlist).1]
  cases e.resolver.faults names with
  | nil => simp [eq_comm]
  | cons fault faults => simp

end

/-- A theme without names to list is not loaded. -/
theorem list_of_loadTheme {theme : Theme} (hload : e.loadTheme.1 = .ok theme) :
    ∃ names, e.resolver.list = .ok names := by
  unfold loadTheme at hload
  cases hlist : e.resolver.list with
  | ok names => exact ⟨names, rfl⟩
  | error fault =>
    rw [hlist] at hload
    cases hload

/-- Checking goes on after each fault. -/
theorem gather_steady (h : e.Steady) (theme : Theme) (names : List String) :
    e.gather theme names = (e.resolver.gathered theme names,
      { compiled := (names.filter fun name => (e.resolver.tree name).isOk).length,
        faults := e.resolver.faults names }) := by
  induction names generalizing e theme with
  | nil => rfl
  | cons name names ih =>
    obtain ⟨htree, hnext⟩ := compile_steady h name
    unfold gather
    cases hcompile : e.compile name with
    | mk result next =>
      rw [hcompile] at htree hnext
      have hresolver : next.resolver = e.resolver := hnext.resolver
      cases result with
      | error fault =>
        have herror : e.resolver.tree name = .error fault := htree.symm
        simp only [ih hnext.steady, hresolver, Resolver.faults_cons_of_error herror,
          Resolver.gathered_cons_of_error herror]
        rw [List.filter_cons_of_neg (by simp [herror, Except.isOk, Except.toBool])]
      | ok c =>
        have hok : e.resolver.tree name = .ok c.template := htree.symm
        simp only [ih hnext.steady, hresolver, Resolver.faults_cons_of_ok hok,
          Resolver.gathered_cons_of_ok hok]
        rw [List.filter_cons_of_pos (by simp [hok, Except.isOk, Except.toBool]), List.length_cons]

end Engine

end BlogTheme
