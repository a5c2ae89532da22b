import BlogTheme.Proofs.Engine.Compiling
import BlogTheme.Proofs.Template.Name

/-!
# Loading what is stored

A source is stored under the canonical form of the name that it is given. To load a theme, each name
under which there is a source is made canonical again, and the tree goes by the form that this
gives. So what is stored comes back under the same names only where these are canonical themselves
(`Store.loadTheme_names_iff`), which the canonical form of a name need not be: a source added as
`post.hbs.hbs` is stored and listed as `post.hbs`, and looked for as `post`.
-/

namespace BlogTheme

open Template (canonicalName parseBody IsCanonical)

/-- Whether a source can be parsed does not depend on the name it is parsed under. -/
theorem Template.parse_of_isOk {source : String} (h : (parseBody source.toList).isOk)
    (name : String) : ∃ body, Template.parse source name = .ok { name, body } := by
  cases hbody : parseBody source.toList with
  | error fault =>
    rw [hbody] at h
    cases h
  | ok body =>
    refine ⟨body, ?_⟩
    delta Template.parse
    rw [hbody]

namespace Store

/-- The sources that are stored after these actions. -/
def ofActions (actions : List Action) : Store :=
  actions.foldl after empty

variable {store : Store} {source : Source}

/-- Nothing is stored that has not been added. -/
theorem mem_everStored {actions : List Action}
    (h : source ∈ (actions.foldl Store.after store).items) : source ∈ store.everStored actions := by
  induction actions generalizing store with
  | nil => exact List.mem_append_left _ h
  | cons action actions ih =>
    obtain hstore | hlater := List.mem_append.1 (ih h)
    · obtain hkept | hadded := mem_after hstore
      · exact List.mem_append_left _ hkept
      · exact List.mem_append_right _ (List.mem_filterMap.2 ⟨action, List.mem_cons_self, hadded⟩)
    · obtain ⟨later, hmem, hadded⟩ := List.mem_filterMap.1 hlater
      exact List.mem_append_right _
        (List.mem_filterMap.2 ⟨later, List.mem_cons_of_mem _ hmem, hadded⟩)

/-- What a name has for its tree is stored under the canonical form of its canonical form. -/
theorem tree_eq (store : Store) (name : String) :
    store.resolver.tree name = match store.find? (canonicalName (canonicalName name)) with
      | some source => Template.parse source.text (canonicalName name)
      | none => .error (.templateNotFound (canonicalName (canonicalName name))) := by
  simp only [Resolver.tree, resolver]
  cases store.find? (canonicalName (canonicalName name)) <;> rfl

theorem tree_of_mem (h : source ∈ store.items) (hname : canonicalName source.name = source.name) :
    store.resolver.tree source.name = Template.parse source.text source.name := by
  have hfind : store.find? source.name = some source := Catalog.find?_eq_some_iff.2 ⟨h, rfl⟩
  rw [tree_eq, hname, hname, hfind]

/-- Where all sources can be parsed, only an absent source keeps a name from having a tree. -/
theorem exists_tree_iff (hparse : ∀ source ∈ store.items, (parseBody source.text.toList).isOk)
    {name : String} : (∃ t, store.resolver.tree name = .ok t) ↔
      canonicalName (canonicalName name) ∈ store.names := by
  rw [tree_eq]
  cases hfind : store.find? (canonicalName (canonicalName name)) with
  | none => exact iff_of_false nofun (Catalog.find?_eq_none_iff.1 hfind)
  | some source =>
    obtain ⟨hsource, hname⟩ := Catalog.find?_eq_some_iff.1 hfind
    obtain ⟨body, hparsed⟩ := Template.parse_of_isOk (hparse source hsource) (canonicalName name)
    exact iff_of_true ⟨_, hparsed⟩ (Catalog.mem_names_iff.2 ⟨source, hsource, hname⟩)

section

variable {e : Engine} (he : e.Steady) (hreads : e.resolver = store.resolver)
include he hreads

theorem loadTheme_eq_ok_iff {theme : Theme} :
    e.loadTheme.1 = .ok theme ↔
      (∀ source ∈ store.items, ∃ t, store.resolver.tree source.name = .ok t) ∧
        theme = store.resolver.gathered .empty store.names := by
  have hlist : e.resolver.list = .ok store.names := by rw [hreads]; rfl
  rw [Engine.loadTheme_eq_ok_iff he hlist, Resolver.faults_eq_nil_iff, hreads]
  simp [Catalog.names]

/-- A theme of the names of the store has been loaded only if each of them is the canonical form of
one of them, and so of itself. -/
theorem canonical_of_loadTheme {theme : Theme} (hload : e.loadTheme.1 = .ok theme)
    (hnames : theme.names = store.names) (hsource : source ∈ store.items) :
    canonicalName source.name = source.name := by
  obtain ⟨-, rfl⟩ := (loadTheme_eq_ok_iff he hreads).1 hload
  have honto : ∀ n ∈ store.names, ∃ m ∈ store.names, canonicalName m = n := by
    intro n hn
    rw [← hnames] at hn
    obtain ⟨t, ht, rfl⟩ := Catalog.mem_names_iff.1 hn
    obtain ⟨name, hname, htree⟩ := Resolver.mem_gathered.1 ht
    exact ⟨name, hname, (Resolver.name_of_tree htree).symm⟩
  exact Template.canonicalName_of_onto honto _ (Catalog.mem_names_iff.2 ⟨source, hsource, rfl⟩)

/-- Sources under canonical names are loaded under these. -/
theorem loadTheme_of_canonical
    (hparse : ∀ source ∈ store.items, (parseBody source.text.toList).isOk)
    (hcanonical : ∀ source ∈ store.items, canonicalName source.name = source.name) :
    ∃ theme, e.loadTheme.1 = .ok theme ∧ theme.names = store.names ∧
      ∀ source ∈ store.items, ∃ t, theme.find? source.name = some t ∧
        Template.parse source.text source.name = .ok t := by
  have htree : ∀ source ∈ store.items, ∃ body,
      store.resolver.tree source.name = .ok { name := source.name, body } ∧
        Template.parse source.text source.name = .ok { name := source.name, body } := by
    intro source hsource
    obtain ⟨body, hparsed⟩ := Template.parse_of_isOk (hparse source hsource) source.name
    exact ⟨body, (tree_of_mem hsource (hcanonical source hsource)).trans hparsed, hparsed⟩
  have hmem {t : Template} : t ∈ (store.resolver.gathered .empty store.names).items ↔
      ∃ source ∈ store.items, store.resolver.tree source.name = .ok t := by
    simp [Resolver.mem_gathered, Catalog.names]
  refine ⟨_, (loadTheme_eq_ok_iff he hreads).2 ⟨fun source hsource => ?_, rfl⟩,
    Catalog.names_eq fun n => ?_, fun source hsource => ?_⟩
  · obtain ⟨body, hok, -⟩ := htree source hsource
    exact ⟨_, hok⟩
  · simp only [Catalog.mem_names_iff, hmem]
    constructor
    · rintro ⟨t, ⟨source, hsource, hok⟩, rfl⟩
      exact ⟨source, hsource, (Resolver.name_of_tree hok ▸ (hcanonical source hsource).symm)⟩
    · rintro ⟨source, hsource, rfl⟩
      obtain ⟨body, hok, -⟩ := htree source hsource
      exact ⟨_, ⟨source, hsource, hok⟩, rfl⟩
  · obtain ⟨body, hok, hparsed⟩ := htree source hsource
    exact ⟨_, Catalog.find?_eq_some_iff.2 ⟨hmem.2 ⟨source, hsource, hok⟩, rfl⟩, hparsed⟩

end

/-- Where all sources that are stored can be parsed, a theme can be loaded exactly if there is a
source under what each stored name becomes when it is made canonical twice. It has the names that
the resolver lists, each with the tree of the source that is stored under it, exactly if these
names are canonical. -/
theorem loadTheme_names_iff (actions : List Action) {e : Engine} (he : e.Steady)
    (hreads : e.resolver = (ofActions actions).resolver)
    (hparse : ∀ source ∈ (ofActions actions).items, (parseBody source.text.toList).isOk) :
    (∀ source ∈ (ofActions actions).items, ∃ name, Action.add name source.text ∈ actions ∧
      source.name = canonicalName name) ∧
    ((∃ theme, e.loadTheme.1 = .ok theme) ↔ ∀ n ∈ (ofActions actions).names,
      canonicalName (canonicalName n) ∈ (ofActions actions).names) ∧
    ((∃ theme, e.loadTheme.1 = .ok theme ∧ e.resolver.list = .ok theme.names ∧
        ∀ source ∈ (ofActions actions).items, ∃ t, theme.find? source.name = some t ∧
          Template.parse source.text source.name = .ok t) ↔
      ∀ n ∈ (ofActions actions).names, IsCanonical n.toList) := by
  refine ⟨fun source hsource => ?stored, ?loads, ?sound, ?complete⟩
  case stored =>
    obtain ⟨action, hmem, hadds⟩ := List.mem_filterMap.1 (mem_everStored hsource)
    cases action with
    | add name text =>
      obtain rfl := Option.some.inj hadds
      exact ⟨name, hmem, rfl⟩
    | _ => exact nomatch hadds
  case loads =>
    simp only [loadTheme_eq_ok_iff he hreads, exists_and_left, exists_eq, and_true,
      exists_tree_iff hparse]
    simp [Catalog.names]
  case sound =>
    rintro ⟨theme, hload, hlist, -⟩ n hn
    rw [hreads] at hlist
    obtain ⟨source, hsource, rfl⟩ := Catalog.mem_names_iff.1 hn
    exact Template.canonicalName_eq_self_iff.1
      (canonical_of_loadTheme he hreads hload (Except.ok.inj hlist).symm hsource)
  case complete =>
    intro hcanonical
    obtain ⟨theme, hload, hnames, htrees⟩ := loadTheme_of_canonical he hreads hparse
      fun source hsource => Template.canonicalName_eq_self_iff.2
        (hcanonical _ (Catalog.mem_names_iff.2 ⟨source, hsource, rfl⟩))
    refine ⟨theme, hload, ?_, htrees⟩
    rw [hreads, hnames]
    rfl

/-- Two templates, one of them added again under another spelling of its name. -/
theorem loadTheme_names_respelled :
    let actions : List Action := [.add "./index.hbs" "a", .add "post" "b", .add "index" "c"]
    ∃ theme, (Engine.ofConfig (ofActions actions).resolver {}).loadTheme.1 = .ok theme ∧
      (ofActions actions).resolver.list = .ok theme.names := by
  intro actions
  have hparse : ∀ source ∈ (ofActions actions).items, (parseBody source.text.toList).isOk := by
    decide +kernel
  have hcanonical : ∀ n ∈ (ofActions actions).names, IsCanonical n.toList := by
    decide +kernel
  obtain ⟨theme, hload, hlist, -⟩ :=
    (loadTheme_names_iff actions (Engine.steady_ofConfig _ _) rfl hparse).2.2.2 hcanonical
  exact ⟨theme, hload, hlist⟩

/-- A template whose file has the ending twice is listed, and then cannot be loaded. -/
theorem loadTheme_double_ending :
    let store := ofActions [.add "post.hbs.hbs" "x"]
    store.resolver.list = .ok ["post.hbs"] ∧
      (∀ source ∈ store.items, (parseBody source.text.toList).isOk) ∧
      ∀ config, (Engine.ofConfig store.resolver config).loadTheme.1 =
        .error (.templateNotFound "post") := by
  intro store
  have hlist : store.resolver.list = .ok ["post.hbs"] :=
    congrArg Except.ok (by decide +kernel : store.names = ["post.hbs"])
  have hform : canonicalName (canonicalName "post.hbs") = "post" := by
    decide +kernel
  have habsent : store.find? "post" = none := by
    decide +kernel
  have htree : store.resolver.tree "post.hbs" = .error (.templateNotFound "post") := by
    rw [tree_eq, hform, habsent]
  refine ⟨hlist, by decide +kernel, fun config => ?_⟩
  have hfaults : (Engine.ofConfig store.resolver config).resolver.faults ["post.hbs"] =
      [.templateNotFound "post"] := Resolver.faults_cons_of_error htree
  have hload := (Engine.loadTheme_steady (Engine.steady_ofConfig store.resolver config) hlist).1
  rw [hload, hfaults]

end Store

end BlogTheme
