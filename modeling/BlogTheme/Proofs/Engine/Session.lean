import BlogTheme.Engine.Basic
import BlogTheme.Proofs.Engine.Kept
import BlogTheme.Proofs.Theme.Catalog

/-!
# Keeping trees

Sources may be added, replaced and taken out between the uses of an engine. What the engine
answers is nevertheless what it would answer if it parsed each source anew
(`Session.run_answers`, by induction on the actions), so that a cache of any capacity and one
that keeps nothing cannot be told apart (`Session.run_transparent`). The invariant of a run is
that every tree was parsed, under the name under which it is kept, from a source that was stored
at some time (`Engine.Backed`). It is enough where the digest tells apart the sources that were
ever stored under one name.
-/

namespace BlogTheme

open Template (canonicalName)

/-- What can be done with an engine and the sources that it reads. -/
inductive Action where
  | add (name text : String)
  | remove (name : String)
  | clear
  | compile (name : String)
  | load
  | clearCache
  deriving DecidableEq, Repr

/-- What an action answers; of a tree that was asked for, also the digest of its source. -/
inductive Answer where
  | done
  | tree (result : Except ThemeError (Template × UInt64))
  | theme (result : Except ThemeError Theme)

/-- An engine, and the sources in memory that it reads. -/
structure Session where
  store : Store
  engine : Engine

namespace Session

/-- A session with other sources, which its engine reads from now on. -/
def withStore (s : Session) (store : Store) : Session :=
  { store, engine := { s.engine with resolver := store.resolver } }

/-- What an action answers, and the session after it. -/
def step (s : Session) : Action → Answer × Session
  | .add name text => (.done, s.withStore (s.store.add name text))
  | .remove name => (.done, s.withStore (s.store.remove name))
  | .clear => (.done, s.withStore s.store.clear)
  | .compile name =>
    let (result, engine) := s.engine.compile name
    (.tree (result.map fun c => (c.template, c.digest)), { s with engine })
  | .load =>
    let (result, engine) := s.engine.loadTheme
    (.theme result, { s with engine })
  | .clearCache => (.done, { s with engine := s.engine.clearCache })

/-- What the actions answer one after another, and the session after them. -/
def run (s : Session) : List Action → List Answer × Session
  | [] => ([], s)
  | action :: actions =>
    let (answer, s) := s.step action
    let (answers, s) := s.run actions
    (answer :: answers, s)

end Session

/-! ## Without a cache -/

namespace Store

/-- The tree of the source that is stored now, with the digest of this source. -/
def parsed (store : Store) (digest : String → UInt64) (name : String) :
    Except ThemeError (Template × UInt64) := do
  let located ← store.resolver.resolve (canonicalName name)
  let t ← Template.parse located.text (canonicalName name)
  return (t, digest located.text)

/-- A theme to which the trees of these names have been added. -/
def parsedNames (store : Store) (digest : String → UInt64) (theme : Theme)
    (names : List String) : Except ThemeError Theme :=
  names.foldlM (fun theme name => do return theme.insert (← store.parsed digest name).1) theme

/-- What an action answers where every source is parsed anew. -/
def answer (store : Store) (digest : String → UInt64) : Action → Answer
  | .compile name => .tree (store.parsed digest name)
  | .load => .theme (store.parsedNames digest .empty store.names)
  | _ => .done

/-- The sources that an action leaves. -/
def after (store : Store) : Action → Store
  | .add name text => store.add name text
  | .remove name => store.remove name
  | .clear => store.clear
  | _ => store

/-- What the actions answer one after another where every source is parsed anew. -/
def answers (store : Store) (digest : String → UInt64) : List Action → List Answer
  | [] => []
  | action :: actions => store.answer digest action :: (store.after action).answers digest actions

end Store

/-! ## The sources that are ever stored -/

/-- The source that an action stores. -/
def Action.source? : Action → Option Source
  | .add name text => some { name := canonicalName name, text }
  | _ => none

/-- The sources that are stored at some time when these actions are carried out. -/
def Store.everStored (store : Store) (actions : List Action) : List Source :=
  store.items ++ actions.filterMap Action.source?

/-- A digest tells the sources apart that are stored under one name. -/
def TellsApart (digest : String → UInt64) (sources : List Source) : Prop :=
  ∀ a ∈ sources, ∀ b ∈ sources, a.name = b.name → digest a.text = digest b.text → a.text = b.text

instance (digest : String → UInt64) (sources : List Source) :
    Decidable (TellsApart digest sources) :=
  inferInstanceAs (Decidable (∀ a ∈ sources, ∀ b ∈ sources, _ → _ → _))

theorem Store.resolve_ok {store : Store} {name : String} {located : Located}
    (h : store.resolver.resolve name = .ok located) :
    { name := canonicalName name, text := located.text } ∈ store.items := by
  simp only [resolver] at h
  cases hfind : store.find? (canonicalName name) with
  | none =>
    rw [hfind] at h
    cases h
  | some source =>
    rw [hfind] at h
    cases h
    rw [← Catalog.name_of_find? hfind]
    exact Catalog.mem_of_find? hfind

theorem Store.parsed_of_resolve {store : Store} {digest : String → UInt64} {name : String}
    {located : Located} (h : store.resolver.resolve (canonicalName name) = .ok located) :
    store.parsed digest name =
      (Template.parse located.text (canonicalName name)).map (·, digest located.text) := by
  rw [parsed, h]
  show (do
    let t ← Template.parse located.text (canonicalName name)
    return (t, digest located.text)) = _
  cases Template.parse located.text (canonicalName name) <;> rfl

theorem Store.parsed_ok {store : Store} {digest : String → UInt64} {name : String} {t : Template}
    {d : UInt64} (h : store.parsed digest name = .ok (t, d)) :
    ∃ located, store.resolver.resolve (canonicalName name) = .ok located ∧
      Template.parse located.text (canonicalName name) = .ok t ∧ d = digest located.text := by
  cases hlocated : store.resolver.resolve (canonicalName name) with
  | error fault =>
    rw [parsed, hlocated] at h
    cases h
  | ok located =>
    rw [parsed_of_resolve hlocated] at h
    cases hparse : Template.parse located.text (canonicalName name) with
    | error fault =>
      rw [hparse] at h
      cases h
    | ok t' =>
      rw [hparse] at h
      cases h
      exact ⟨located, rfl, hparse, rfl⟩

/-- What is stored after an action was stored before, or the action stores it. -/
theorem Store.mem_after {store : Store} {action : Action} {source : Source}
    (h : source ∈ (store.after action).items) :
    source ∈ store.items ∨ action.source? = some source := by
  cases action with
  | add name text =>
    rcases Catalog.mem_of_mem_place h with rfl | h
    · exact .inr rfl
    · exact .inl h
  | remove name => exact .inl (List.mem_filter.1 h).1
  | clear => exact absurd h List.not_mem_nil
  | compile | load | clearCache => exact .inl h

/-! ## The invariant -/

/-- A tree was parsed under a name from one of the sources that the resolver of a store could
find under this name. -/
def Compiled.OfSource (digest : String → UInt64) (sources : List Source) (name : String)
    (c : Compiled) : Prop :=
  ∃ source ∈ sources, source.name = canonicalName name ∧
    Template.parse source.text name = .ok c.template ∧ c.digest = digest source.text

/-- An engine reads the sources of a store, and every tree that it keeps was parsed from one of
the given sources, to which those of the store belong. -/
structure Engine.Backed (digest : String → UInt64) (sources : List Source) (store : Store)
    (e : Engine) : Prop where
  digests : e.digest = digest
  reads : e.resolver = store.resolver
  stored : ∀ source ∈ store.items, source ∈ sources
  kept : e.cache.Holds (Compiled.OfSource digest sources)

variable {digest : String → UInt64} {sources : List Source} {store : Store}

namespace Engine

variable {e : Engine}

/-- What asking for a tree comes to. There is no source, or a fresh tree is found in the cache,
or the source is parsed, and if this does not fail the tree is kept. -/
theorem compile_cases (e : Engine) (name : String) :
    (∃ fault, e.resolver.resolve (canonicalName name) = .error fault ∧
      e.compile name = (.error fault, e)) ∨
    ∃ located, e.resolver.resolve (canonicalName name) = .ok located ∧
      let (kept, cache) := e.cache.get? (canonicalName name)
      (∃ c, kept = some c ∧ c.digest = e.digest located.text ∧
        e.compile name = (.ok c, { e with cache })) ∨
      (∃ fault, Template.parse located.text (canonicalName name) = .error fault ∧
        e.compile name = (.error fault, { e with cache })) ∨
      ∃ template, Template.parse located.text (canonicalName name) = .ok template ∧
        let c : Compiled := { template, digest := e.digest located.text, serial := e.made }
        e.compile name =
          (.ok c, { e with cache := cache.set (canonicalName name) c, made := e.made + 1 }) := by
  unfold compile
  cases hlocated : e.resolver.resolve (canonicalName name) with
  | error fault => exact .inl ⟨fault, rfl, by simp only [hlocated]⟩
  | ok located =>
    refine .inr ⟨located, rfl, ?_⟩
    simp only [hlocated, Cache.getFresh?]
    cases hfresh : (e.cache.get? (canonicalName name)).1.filter
        fun c => c.digest == e.digest located.text with
    | some c =>
      obtain ⟨hkept, hdigest⟩ := Option.filter_eq_some_iff.1 hfresh
      exact .inl ⟨c, hkept, beq_iff_eq.1 hdigest, rfl⟩
    | none =>
      cases Template.parse located.text (canonicalName name) with
      | error fault => exact .inr (.inl ⟨fault, rfl, rfl⟩)
      | ok t => exact .inr (.inr ⟨t, rfl, rfl⟩)

/-- A tree is the one of the source that is stored now, whether it was kept or not, and the
trees that are kept afterwards are again of sources that were stored at some time. -/
theorem compile_backed (hd : TellsApart digest sources) (h : e.Backed digest sources store)
    (name : String) :
    ((e.compile name).1.map fun c => (c.template, c.digest)) = store.parsed digest name ∧
      (e.compile name).2.Backed digest sources store := by
  obtain ⟨rfl, hreads, hstored, hkept⟩ := h
  have hlooked := hkept.get? (canonicalName name)
  obtain ⟨fault, hlocated, hcompile⟩ | ⟨located, hlocated, hcases⟩ := e.compile_cases name
  all_goals rw [hreads] at hlocated
  · rw [hcompile, Store.parsed, hlocated]
    exact ⟨rfl, rfl, hreads, hstored, hkept⟩
  have hnow := hstored _ (Store.resolve_ok hlocated)
  rw [Store.parsed_of_resolve hlocated]
  obtain ⟨c, hget, hdigest, hcompile⟩ | ⟨fault, hparse, hcompile⟩ | ⟨t, hparse, hcompile⟩ := hcases
  · -- The tree that was kept is of a source with the digest of the one that is stored now.
    obtain ⟨source, hsource, hname, hparse, hof⟩ := hkept.of_get? hget
    have htext : source.text = located.text := hd _ hsource _ hnow hname (hof.symm.trans hdigest)
    rw [hcompile, ← htext, hparse, htext, ← hdigest]
    exact ⟨rfl, rfl, hreads, hstored, hlooked⟩
  · rw [hcompile, hparse]
    exact ⟨rfl, rfl, hreads, hstored, hlooked⟩
  · rw [hcompile, hparse]
    exact ⟨rfl, rfl, hreads, hstored, hlooked.set ⟨_, hnow, rfl, hparse, rfl⟩⟩

/-- Where no tree can be made, the cache stays as it was but for the order of its entries. -/
theorem compile_error_perm (h : e.Backed digest sources store) {name : String} {fault : ThemeError}
    {e' : Engine} (herror : e.compile name = (.error fault, e')) :
    e'.cache.entries.Perm e.cache.entries := by
  have hlooked := Cache.get?_perm h.kept (canonicalName name)
  obtain ⟨_, -, hcompile⟩ | ⟨_, -, ⟨c, -, -, hcompile⟩ | ⟨_, -, hcompile⟩ | ⟨t, -, hcompile⟩⟩ :=
    e.compile_cases name
  all_goals
    rw [hcompile] at herror
    cases herror
  · exact .refl _
  · exact hlooked

/-- A theme is filled with the trees of the sources that are stored now. -/
theorem loadNames_backed (hd : TellsApart digest sources) (h : e.Backed digest sources store)
    (theme : Theme) (names : List String) :
    (e.loadNames theme names).1 = store.parsedNames digest theme names ∧
      (e.loadNames theme names).2.Backed digest sources store := by
  induction names generalizing e theme with
  | nil => exact ⟨rfl, h⟩
  | cons name names ih =>
    obtain ⟨hread, hnext⟩ := compile_backed hd h name
    unfold loadNames
    rw [Store.parsedNames, List.foldlM_cons, ← hread]
    cases hcompile : e.compile name with
    | mk result next =>
      rw [hcompile] at hnext
      cases result with
      | error fault => exact ⟨rfl, hnext⟩
      | ok c => exact ih hnext (theme.insert c.template)

end Engine

namespace Session

variable {s : Session}

/-- An action answers what it would answer if every source were parsed anew, and keeps the
invariant. -/
theorem step_answer (hd : TellsApart digest sources) (h : s.engine.Backed digest sources s.store)
    {action : Action} (hadds : ∀ source, action.source? = some source → source ∈ sources) :
    (s.step action).1 = s.store.answer digest action ∧
      (s.step action).2.store = s.store.after action ∧
      (s.step action).2.engine.Backed digest sources (s.store.after action) := by
  have hafter : ∀ source ∈ (s.store.after action).items, source ∈ sources := fun source hs =>
    (Store.mem_after hs).elim (h.stored source) (hadds source)
  cases action with
  | add | remove | clear => exact ⟨rfl, rfl, h.digests, rfl, hafter, h.kept⟩
  | compile name =>
    obtain ⟨hread, hnext⟩ := Engine.compile_backed hd h name
    exact ⟨congrArg Answer.tree hread, rfl, hnext⟩
  | load =>
    obtain ⟨hread, hnext⟩ := Engine.loadNames_backed hd h .empty s.store.names
    have hload : s.engine.loadTheme = s.engine.loadNames .empty s.store.names := by
      rw [Engine.loadTheme, h.reads]
      rfl
    simp only [step, hload]
    exact ⟨congrArg Answer.theme hread, rfl, hnext⟩
  | clearCache => exact ⟨rfl, rfl, h.digests, h.reads, h.stored, Cache.Holds.clear⟩

/-- Actions answer what they would answer if every source were parsed anew. -/
theorem run_answers (hd : TellsApart digest sources) (h : s.engine.Backed digest sources s.store)
    {actions : List Action}
    (hadds : ∀ action ∈ actions, ∀ source, action.source? = some source → source ∈ sources) :
    (s.run actions).1 = s.store.answers digest actions ∧
      (s.run actions).2.engine.Backed digest sources (s.run actions).2.store := by
  induction actions generalizing s with
  | nil => exact ⟨rfl, h⟩
  | cons action actions ih =>
    obtain ⟨hanswer, hstore, hnext⟩ := step_answer hd h (hadds action (by simp))
    rw [← hstore] at hnext
    obtain ⟨hanswers, hlast⟩ := ih hnext fun a ha => hadds a (List.mem_cons_of_mem _ ha)
    rw [hstore] at hanswers
    refine ⟨?_, hlast⟩
    rw [Store.answers, ← hanswer, ← hanswers]
    rfl

/-- Whatever is done from an empty cache, an engine that keeps trees answers as one that keeps
none, provided that the digest tells apart the sources ever stored under one name. Afterwards a
tree that it makes or finds is the one of the source that is stored then, and where it has none
its cache stays as it was but for the order of its entries. -/
theorem run_transparent (store : Store) (digest : String → UInt64) (helpers : Helpers)
    (config : Config) (capacity : Nat) (actions : List Action)
    (hd : TellsApart digest (store.everStored actions)) :
    let withCache (cache : Cache Compiled) : Session :=
      { store, engine := { resolver := store.resolver, cache, digest, helpers, config } }
    let keeping := (withCache (.ofCapacity capacity)).run actions
    let parsing := (withCache .never).run actions
    keeping.1 = parsing.1 ∧
      ∀ name result e', keeping.2.engine.compile name = (result, e') →
        (∀ c, result = .ok c →
          ∃ located, keeping.2.store.resolver.resolve (canonicalName name) = .ok located ∧
            Template.parse located.text (canonicalName name) = .ok c.template ∧
            c.digest = digest located.text) ∧
        ∀ fault, result = .error fault →
          e'.cache.entries.Perm keeping.2.engine.cache.entries := by
  intro withCache keeping parsing
  have hbacked (cache : Cache Compiled) (hempty : cache.entries = []) :
      (withCache cache).engine.Backed digest (store.everStored actions) (withCache cache).store :=
    ⟨rfl, rfl, fun _ hs => List.mem_append_left _ hs, .of_entries_nil hempty⟩
  have hadds : ∀ action ∈ actions, ∀ source, action.source? = some source →
      source ∈ store.everStored actions := fun action ha source hs =>
    List.mem_append_right _ (List.mem_filterMap.2 ⟨action, ha, hs⟩)
  obtain ⟨hkeeping, hlast⟩ := run_answers hd (hbacked (.ofCapacity capacity) rfl) hadds
  obtain ⟨hparsing, -⟩ := run_answers hd (hbacked .never rfl) hadds
  refine ⟨hkeeping.trans hparsing.symm, fun name result e' hcompile => ⟨?_, ?_⟩⟩
  · rintro c rfl
    have hparsed := (Engine.compile_backed hd hlast name).1
    rw [hcompile] at hparsed
    exact Store.parsed_ok hparsed.symm
  · rintro fault rfl
    exact Engine.compile_error_perm hlast hcompile

/-- What an editor does who replaces a source, breaks it and takes the change back. -/
def editing : List Action :=
  [.add "./index.hbs" "\x7b\x7btitle\x7d\x7d", .compile "index",
    .add "index" "\x7b\x7b#if", .compile "index", .load, .add "about" "", .load,
    .add "index" "\x7b\x7btitle\x7d\x7d", .compile "index.hbs", .load]

/-- Editing with room for one tree. The digest here is the length of a source. -/
theorem run_transparent_editing :
    let digest (text : String) : UInt64 := .ofNat text.toList.length
    TellsApart digest (Store.empty.everStored editing) ∧
      let withCache (cache : Cache Compiled) : Session :=
        { store := .empty, engine := { resolver := Store.empty.resolver, cache, digest } }
      ((withCache (.ofCapacity 1)).run editing).1 = ((withCache .never).run editing).1 := by
  have hd : TellsApart (fun text => .ofNat text.toList.length)
      (Store.empty.everStored editing) := by
    decide +kernel
  exact ⟨hd, (run_transparent .empty _ .builtin {} 1 editing hd).1⟩

end Session

end BlogTheme
