import BlogTheme.Proofs.Outcome
import BlogTheme.Proofs.Render.Invokes

/-!
# Where bodies are rendered

The body of a block is rendered at the place of the block, there without escaping, or in a
scope that is opened (`Frame.Opens`). What a scope holds depends on the helper
(`Scope.OpenedBy`): its subject is always there, and it tells the place of an item exactly
if the helper goes over items. This is said once, for all plans (`Page.planBlock_opens`), and
what is done for a block inside of a body is derived from it.
-/

namespace BlogTheme

open Template (Invocation)

/-- With a body the reader goes over items. -/
def Reader.iterates : Reader → Bool
  | .posts | .recommends | .allTags | .postTags | .navigation => true
  | _ => false

/-- With a body the helper goes over items. -/
def Helper.iterates : Helper → Bool
  | .reader r => r.iterates
  | .builder b => b == .forEach

/-- A scope as a helper opens it. -/
structure Scope.OpenedBy (h : Helper) (s : Scope) : Prop where
  present : s.subject.isAbsent = false
  iteration_iff : s.iteration.isSome = h.iterates
  index_lt : ∀ place, s.iteration = some place → place.index < place.length

/-- A place at which a helper has a body rendered that is called at the place `f`. -/
inductive Frame.Opens (h : Helper) (f : Frame) : Frame → Prop
  | here : Opens h f f
  | unescaped : Opens h f f.unescaped
  | scope {s : Scope} (hs : s.OpenedBy h) : Opens h f (f.enterScope s)

theorem Frame.Opens.surrounds {h : Helper} {f place : Frame} (hplace : f.Opens h place) :
    f.Surrounds place := by
  cases hplace with
  | here => exact .refl f
  | unescaped => exact .unescaped f
  | scope hs => exact .enterScope f _

/-- A plan that renders a body only at places that the helper opens. -/
def Plan.Opens (h : Helper) (f : Frame) : Plan → Prop
  | .body frames => ∀ place ∈ frames, f.Opens h place
  | _ => True

/-! ## Items -/

/-- The value is one that a list can have for an item. -/
inductive Value.IsItem : Value → Prop
  | post (p : Post) : IsItem (.post p)
  | tag (t : Tag) : IsItem (.tag t)
  | navItem (i : NavItem) : IsItem (.navItem i)

namespace Value

variable {v item : Value}

theorem IsItem.present (h : item.IsItem) : item.isAbsent = false := by
  cases h <;> rfl

theorem isItem_of_mem_items {items : List Value} (hitems : v.items? = some items)
    (hitem : item ∈ items) : item.IsItem := by
  have hmap {α : Type} {make : α → Value} (hmake : ∀ a, (make a).IsItem) {as : List α}
      (hitem : item ∈ as.map make) : item.IsItem := by
    obtain ⟨a, -, rfl⟩ := List.mem_map.1 hitem
    exact hmake a
  cases v with
  | posts ps =>
    cases hitems
    exact hmap .post hitem
  | tags ts =>
    cases hitems
    exact hmap .tag hitem
  | navigation is =>
    cases hitems
    exact hmap .navItem hitem
  | _ => cases hitems

theorem isItem_of_mem_getD (hitem : item ∈ v.items?.getD []) : item.IsItem := by
  cases hitems : v.items? with
  | none =>
    rw [hitems] at hitem
    cases hitem
  | some items =>
    rw [hitems] at hitem
    exact isItem_of_mem_items hitems hitem

end Value

theorem Call.loopItems_areItems (c : ValuedCall) :
    Yields (fun items => ∀ v ∈ items, v.IsItem) c.loopItems := by
  unfold Call.loopItems
  cases c.params with
  | nil => exact .error trivial
  | cons g params =>
    refine .of_bind fun v => ?_
    cases hitems : v.items? with
    | some items => exact .ok fun item hitem => Value.isItem_of_mem_items hitems hitem
    | none =>
      simp only
      split
      · exact .ok nofun
      · exact .error trivial

/-- Only items of the list are gone over. -/
theorem Call.limited_subset (c : ValuedCall) (items : List Value) :
    Yields (· ⊆ items) (c.limited items) := by
  refine .of_bind fun limit? => ?_
  cases limit? with
  | none => exact .ok (List.Subset.refl items)
  | some limit => exact .ok (List.take_subset limit items)

/-- The scopes of a loop tell the places of items that are there. -/
theorem Scope.loop_openedBy {h : Helper} (hh : h.iterates = true) {hash : List (String × Value)}
    {items : List Value} (hitems : ∀ v ∈ items, v.IsItem) :
    ∀ s ∈ Scope.loop hash items, s.OpenedBy h := by
  intro s hs
  obtain ⟨⟨subject, index⟩, hmem, rfl⟩ := List.mem_map.1 hs
  refine ⟨(hitems subject (List.fst_mem_of_mem_zipIdx hmem)).present, hh.symm, ?_⟩
  rintro place ⟨⟩
  exact List.snd_lt_of_mem_zipIdx hmem

/-! ## Plans -/

namespace Page

variable {page : Page} {f : Frame} {h : Helper}

theorem planEntity_opens (hh : h.iterates = false) (c : ValuedCall) (subject : Value) :
    Yields (Plan.Opens h f) (planEntity f c subject) := by
  unfold planEntity
  split
  · exact .ok trivial
  · rename_i hpresent
    refine .of_bind fun hash => .ok ?_
    have hscope : ({ subject, hash } : Scope).OpenedBy h :=
      ⟨Bool.eq_false_iff.2 hpresent, hh.symm, nofun⟩
    show ∀ place ∈ [f.enterScope { subject, hash }], f.Opens h place
    exact List.forall_mem_singleton.2 (.scope hscope)

theorem planItems_opens (hh : h.iterates = true) (c : ValuedCall) {items : List Value}
    (hitems : ∀ v ∈ items, v.IsItem) : Yields (Plan.Opens h f) (planItems f c items) := by
  refine (c.limited_subset items).bind fun taken htaken => ?_
  split
  · exact .ok trivial
  · refine Yields.of_bind fun hash => .ok ?_
    have hscopes : ∀ s ∈ Scope.loop hash taken, s.OpenedBy h :=
      Scope.loop_openedBy hh fun v hv => hitems v (htaken hv)
    show ∀ place ∈ (Scope.loop hash taken).map f.enterScope, f.Opens h place
    intro place hplace
    obtain ⟨s, hs, rfl⟩ := List.mem_map.1 hplace
    exact .scope (hscopes s hs)

/-- A reader finds a list only if it goes over items, and an entity only if it does not. -/
theorem read_opens (c : ValuedCall) (r : Reader) :
    Yields (fun reading => Yields (Plan.Opens (.reader r) f) (planReading f c reading))
      (r.read page f c) := by
  have hvalue (v : Value) : Yields (Plan.Opens (.reader r) f) (planReading f c (.value v)) :=
    .ok trivial
  have hflag (b : Bool) : Yields (Plan.Opens (.reader r) f) (planReading f c (.flag b)) := by
    cases b with
    | true => exact List.forall_mem_singleton.2 .here
    | false => exact .ok trivial
  have hentity (hr : (Helper.reader r).iterates = false) (v : Value) :
      Yields (Plan.Opens (.reader r) f) (planReading f c (.entity v)) :=
    planEntity_opens hr c v
  have hlist (hr : (Helper.reader r).iterates = true) (v : Value) :
      Yields (Plan.Opens (.reader r) f) (planReading f c (.list v)) :=
    planItems_opens hr c fun _ => Value.isItem_of_mem_getD
  cases r with
  | posts | recommends | allTags | postTags | navigation => exact .ok (hlist rfl _)
  | post | prevPost | nextPost | author | pagination => exact .ok (hentity rfl _)
  | pseudo | featured | navCurrent | hasPrev | hasNext => exact .ok (hflag _)
  | condition holds =>
    simp only [Reader.read]
    split
    · exact .error trivial
    · exact .of_bind fun _ => .ok (hflag _)
  | layoutDirective =>
    simp only [Reader.read]
    split
    · exact .ok (hvalue _)
    · exact .error trivial
  | asset =>
    simp only [Reader.read]
    refine .of_bind fun v => ?_
    split
    · exact .error trivial
    · exact .ok (hvalue _)
  | _ => first | exact .ok (hvalue _) | exact .of_bind fun _ => .ok (hvalue _)

theorem planReaderBlock_opens (c : ValuedCall) (r : Reader) :
    Yields (Plan.Opens (.reader r) f) (page.planReaderBlock f c r) := by
  by_cases hr : r = .unescaped
  · subst hr
    exact List.forall_mem_singleton.2 .unescaped
  · rw [planReaderBlock_eq hr]
    exact (read_opens c r).bind fun _ hplan => hplan

theorem planPartial_opens (name : String) : Yields (Plan.Opens h f) (page.planPartial name) := by
  unfold planPartial
  cases page.theme.findPartial? name with
  | none => exact .error trivial
  | some t => exact .ok trivial

theorem planBuilderBlock_opens (c : ValuedCall) (b : Builder) :
    Yields (Plan.Opens (.builder b) f) (page.planBuilderBlock f c b) := by
  cases b with
  | forEach => exact c.loopItems_areItems.bind fun items hitems => planItems_opens rfl c hitems
  | contentFor => exact .of_bind fun _ => .ok trivial
  | block =>
    refine .of_bind fun name => ?_
    cases f.slots.lookup name with
    | some content => exact .ok trivial
    | none => exact List.forall_mem_singleton.2 .here
  | partialOf => exact .of_bind fun name => planPartial_opens name

/-- Blocks have their bodies rendered where the helper of their name opens a place. -/
theorem planBlock_opens (page : Page) (f : Frame) (i : Invocation) :
    Yields (fun plan => ∃ h, page.helpers.find? i.name = some h ∧ plan.Opens h f)
      (page.planBlock f i) := by
  unfold planBlock
  cases page.helpers.find? i.name with
  | none => exact .error trivial
  | some h =>
    cases h with
    | reader r => exact (planReaderBlock_opens _ r).mono fun plan hplan => ⟨_, rfl, hplan⟩
    | builder b => exact (planBuilderBlock_opens _ b).mono fun plan hplan => ⟨_, rfl, hplan⟩

end Page

end BlogTheme
