import BlogTheme.Proofs.Render.EscapedReading
import BlogTheme.Proofs.Render.Opening

/-!
# Plans of plain templates

At an escaped place the arguments of plain templates come to escaped values
(`Page.valueAt_yields`). So the plans that are made there open escaped scopes and write
escaped values only, and the partials that they include are plain
(`Page.planExpression_yields`, `Page.planBlock_yields`).
-/

namespace BlogTheme

open Template (Argument Invocation)

/-- The plan writes an escaped value, or renders a body at escaped places or a plain
partial. -/
def Plan.IsEscaped : Plan → Prop
  | .write v => v.IsEscaped
  | .body places => ∀ f ∈ places, f.IsEscaped
  | .inverse => True
  | .keep _ => True
  | .insert t => Template.allPlain t.body

/-! ## Places -/

namespace Frame.IsEscaped

variable {f : Frame} (hf : f.IsEscaped)
include hf

theorem enterBlock : f.enterBlock.IsEscaped :=
  ⟨hf.raw, hf.body, hf.slots, hf.scopes⟩

theorem enterPartial (name : String) : (f.enterPartial name).IsEscaped :=
  ⟨hf.raw, hf.body, hf.slots, hf.scopes⟩

theorem enterScope {s : Scope} (hs : s.IsEscaped) : (f.enterScope s).IsEscaped :=
  ⟨hf.raw, hf.body, hf.slots, List.forall_mem_cons.2 ⟨hs, hf.scopes⟩⟩

/-- At an escaped place no value is written as markup that is not escaped already. -/
theorem write {v : Value} (hv : v.IsEscaped) : Html.IsEscaped (f.write true v) := by
  unfold Frame.write
  cases v with
  | markup s =>
    have hmarkup : (!true || f.raw || (Value.markup s).isMarkup) = true := by
      simp [Value.isMarkup]
    rw [if_pos hmarkup]
    exact hv
  | _ => simpa [Value.isMarkup, hf.raw] using Html.isEscaped_escape _

end Frame.IsEscaped

/-! ## Arguments -/

/-- The arguments of the call with a key come to escaped values. -/
def Call.IsEscaped (c : ValuedCall) : Prop :=
  ∀ entry ∈ c.hash, Yields Value.IsEscaped entry.2.value

theorem Call.givens_yields {c : ValuedCall} (hc : c.IsEscaped) :
    Yields (fun hash => ∀ entry ∈ hash, entry.2.IsEscaped) c.givens :=
  .mapM fun entry hentry => (hc entry hentry).bind fun _ hv => .ok hv

/-- Whatever a value lists is no markup. -/
theorem Value.IsItem.isEscaped {item : Value} (h : item.IsItem) : item.IsEscaped := by
  cases h <;> trivial

theorem Scope.isEscaped_loop {hash : List (String × Value)} {items : List Value}
    (hhash : ∀ entry ∈ hash, entry.2.IsEscaped) (hitems : ∀ v ∈ items, v.IsEscaped) :
    ∀ s ∈ Scope.loop hash items, s.IsEscaped := by
  intro s hs
  obtain ⟨⟨subject, index⟩, hmem, rfl⟩ := List.mem_map.1 hs
  exact ⟨hitems subject (List.fst_mem_of_mem_zipIdx hmem), hhash⟩

namespace Page

variable {page : Page} {f : Frame}

section

variable (hhelpers : page.helpers = .builtin) (hf : f.IsEscaped)
include hhelpers hf

/-- Arguments of plain templates come to escaped values. -/
theorem valueAt_yields {a : Argument} (ha : a.isPlain) :
    Yields Value.IsEscaped (page.valueAt f a) := by
  cases a with
  | path p =>
    simp only [valueAt]
    cases hfind : page.helpers.find? p with
    | none => exact .ok (Path.isEscaped_resolve hf.scopes page.request p)
    | some h =>
      rw [hhelpers] at hfind
      cases h with
      | reader r =>
        have hr : (Helper.reader r).isTrusted = false := Helpers.isTrusted_of_find? hfind ha
        have hread := Reader.read_yields page hf { name := p } hr
        exact hread.bind fun reading hreading => .ok hreading
      | builder b => exact .error trivial
  | _ => exact .ok trivial

theorem callAt_isEscaped {i : Invocation} (hi : i.isPlain) : (page.callAt f i).IsEscaped := by
  intro entry hentry
  obtain ⟨given, hgiven, rfl⟩ := List.mem_map.1 hentry
  simp only [Invocation.isPlain, Bool.and_eq_true, List.all_eq_true] at hi
  have hargument : given.2.isPlain := hi.2 given hgiven
  exact valueAt_yields hhelpers hf hargument

end

/-! ## Plans -/

section

variable (hf : f.IsEscaped) {c : ValuedCall} (hc : c.IsEscaped)
include hf hc

theorem planEntity_yields {subject : Value} (hs : subject.IsEscaped) :
    Yields Plan.IsEscaped (planEntity f c subject) := by
  unfold planEntity
  split
  · exact .ok trivial
  · refine (Call.givens_yields hc).bind fun hash hhash => .ok ?_
    have hplace : (f.enterScope { subject, hash }).IsEscaped := hf.enterScope ⟨hs, hhash⟩
    show ∀ place ∈ [f.enterScope { subject, hash }], place.IsEscaped
    exact List.forall_mem_singleton.2 hplace

theorem planItems_yields {items : List Value} (hitems : ∀ v ∈ items, v.IsItem) :
    Yields Plan.IsEscaped (planItems f c items) := by
  refine (c.limited_subset items).bind fun taken htaken => ?_
  split
  · exact .ok trivial
  · refine (Call.givens_yields hc).bind fun hash hhash => .ok ?_
    have hescaped : ∀ v ∈ taken, v.IsEscaped := fun v hv => (hitems v (htaken hv)).isEscaped
    have hscopes : ∀ s ∈ Scope.loop hash taken, s.IsEscaped := Scope.isEscaped_loop hhash hescaped
    show ∀ place ∈ (Scope.loop hash taken).map f.enterScope, place.IsEscaped
    intro place hplace
    obtain ⟨s, hs, rfl⟩ := List.mem_map.1 hplace
    exact hf.enterScope (hscopes s hs)

theorem planReading_yields {r : Reading} (hr : r.IsEscaped) :
    Yields Plan.IsEscaped (planReading f c r) := by
  cases r with
  | value v => exact .ok hr
  | flag b =>
    cases b with
    | true =>
      show ∀ place ∈ [f], place.IsEscaped
      exact List.forall_mem_singleton.2 hf
    | false => exact .ok trivial
  | entity v => exact planEntity_yields hf hc hr
  | list v => exact planItems_yields hf hc fun _ => Value.isItem_of_mem_getD

theorem planReaderBlock_yields {r : Reader} (hr : (Helper.reader r).isTrusted = false) :
    Yields Plan.IsEscaped (page.planReaderBlock f c r) := by
  cases r with
  | unescaped => cases hr
  | _ =>
    have hread := Reader.read_yields page hf c hr
    exact hread.bind fun reading hreading => planReading_yields hf hc hreading

omit hc in
theorem planReader_yields {r : Reader} (hr : (Helper.reader r).isTrusted = false)
    (hwidget : (Helper.reader r).isWidget = false) :
    Yields Plan.IsEscaped (page.planReader f c r) := by
  cases r with
  | postTags | navigation | pagination => cases hwidget
  | _ =>
    have hread := Reader.read_yields page hf c hr
    exact hread.bind fun reading hreading => .ok hreading

omit hf hc in
theorem planPartial_yields (htheme : page.theme.isPlain) (name : String) :
    Yields Plan.IsEscaped (page.planPartial name) := by
  unfold planPartial
  cases hfind : page.theme.findPartial? name with
  | none => exact .error trivial
  | some t => exact .ok (Theme.isPlain_of_findPartial? htheme hfind)

omit hc in
theorem planBuilder_yields (htheme : page.theme.isPlain) (b : Builder) :
    Yields Plan.IsEscaped (page.planBuilder f c b) := by
  cases b with
  | forEach => exact .error trivial
  | contentFor => exact .error trivial
  | block =>
    refine .of_bind fun name => .ok ?_
    show Html.IsEscaped ((f.slots.lookup name).getD "")
    cases hlookup : f.slots.lookup name with
    | none => exact Html.isEscaped_empty
    | some content => exact hf.slots (name, content) (mem_of_lookup hlookup)
  | partialOf => exact .of_bind fun name => planPartial_yields htheme name

theorem planBuilderBlock_yields (htheme : page.theme.isPlain) (b : Builder) :
    Yields Plan.IsEscaped (page.planBuilderBlock f c b) := by
  cases b with
  | forEach => exact c.loopItems_areItems.bind fun _ hitems => planItems_yields hf hc hitems
  | contentFor => exact .of_bind fun _ => .ok trivial
  | block =>
    refine .of_bind fun name => ?_
    cases hlookup : f.slots.lookup name with
    | none => exact .ok (List.forall_mem_singleton.2 hf)
    | some content => exact .ok (hf.slots (name, content) (mem_of_lookup hlookup))
  | partialOf => exact .of_bind fun name => planPartial_yields htheme name

end

section

variable (hhelpers : page.helpers = .builtin) (htheme : page.theme.isPlain) (hf : f.IsEscaped)
  {i : Invocation} (hi : i.isPlain)
include hhelpers htheme hf hi

omit htheme hf in
theorem isTrusted_of_find? {h : Helper} (hfind : page.helpers.find? i.name = some h) :
    h.isTrusted = false := by
  simp only [Invocation.isPlain, Bool.and_eq_true] at hi
  rw [hhelpers] at hfind
  exact Helpers.isTrusted_of_find? hfind hi.1.1

/-- Plans for expressions of plain templates. -/
theorem planExpression_yields (hwidget : !Template.widgetNames.contains i.name) :
    Yields Plan.IsEscaped (page.planExpression f i) := by
  unfold planExpression
  cases hfind : page.helpers.find? i.name with
  | some h =>
    have htrusted := isTrusted_of_find? hhelpers hi hfind
    rw [hhelpers] at hfind
    cases h with
    | reader r => exact planReader_yields hf htrusted (Helpers.isWidget_of_find? hfind hwidget)
    | builder b => exact planBuilder_yields hf htheme b
  | none =>
    simp only
    split
    · exact .error trivial
    · split
      · exact .error trivial
      · exact .ok (Path.isEscaped_resolve hf.scopes page.request i.name)

/-- Plans for blocks of plain templates. -/
theorem planBlock_yields : Yields Plan.IsEscaped (page.planBlock f i) := by
  unfold planBlock
  cases hfind : page.helpers.find? i.name with
  | some h =>
    have htrusted := isTrusted_of_find? hhelpers hi hfind
    have hc := callAt_isEscaped hhelpers hf hi
    cases h with
    | reader r => exact planReaderBlock_yields hf hc htrusted
    | builder b => exact planBuilderBlock_yields hf hc htheme b
  | none => exact .error trivial

end

end Page

end BlogTheme
