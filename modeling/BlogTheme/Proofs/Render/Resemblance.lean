import BlogTheme.Proofs.Outcome
import BlogTheme.Proofs.Render.Transfer

/-!
# Places that resemble one another

Two places resemble one another if they have the same scopes, text so far and slots and
escape alike, whatever templates they lie in and however deep (`Frame.Resembles`). The
names of templates stand in diagnostics only, and how deep a place lies is asked for by one
helper, which aborts the page unless the place is at the top. So what is planned at a place
is planned at any place that resembles it (`Page.planExpression_follows`,
`Page.planBlock_follows`).
-/

namespace BlogTheme

open Template (Argument Invocation)

/-- The places differ at most in their templates and in how deep they lie. The second is at
the top if the first is. -/
structure Frame.Resembles (f f' : Frame) : Prop where
  scopes : f.scopes = f'.scopes
  raw : f.raw = f'.raw
  body : f.body = f'.body
  slots : f.slots = f'.slots
  top : f.isTop → f'.isTop

namespace Frame.Resembles

variable {f f' : Frame}

theorem refl (f : Frame) : f.Resembles f :=
  ⟨rfl, rfl, rfl, rfl, id⟩

variable (h : f.Resembles f')
include h

theorem enterBlock : f.enterBlock.Resembles f'.enterBlock :=
  ⟨h.scopes, h.raw, h.body, h.slots, nofun⟩

theorem enterPartial (name name' : String) :
    (f.enterPartial name).Resembles (f'.enterPartial name') :=
  ⟨h.scopes, h.raw, h.body, h.slots, nofun⟩

/-- The place in a partial resembles the place at which it is included. -/
theorem inlined (name : String) : (f.enterPartial name).Resembles f' :=
  ⟨h.scopes, h.raw, h.body, h.slots, nofun⟩

theorem enterScope (s : Scope) : (f.enterScope s).Resembles (f'.enterScope s) :=
  ⟨congrArg (s :: ·) h.scopes, h.raw, h.body, h.slots, h.top⟩

theorem unescaped : f.unescaped.Resembles f'.unescaped :=
  ⟨h.scopes, rfl, h.body, h.slots, h.top⟩

theorem write_eq (escaped : Bool) (v : Value) : f.write escaped v = f'.write escaped v := by
  simp only [Frame.write, h.raw]

end Frame.Resembles

/-- The plans say the same, at places that resemble one another. -/
inductive Plan.Resembles : Plan → Plan → Prop where
  | write (v : Value) : Resembles (.write v) (.write v)
  | body {fs fs' : List Frame} (h : List.Forall₂ Frame.Resembles fs fs') :
    Resembles (.body fs) (.body fs')
  | inverse : Resembles .inverse .inverse
  | keep (name : String) : Resembles (.keep name) (.keep name)
  | insert (t : Template) : Resembles (.insert t) (.insert t)

/-- Computations of which the second follows the first with the same result. -/
def following : Transfer (Except ThemeError) (Except ThemeError) where
  Rel := Follows Eq
  pure _ := .ok rfl
  bind hx hg := hx.bind fun a _ hab => hab ▸ hg a
  throw _ := .error _

/-- Readers find the same at places that resemble one another. -/
theorem Reader.read_follows (page : Page) {f f' : Frame} (hf : f.Resembles f') {c c' : ValuedCall}
    (hc : c.Related following c') (r : Reader) :
    Follows Eq (r.read page f c) (r.read page f' c') := by
  have hread : Follows Eq (r.read page f c) (r.read page f c') := hc.read page f r
  refine hread.eq_trans ?_
  cases r with
  | layoutDirective =>
    -- Only at the top does it not abort, and there both places are.
    by_cases htop : f.isTop
    · have htop' := hf.top htop
      exact .of_eq (by simp only [Reader.read, htop, htop', if_true])
    · simp only [Reader.read, htop]
      exact .abort rfl _
  | _ =>
    obtain ⟨scopes, template, raw, depth, blocks, body, slots⟩ := f
    obtain ⟨scopes', template', raw', depth', blocks', body', slots'⟩ := f'
    obtain ⟨rfl, rfl, rfl, rfl, -⟩ := hf
    exact .of_eq rfl

namespace Page

variable (page : Page) {f f' : Frame} (hf : f.Resembles f')
include hf

theorem valueAt_follows (a : Argument) : Follows Eq (page.valueAt f a) (page.valueAt f' a) := by
  cases a with
  | path p =>
    simp only [valueAt]
    cases page.helpers.find? p with
    | none => exact .of_eq (by rw [hf.scopes])
    | some h =>
      cases h with
      | reader r =>
        have hc : Call.Related following { name := p } ({ name := p } : ValuedCall) :=
          ⟨rfl, .nil, .nil⟩
        exact (Reader.read_follows page hf hc r).bind fun _ _ h => .ok (congrArg Reading.toValue h)
      | builder b => exact .error _
  | _ => exact .ok rfl

theorem givenAt_follows (a : Argument) :
    (page.givenAt f a).Related following (page.givenAt f' a) :=
  ⟨rfl, page.valueAt_follows hf a⟩

theorem callAt_follows (i : Invocation) :
    (page.callAt f i).Related following (page.callAt f' i) where
  name := rfl
  params := by
    simp only [callAt, List.forall₂_map_left_iff, List.forall₂_map_right_iff]
    exact List.forall₂_same.2 fun a _ => page.givenAt_follows hf a
  hash := by
    simp only [callAt, List.forall₂_map_left_iff, List.forall₂_map_right_iff]
    exact List.forall₂_same.2 fun a _ => ⟨rfl, page.givenAt_follows hf a.2⟩

/-! ## Plans -/

variable {c c' : ValuedCall} (hc : c.Related following c')
include hc

theorem planEntity_follows (v : Value) :
    Follows Plan.Resembles (planEntity f c v) (planEntity f' c' v) := by
  unfold planEntity
  split
  · exact .ok .inverse
  · have hgivens : Follows Eq c.givens c'.givens := hc.givens
    refine hgivens.bind fun hash _ h => ?_
    subst h
    exact .ok (.body (.cons (hf.enterScope _) .nil))

theorem planItems_follows (items : List Value) :
    Follows Plan.Resembles (planItems f c items) (planItems f' c' items) := by
  have hlimited : Follows Eq (c.limited items) (c'.limited items) := hc.limited items
  refine hlimited.bind fun items _ h => ?_
  subst h
  split
  · exact .ok .inverse
  · have hgivens : Follows Eq c.givens c'.givens := hc.givens
    refine hgivens.bind fun hash _ h => ?_
    subst h
    refine .ok (.body ?_)
    rw [List.forall₂_map_left_iff, List.forall₂_map_right_iff]
    exact List.forall₂_same.2 fun s _ => hf.enterScope s

theorem planReading_follows (r : Reading) :
    Follows Plan.Resembles (planReading f c r) (planReading f' c' r) := by
  cases r with
  | value v => exact .ok (.write v)
  | flag b =>
    cases b with
    | true => exact .ok (.body (.cons hf .nil))
    | false => exact .ok .inverse
  | entity v => exact planEntity_follows hf hc v
  | list v => exact planItems_follows hf hc _

omit hf hc in
theorem planPartial_follows (name : String) :
    Follows Plan.Resembles (page.planPartial name) (page.planPartial name) := by
  unfold planPartial
  cases page.theme.findPartial? name with
  | none => exact .error _
  | some t => exact .ok (.insert t)

theorem planReader_follows (r : Reader) :
    Follows Plan.Resembles (page.planReader f c r) (page.planReader f' c' r) := by
  cases r with
  | postTags =>
    simp only [planReader, hf.scopes]
    have htags (ts : List Tag) : Follows Eq (Reading.tagLine c ts) (Reading.tagLine c' ts) :=
      hc.tagLine ts
    exact (htags _).bind fun v _ h => .ok (h ▸ .write v)
  | navigation =>
    simp only [planReader]
    split
    · exact .ok (.write _)
    · split
      · exact .ok (.insert _)
      · exact .ok (.write _)
  | pagination =>
    simp only [planReader]
    split
    · exact .ok (.insert _)
    · exact .ok (.write _)
  | _ => exact (Reader.read_follows page hf hc _).bind fun r _ h => .ok (h ▸ .write _)

theorem planReaderBlock_follows (r : Reader) :
    Follows Plan.Resembles (page.planReaderBlock f c r) (page.planReaderBlock f' c' r) := by
  cases r with
  | unescaped => exact .ok (.body (.cons hf.unescaped .nil))
  | _ =>
    exact (Reader.read_follows page hf hc _).bind fun r _ h => h ▸ planReading_follows hf hc r

theorem planBuilder_follows (b : Builder) :
    Follows Plan.Resembles (page.planBuilder f c b) (page.planBuilder f' c' b) := by
  have hname : Follows Eq c.nameArgument c'.nameArgument := hc.nameArgument
  cases b with
  | forEach | contentFor =>
    simp only [planBuilder, hc.refuse]
    exact .error _
  | block =>
    simp only [planBuilder, hf.slots]
    exact hname.bind fun name _ h => .ok (h ▸ .write _)
  | partialOf => exact hname.bind fun name _ h => h ▸ page.planPartial_follows name

theorem planBuilderBlock_follows (b : Builder) :
    Follows Plan.Resembles (page.planBuilderBlock f c b) (page.planBuilderBlock f' c' b) := by
  have hname : Follows Eq c.nameArgument c'.nameArgument := hc.nameArgument
  cases b with
  | forEach =>
    have hitems : Follows Eq c.loopItems c'.loopItems := hc.loopItems
    exact hitems.bind fun items _ h => h ▸ planItems_follows hf hc items
  | contentFor => exact hname.bind fun name _ h => .ok (h ▸ .keep name)
  | block =>
    simp only [planBuilderBlock, hf.slots]
    refine hname.bind fun name _ h => ?_
    subst h
    split
    · exact .ok (.write _)
    · exact .ok (.body (.cons hf .nil))
  | partialOf => exact hname.bind fun name _ h => h ▸ page.planPartial_follows name

omit hc

/-- What is planned for an expression at a place is planned at places that resemble it. -/
theorem planExpression_follows (i : Invocation) :
    Follows Plan.Resembles (page.planExpression f i) (page.planExpression f' i) := by
  have hc := page.callAt_follows hf i
  unfold planExpression
  cases page.helpers.find? i.name with
  | some h =>
    cases h with
    | reader r => exact page.planReader_follows hf hc r
    | builder b => exact page.planBuilder_follows hf hc b
  | none =>
    simp only [hf.scopes]
    split
    · exact .error _
    · split
      · exact .error _
      · exact .ok (.write _)

/-- What is planned for a block at a place is planned at places that resemble it. -/
theorem planBlock_follows (i : Invocation) :
    Follows Plan.Resembles (page.planBlock f i) (page.planBlock f' i) := by
  have hc := page.callAt_follows hf i
  unfold planBlock
  cases page.helpers.find? i.name with
  | some h =>
    cases h with
    | reader r => exact page.planReaderBlock_follows hf hc r
    | builder b => exact page.planBuilderBlock_follows hf hc b
  | none => exact .error _

end Page

end BlogTheme
