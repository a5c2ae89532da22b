import BlogTheme.Proofs.Render.Expressions
import BlogTheme.Proofs.Render.Recovery

/-!
# Blocks of collections

The name of a collection opens a block without arguments, and the block loops over the collection
as `foreach` does that has the name for its argument. Both run as a loop over the same items
(`Page.RunsOver`, `Page.exists_runsOver`), which asks for its own name only to refuse its limit.
Blocks that run as one loop run alike from every state, whatever they end in
(`Page.RunsOver.run_render_congr`), and where the limit is refused each says so under its own name
(`Page.RunsOver.run_render_refused`).
-/

namespace BlogTheme

open Template (Argument Invocation Node Span)

/-- The names of collections. -/
def Helpers.collections : List String :=
  ["posts", "recommends", "all_tags", "tags", "navigation", "@blog.navigation"]

/-- The invocation of a helper that has only arguments with keys. -/
def Template.Invocation.ofHash (name : String) (hash : List (String × Argument)) (span : Span) :
    Invocation :=
  { name, params := [], hash, span }

/-- The invocation of a loop over what a name stands for. -/
def Template.Invocation.forEach (name : String) (hash : List (String × Argument)) (span : Span) :
    Invocation :=
  { name := "foreach", params := [.path name], hash, span }

/-- What is recorded of a helper that refuses its limit. -/
def Diagnostic.ofLimit (name template : String) (line : Nat) : Diagnostic :=
  { kind := .helperFailed
    template
    message := (ThemeError.helperFailed name "limit= expects a non-negative number").message
    line }

open Template.Invocation (ofHash forEach)

/-- Loops over the same items run alike if they are limited to the same items. -/
theorem PlacedCall.run_each_congr {c c' : PlacedCall} {items : List Value} {st : RenderState}
    (hhash : c.hash = c'.hash) (hbody : c.body = c'.body) (hinverse : c.inverse = c'.inverse)
    (hlimited : (c.limited items).run st = (c'.limited items).run st) :
    (c.each items).run st = (c'.each items).run st := by
  have hgivens : c.givens = c'.givens := by rw [Call.givens, hhash, Call.givens]
  unfold each
  rw [hbody, hinverse, hgivens]
  exact Rendering.run_bind_congr hlimited _

namespace Page

variable {page : Page} {st : RenderState} {i i' : Invocation} {items : List Value}

/-! ## Limits -/

/-- In the state `st` there is a limit among the arguments, and its value is no count. -/
def RefusesLimit (page : Page) (st : RenderState) (hash : List (String × Argument)) : Prop :=
  ∃ a v, hash.lookup "limit" = some a ∧ page.Evaluates st a v ∧ v.toCount? = none

theorem run_limited (inclusion : Inclusion) (i : Invocation) (items : List Value) :
    ((page.call inclusion i).limited items).run st =
      Rendering.settled ((page.callAt st.toFrame i).limited items) st :=
  (page.call_related inclusion st.toFrame i).limited items st rfl

/-- To which items a loop is limited does not depend on its name, unless it refuses its limit. -/
theorem limited_congr (hhash : i.hash = i'.hash) (h : ¬page.RefusesLimit st i.hash)
    (items : List Value) :
    (page.callAt st.toFrame i).limited items = (page.callAt st.toFrame i').limited items := by
  have hcount : (page.callAt st.toFrame i).count? "limit" =
      (page.callAt st.toFrame i').count? "limit" := by
    cases hlookup : i.hash.lookup "limit" with
    | none =>
      have hi : page.Keyed st i "limit" none := hlookup
      have hi' : page.Keyed st i' "limit" none := (congrArg _ hhash.symm).trans hlookup
      rw [hi.count?_none, hi'.count?_none]
    | some a =>
      cases hvalue : page.valueAt st.toFrame a with
      | error e =>
        simp only [Call.count?, Call.keyed?, lookup_callAt, ← hhash, hlookup, Option.map_some,
          givenAt, hvalue]
        rfl
      | ok v =>
        have hv := evaluates_of_valueAt hvalue
        have hi : page.Keyed st i "limit" (some v) := ⟨a, hlookup, hv⟩
        have hi' : page.Keyed st i' "limit" (some v) := ⟨a, hhash ▸ hlookup, hv⟩
        rw [hi.count?_some, hi'.count?_some]
        cases hn : v.toCount? with
        | none => exact absurd ⟨a, v, hlookup, hv, hn⟩ h
        | some n => rfl
  rw [Call.limited, hcount, Call.limited]

theorem limited_refused (h : page.RefusesLimit st i.hash) (items : List Value) :
    (page.callAt st.toFrame i).limited items =
      .error (.helperFailed i.name "limit= expects a non-negative number") := by
  obtain ⟨a, v, ha, hv, hcount⟩ := h
  have hkeyed : page.Keyed st i "limit" (some v) := ⟨a, ha, hv⟩
  rw [Call.limited, hkeyed.count?_some, hcount]
  rfl

/-! ## Blocks that run as loops -/

/-- From the state `st` a block with this invocation runs as a loop over these items. -/
def RunsOver (page : Page) (st : RenderState) (i : Invocation) (items : List Value) : Prop :=
  ∀ inclusion (body inverse : Rendering String),
    let c : PlacedCall := { page.call inclusion i with position := .block, body, inverse }
    (page.invoke inclusion c).run st = (c.each items).run st

/-- On one line blocks run alike that loop over the same items and do not refuse their limit. -/
theorem RunsOver.run_render_congr (h : page.RunsOver st.enterBlock i items)
    (h' : page.RunsOver st.enterBlock i' items) (hhash : i.hash = i'.hash)
    (hline : i.span.line = i'.span.line) (hlimit : ¬page.RefusesLimit st.enterBlock i.hash)
    (body : List Node) (inverse : Option (List Node)) :
    (page.render [.block i body inverse]).run st =
      (page.render [.block i' body inverse]).run st := by
  have hinvoke (inclusion : Inclusion) (body inverse : Rendering String) :
      (page.invokeBlock inclusion i body inverse).run st =
        (page.invokeBlock inclusion i' body inverse).run st := by
    have hlimited : ((page.call inclusion i).limited items).run st.enterBlock =
        ((page.call inclusion i').limited items).run st.enterBlock := by
      rw [run_limited, run_limited, limited_congr hhash hlimit]
    have hhash : (page.call inclusion i).hash = (page.call inclusion i').hash := by
      rw [call, call, hhash]
    refine Rendering.run_around_congr ?_
    rw [h inclusion body inverse, h' inclusion body inverse]
    exact PlacedCall.run_each_congr hhash rfl rfl hlimited
  have hnode (inclusion : Inclusion) : (page.renderNode inclusion (.block i body inverse)).run st =
      (page.renderNode inclusion (.block i' body inverse)).run st := by
    rw [renderNode, renderNode, writing, writing, hline]
    exact Rendering.run_tryCatch_congr (Rendering.run_bind_congr (hinvoke inclusion _ _) _) _
  unfold render
  rw [Rendering.run_get_bind, Rendering.run_get_bind, renderNodes, renderNodes]
  exact Rendering.run_bind_congr (hnode _) _

/-- A block that refuses its limit leaves a diagnostic under its name, and nothing else. -/
theorem RunsOver.run_render_refused (h : page.RunsOver st.enterBlock i items)
    (hlimit : page.RefusesLimit st.enterBlock i.hash) (body : List Node)
    (inverse : Option (List Node)) :
    (page.render [.block i body inverse]).run st =
      .ok "" (st.record (.ofLimit i.name st.template i.span.line)) := by
  have hinvoke (inclusion : Inclusion) (body inverse : Rendering String) :
      (page.invokeBlock inclusion i body inverse).run st =
        .error (.helperFailed i.name "limit= expects a non-negative number") st := by
    have hlimited : ((page.call inclusion i).limited items).run st.enterBlock =
        .error (.helperFailed i.name "limit= expects a non-negative number") st.enterBlock := by
      rw [run_limited, limited_refused hlimit]
      rfl
    have hloop := (h inclusion body inverse).trans (Rendering.run_bind_error hlimited)
    exact Rendering.run_around_error hloop
  unfold render
  rw [Rendering.run_get_bind, renderNodes, renderNode]
  exact Rendering.run_bind_ok (run_writing_error (hinvoke _ _ _) rfl)

/-! ## Collections -/

/-- The name of a collection invokes a reader that finds a list, whatever its arguments are. -/
theorem exists_reader (page : Page) (f : Frame) {name : String}
    (hname : name ∈ Helpers.collections) :
    ∃ r v items, Helpers.builtin.find? name = some (.reader r) ∧ r ≠ .unescaped ∧
      v.items? = some items ∧
      ∀ (m : Type → Type) [Monad m] [MonadExcept ThemeError m] (c : Call m),
        r.read page f c = pure (.list v) := by
  simp only [Helpers.collections, List.mem_cons, List.not_mem_nil, or_false] at hname
  obtain rfl | rfl | rfl | rfl | rfl | rfl := hname <;>
    exact ⟨_, _, _, rfl, nofun, rfl, fun _ _ _ _ => rfl⟩

/-- The name of a collection opens a block that loops over it, as `foreach` does with the name for
its argument. -/
theorem exists_runsOver (hhelpers : page.helpers = .builtin) (st : RenderState) {name : String}
    (hname : name ∈ Helpers.collections) (hash : List (String × Argument)) (span span' : Span) :
    ∃ items, page.RunsOver st (ofHash name hash span) items ∧
      page.RunsOver st (forEach name hash span') items := by
  obtain ⟨r, v, items, hfind, hr, hitems, hread⟩ := exists_reader page st.toFrame hname
  refine ⟨items, fun inclusion body inverse => ?_, fun inclusion body inverse => ?_⟩
  · intro c
    have hhelper : page.helpers.find? c.name = some (.reader r) := by
      rw [hhelpers]
      exact hfind
    have hpresent : c.present (.list v) = c.each items := by
      simp only [PlacedCall.present, hitems]
      rfl
    rw [invoke, hhelper]
    simp only [Helper.run]
    rw [Reader.run_block rfl hr, Rendering.run_get_bind, hread, pure_bind, hpresent]
  · intro c
    have hhelper : page.helpers.find? c.name = some (.builder .forEach) := by
      rw [hhelpers]
      rfl
    have hvalue : page.Evaluates st (.path name) v := by
      refine evaluates_of_valueAt ?_
      rw [valueAt, hhelpers, hfind]
      simp only [hread]
      rfl
    have hloop : c.loopItems.run st = .ok items st := by
      refine (Rendering.run_bind_ok (hvalue inclusion)).trans ?_
      rw [hitems]
      rfl
    rw [invoke, hhelper]
    exact Rendering.run_bind_ok hloop

/-- A block under the name of a collection is a loop over it: on one line they write the same text,
leave the same state and fail alike. Where the limit is refused they leave one diagnostic each,
which differ in the name of the helper. -/
theorem render_collection (hhelpers : page.helpers = .builtin) (st : RenderState) {name : String}
    (hname : name ∈ Helpers.collections) (hash : List (String × Argument)) {span span' : Span}
    (hline : span.line = span'.line) (body : List Node) (inverse : Option (List Node)) :
    let own := page.render [.block (.ofHash name hash span) body inverse]
    let loop := page.render [.block (.forEach name hash span') body inverse]
    (¬page.RefusesLimit st.enterBlock hash → own.run st = loop.run st) ∧
      (page.RefusesLimit st.enterBlock hash →
        own.run st = .ok "" (st.record (.ofLimit name st.template span.line)) ∧
        loop.run st = .ok "" (st.record (.ofLimit "foreach" st.template span.line))) := by
  intro own loop
  obtain ⟨items, hown, hloop⟩ :=
    exists_runsOver hhelpers st.enterBlock hname hash span span'
  refine ⟨fun h => hown.run_render_congr hloop rfl hline h body inverse, fun h => ⟨?_, ?_⟩⟩
  · exact hown.run_render_refused h body inverse
  · rw [hline]
    exact hloop.run_render_refused h body inverse

/-- A state in which a post with two tags is in focus. -/
def inTagged : RenderState :=
  .start { subject := .post { tags := [{ name := "a" }, { name := "b" }] } }

/-- The first of the tags of a post, by both blocks. A word is no limit. -/
theorem render_collection_tags :
    let name : Node :=
      .expression { name := "name", params := [], hash := [], span := default } true
    let own (limit : Argument) : Rendering String :=
      bare.render [.block (.ofHash "tags" [("limit", limit)] default) [name] none]
    let loop (limit : Argument) : Rendering String :=
      bare.render [.block (.forEach "tags" [("limit", limit)] default) [name] none]
    "tags" ∈ Helpers.collections ∧
      ¬bare.RefusesLimit inTagged.enterBlock [("limit", .number 1)] ∧
      bare.RefusesLimit inTagged.enterBlock [("limit", .string "x")] ∧
      (own (.number 1)).run inTagged = .ok "a" inTagged ∧
      (loop (.number 1)).run inTagged = .ok "a" inTagged ∧
      (own (.string "x")).run inTagged = .ok "" (inTagged.record (.ofLimit "tags" "" 0)) ∧
      (loop (.string "x")).run inTagged =
        .ok "" (inTagged.record (.ofLimit "foreach" "" 0)) := by
  intro name own loop
  have hname : "tags" ∈ Helpers.collections := by decide
  have hhelpers : bare.helpers = .builtin := rfl
  have hline : (default : Span).line = (default : Span).line := rfl
  have hcollection (limit : Argument) :=
    render_collection hhelpers inTagged hname [("limit", limit)] hline [name] none
  have hone : ¬bare.RefusesLimit inTagged.enterBlock [("limit", .number 1)] := by
    rintro ⟨a, v, ⟨⟩, hv, hcount⟩
    obtain rfl : v = .int 1 := by
      have hvalue := hv.valueAt
      cases hvalue
      rfl
    cases hcount
  have hword : bare.RefusesLimit inTagged.enterBlock [("limit", .string "x")] :=
    ⟨_, .text "x", rfl, fun _ => rfl, rfl⟩
  have hrun : (own (.number 1)).run inTagged = .ok "a" inTagged := rfl
  obtain ⟨hown, hloop⟩ := (hcollection (.string "x")).2 hword
  exact ⟨hname, hone, hword, hrun, ((hcollection (.number 1)).1 hone).symm.trans hrun, hown, hloop⟩

end Page

end BlogTheme
