import BlogTheme.Proofs.Render.Layouts

/-!
# Loops

A block that loops over items renders its body once for each of them, each time from the state
in which it began, with one more scope that holds the item and its place among the items
(`RenderState.atItem`). What it leaves is what the bodies leave, one after the other, and if there
are no items what its inverse leaves (`Page.render_loop`). For no more items than `limit` says
the body is rendered, and the place of an item is told among these only (`Page.planItems_eq`).
-/

namespace BlogTheme

open Template (Argument Invocation Node)
open Rendering (inBlock)

/-! ## What is looped over -/

namespace Page

variable (page : Page)

/-- In the state `st` the argument has this value, whatever renders partials. -/
def Evaluates (st : RenderState) (a : Argument) (v : Value) : Prop :=
  ∀ inclusion, (page.evaluate inclusion a).run st = .ok v st

/-- In the state `st` the arguments with keys have these values. -/
def Gives (st : RenderState) (i : Invocation) (hash : List (String × Value)) : Prop :=
  List.Forall₂ (fun entry given => entry.1 = given.1 ∧ page.Evaluates st entry.2 given.2)
    i.hash hash

/-- In the state `st` a block with this invocation loops over these items. What `foreach` has as
its argument is a list, or nothing. -/
inductive LoopsOver (st : RenderState) (i : Invocation) : List Value → Prop where
  | forEach {a rest v items} : i.name = "foreach" → i.params = a :: rest →
    page.Evaluates st a v → v.items? = some items → LoopsOver st i items
  | forEachAbsent {a rest} : i.name = "foreach" → i.params = a :: rest →
    page.Evaluates st a .absent → LoopsOver st i []
  | posts : i.name = "posts" → LoopsOver st i (page.request.posts.map .post)
  | recommends : i.name = "recommends" → LoopsOver st i (page.request.recommends.map .post)
  | allTags : i.name = "all_tags" → LoopsOver st i (page.request.allTags.map .tag)
  | tags : i.name = "tags" → LoopsOver st i
      ((((Focus.post? page.request st.scopes).map Post.tags).getD []).map .tag)
  | navigation : i.name = "navigation" ∨ i.name = "@blog.navigation" →
    LoopsOver st i (page.request.navigation.map .navItem)

end Page

/-- What a block finds in its body at the item with an index, of so many items: it is inside the
block, and one more scope is open. -/
def RenderState.atItem (st : RenderState) (items : List Value) (hash : List (String × Value))
    (length index : Nat) : RenderState :=
  st.enterBlock.openScope
    { subject := items.getD index .absent, hash, iteration := some { index, length } }

/-! ## Going through a list -/

theorem mapM_eq_error {g : α → Except ε β} {before after : List α} {a : α} {e : ε}
    (hbefore : ∀ b ∈ before, ∃ r, g b = .ok r) (ha : g a = .error e) :
    (before ++ a :: after).mapM g = .error e := by
  induction before with
  | nil =>
    rw [List.nil_append, List.mapM_cons, ha]
    rfl
  | cons b before ih =>
    obtain ⟨⟨r, hb⟩, hrest⟩ := List.forall_mem_cons.1 hbefore
    rw [List.cons_append, List.mapM_cons, hb]
    show (do return r :: (← (before ++ a :: after).mapM g)) = Except.error e
    rw [ih hrest]
    rfl

theorem range_split {k m : Nat} (h : k < m) :
    ∃ after, List.range m = List.range k ++ k :: after := by
  obtain ⟨d, rfl⟩ := Nat.exists_eq_add_of_lt h
  refine ⟨(List.range d).map (k + 1 + ·), ?_⟩
  rw [Nat.add_assoc, List.range_add, List.range_succ_eq_map]
  simp [Nat.add_assoc, Nat.add_comm 1]

/-- The scopes of a loop, counted. -/
theorem Scope.loop_eq (hash : List (String × Value)) (items : List Value) {m : Nat}
    (hm : m ≤ items.length) : Scope.loop hash (items.take m) = (List.range m).map fun k =>
      { subject := items.getD k .absent, hash, iteration := some { index := k, length := m } } := by
  have hlength : (items.take m).length = m := by
    rw [List.length_take, Nat.min_eq_left hm]
  refine List.ext_getElem (by simp [loop, hlength]) fun k hk _ => ?_
  have hk : k < m := by simpa [loop, hlength] using hk
  simp [loop, hlength, List.getD, List.getElem?_eq_getElem (Nat.lt_of_lt_of_le hk hm)]

/-! ## Plans of loops -/

namespace Page

variable {page : Page} {st : RenderState} {i : Invocation} {hash : List (String × Value)}

theorem Evaluates.valueAt {a : Argument} {v : Value} (h : page.Evaluates st a v) :
    page.valueAt st.toFrame a = .ok v := by
  have hquiet := page.evaluate_quiet (fun _ => pure "") st.toFrame a st rfl
  rw [h] at hquiet
  cases hvalue : page.valueAt st.toFrame a with
  | error e =>
    rw [hvalue] at hquiet
    cases hquiet
  | ok w =>
    rw [hvalue] at hquiet
    cases hquiet
    rfl

theorem evaluates_of_valueAt {a : Argument} {v : Value}
    (h : page.valueAt st.toFrame a = .ok v) : page.Evaluates st a v := by
  intro inclusion
  rw [page.evaluate_quiet inclusion st.toFrame a st rfl, h]
  rfl

theorem Gives.givens (h : page.Gives st i hash) :
    (page.callAt st.toFrame i).givens = .ok hash := by
  unfold Gives at h
  rw [Call.givens, callAt]
  generalize i.hash = entries at h
  induction h with
  | nil => rfl
  | @cons entry given entries hash hentry _ ih =>
    obtain ⟨hkey, hvalue⟩ := hentry
    simp only [List.map_cons, List.mapM_cons, givenAt, hvalue.valueAt, hkey]
    simp only [givenAt] at ih
    rw [ih]
    rfl

theorem Gives.keyed? (h : page.Gives st i hash) (key : String) :
    (page.callAt st.toFrame i).keyed? key = .ok (hash.lookup key) := by
  unfold Gives at h
  rw [Call.keyed?, callAt]
  generalize i.hash = entries at h
  induction h with
  | nil => rfl
  | @cons entry given entries hash hentry _ ih =>
    obtain ⟨k, a⟩ := entry
    obtain ⟨_, v⟩ := given
    obtain ⟨rfl, hvalue⟩ := hentry
    simp only [List.map_cons, List.lookup_cons]
    cases key == k with
    | true =>
      simp only [givenAt, hvalue.valueAt]
      rfl
    | false => exact ih

/-- Whether the values with keys limit a loop to so many items, or do not limit it. -/
def Limits (hash : List (String × Value)) (limit : Option Nat) : Prop :=
  (hash.lookup "limit").map Value.toInt? = limit.map fun n : Nat => some (n : Int)

/-- The number of items that a loop goes over, of so many, if it has this limit. -/
def loopLength (length : Nat) : Option Nat → Nat
  | some limit => min length limit
  | none => length

theorem loopLength_le (length : Nat) (limit : Option Nat) : loopLength length limit ≤ length := by
  cases limit with
  | none => exact Nat.le_refl _
  | some n => exact Nat.min_le_left _ _

theorem Gives.count? (h : page.Gives st i hash) {limit : Option Nat} (hlimit : Limits hash limit) :
    (page.callAt st.toFrame i).count? "limit" = .ok limit := by
  rw [Call.count?, h.keyed? "limit"]
  unfold Limits at hlimit
  cases hlookup : hash.lookup "limit" with
  | none =>
    rw [hlookup] at hlimit
    cases limit with
    | none => rfl
    | some n => cases hlimit
  | some v =>
    rw [hlookup] at hlimit
    cases limit with
    | none => cases hlimit
    | some n =>
      have hint : v.toInt? = some (.ofNat n) := Option.some.inj hlimit
      simp only [bind, Except.bind, hint]
      rfl

theorem Gives.limited (h : page.Gives st i hash) {limit : Option Nat} (hlimit : Limits hash limit)
    (items : List Value) :
    (page.callAt st.toFrame i).limited items =
      .ok (items.take (loopLength items.length limit)) := by
  rw [Call.limited, h.count? hlimit]
  cases limit with
  | none =>
    rw [loopLength, List.take_length]
    rfl
  | some n =>
    rw [loopLength, Nat.min_comm, ← List.take_eq_take_min]
    rfl

/-- What is planned for a loop. -/
theorem planItems_eq (h : page.Gives st.enterBlock i hash) {limit : Option Nat}
    (hlimit : Limits hash limit) (items : List Value) :
    let m := loopLength items.length limit
    planItems st.enterBlock.toFrame (page.callAt st.enterBlock.toFrame i) items =
      .ok (if m = 0 then .inverse
        else .body ((List.range m).map fun k => (st.atItem items hash m k).toFrame)) := by
  intro m
  have hlimited := h.limited hlimit items
  have hm : m ≤ items.length := loopLength_le _ _
  have hempty : (items.take m).isEmpty = decide (m = 0) := by
    cases items with
    | nil => simpa using hm
    | cons v items => cases m <;> rfl
  rw [planItems, hlimited]
  show (if (items.take m).isEmpty then Except.ok Plan.inverse else _) = _
  rw [hempty]
  by_cases hzero : m = 0
  · simp [hzero]
  · simp only [hzero, decide_false, Bool.false_eq_true, if_false, h.givens]
    show Except.ok (Plan.body ((Scope.loop hash (items.take m)).map _)) = _
    rw [Scope.loop_eq hash items hm, List.map_map]
    rfl

section

variable (hhelpers : page.helpers = .builtin)
include hhelpers

/-- A block that loops over items does what is planned for the loop. -/
theorem planBlock_loop {items : List Value} (h : page.LoopsOver st i items) :
    page.planBlock st.toFrame i =
      planItems st.toFrame (page.callAt st.toFrame i) items := by
  have hreader {name : String} {r : Reader} {v : Value} (hname : i.name = name)
      (hfind : Helpers.builtin.find? name = some (.reader r)) (hr : r ≠ .unescaped)
      (hread : r.read page st.toFrame (page.callAt st.toFrame i) = .ok (.list v)) :
      page.planBlock st.toFrame i =
        planItems st.toFrame (page.callAt st.toFrame i) (v.items?.getD []) := by
    rw [planBlock, hhelpers, hname, hfind]
    simp only [planReaderBlock_eq hr, hread]
    rfl
  have hforEach (hname : i.name = "foreach")
      (hitems : (page.callAt st.toFrame i).loopItems = .ok items) :
      page.planBlock st.toFrame i = planItems st.toFrame (page.callAt st.toFrame i) items := by
    have hfind : Helpers.builtin.find? "foreach" = some (.builder .forEach) := rfl
    rw [planBlock, hhelpers, hname, hfind]
    simp only [planBuilderBlock, hitems]
    rfl
  cases h with
  | forEach hname hparams hvalue hitems =>
    refine hforEach hname ?_
    simp only [Call.loopItems, callAt, hparams, List.map_cons, givenAt, hvalue.valueAt]
    simp only [bind, Except.bind, hitems]
    rfl
  | forEachAbsent hname hparams hvalue =>
    refine hforEach hname ?_
    simp only [Call.loopItems, callAt, hparams, List.map_cons, givenAt, hvalue.valueAt]
    rfl
  | posts hname => exact hreader hname rfl (by simp) rfl
  | recommends hname => exact hreader hname rfl (by simp) rfl
  | allTags hname => exact hreader hname rfl (by simp) rfl
  | tags hname => exact hreader hname rfl (by simp) rfl
  | navigation hname =>
    obtain hname | hname := hname
    · exact hreader hname rfl (by simp) rfl
    · exact hreader hname rfl (by simp) rfl

/-! ## What a loop leaves -/

/-- What a block that loops over items comes to. -/
theorem nodeEffects_loop {items : List Value} (h : page.LoopsOver st.enterBlock i items)
    (hgives : page.Gives st.enterBlock i hash) {limit : Option Nat} (hlimit : Limits hash limit)
    (body : List Node) (inverse : Option (List Node)) :
    let m := loopLength items.length limit
    let inside := st.enterBlock.toFrame
    let partials := page.partialEffects (page.config.maxDepth - st.depth)
    page.nodeEffects partials st.toFrame (.block i body inverse) =
      if m = 0 then page.inverseEffects partials inside inverse
      else do return .concat (← (List.range m).mapM fun k =>
        page.effects (st.atItem items hash m k).toFrame body) := by
  intro m inside partials
  have hplan := (planBlock_loop hhelpers h).trans (planItems_eq hgives hlimit items)
  rw [nodeEffects]
  show invocationEffects st.toFrame i _ (page.planBlock inside i) = _
  rw [hplan]
  by_cases hm : m = 0
  · rw [if_pos hm, if_pos hm]
    rfl
  · rw [if_neg hm, if_neg hm]
    show (do return Effects.concat (← ((List.range m).map _).mapM _)) = _
    rw [List.mapM_map]
    rfl

end

/-! ## Where a loop has got to -/

section

variable {opened outer : List Scope} {s : Scope} {place : Iteration}
  (hopened : ∀ s ∈ opened, s.iteration = none) (hs : s.iteration = some place)
include hopened hs

theorem iteration?_of_opened : Focus.iteration? (opened ++ s :: outer) = some place := by
  have hnone : opened.findSome? Scope.iteration = none :=
    List.findSome?_eq_none_iff.2 hopened
  rw [Focus.iteration?, List.findSome?_append, hnone, List.findSome?_cons, hs]
  rfl

/-- Scopes that belong to no loop do not answer for the place in one. -/
theorem lookup_of_opened (request : Request) {name : String} {v : Value}
    (hname : name.toList.head? = some '@') (hv : place.pseudo? name = some v)
    (hpresent : v.isAbsent = false) : Path.lookup request name (opened ++ s :: outer) = v := by
  induction opened with
  | nil =>
    have hlookup : s.lookup name = v := by
      simp [Scope.lookup, hname, hs, hv]
    simp [Path.lookup, hlookup, Value.orElse, hpresent]
  | cons o opened ih =>
    obtain ⟨ho, hopened⟩ := List.forall_mem_cons.1 hopened
    have hlookup : o.lookup name = .absent := by
      simp [Scope.lookup, hname, ho]
    rw [List.cons_append, Path.lookup, hlookup]
    exact ih hopened

end

/-- In the state `st` the names that tell the place in a loop tell that of the item `k` of `m`.
Counts have 64 bits, in which the items of all lists that there can be are counted. -/
structure TellsPlace (page : Page) (st : RenderState) (k m : Nat) : Prop where
  first : page.Evaluates st (.path "@first") (.bool (k == 0))
  last : page.Evaluates st (.path "@last") (.bool (k == m - 1))
  even : page.Evaluates st (.path "@even") (.bool (k % 2 == 0))
  odd : page.Evaluates st (.path "@odd") (.bool !(k % 2 == 0))
  index : page.Evaluates st (.path "@index") (.int (Int64.ofNat k).toInt)
  number : page.Evaluates st (.path "@number") (.int (Int64.ofNat (k + 1)).toInt)
  counted : k < Int64.maxValue.toInt →
    (Int64.ofNat k).toInt = k ∧ (Int64.ofNat (k + 1)).toInt = (k + 1 : Nat)

/-- Outside of inner loops the names that tell the place in a loop tell that of the item. -/
theorem tellsPlace_atItem (hhelpers : page.helpers = .builtin) {items : List Value} {m k : Nat}
    (hk : k < m) {opened : List Scope} (hopened : ∀ s ∈ opened, s.iteration = none)
    {within : RenderState} (hwithin : within.scopes = opened ++ (st.atItem items hash m k).scopes) :
    page.TellsPlace within k m := by
  let place : Iteration := { index := k, length := m }
  have hiteration : Focus.iteration? within.scopes = some place := by
    rw [hwithin]
    exact iteration?_of_opened hopened rfl
  have hpseudo {name : String} {b : Bool}
      (hfind : Helpers.builtin.find? name = some (.reader (.pseudo name)))
      (hvalue : place.pseudo? name = some (.bool b)) :
      page.Evaluates within (.path name) (.bool b) := by
    refine evaluates_of_valueAt ?_
    rw [valueAt, hhelpers, hfind]
    show (do return (← Reader.read page within.toFrame _ (.pseudo name)).toValue) = _
    simp only [Reader.read, hiteration, Option.bind_some, hvalue]
    rfl
  have hpath {name : String} {v : Value} (hfind : Helpers.builtin.find? name = none)
      (hname : name.toList.head? = some '@')
      (hresolve : Path.resolve page.request within.scopes name =
        Path.lookup page.request name within.scopes)
      (hvalue : place.pseudo? name = some v) (hpresent : v.isAbsent = false) :
      page.Evaluates within (.path name) v := by
    refine evaluates_of_valueAt ?_
    rw [valueAt, hhelpers, hfind]
    show Except.ok (Path.resolve page.request within.scopes name) = _
    rw [hresolve, hwithin]
    exact congrArg _ (lookup_of_opened hopened rfl page.request hname hvalue hpresent)
  have hlast : place.isLast = (k == m - 1) := by
    rw [Bool.eq_iff_iff, beq_iff_eq, Iteration.isLast, beq_iff_eq]
    show k + 1 = m ↔ k = m - 1
    omega
  have hcounted (hsmall : k < Int64.maxValue.toInt) :
      (Int64.ofNat k).toInt = k ∧ (Int64.ofNat (k + 1)).toInt = (k + 1 : Nat) := by
    have hmax : Int64.maxValue.toInt = 9223372036854775807 := rfl
    exact ⟨Int64.toInt_ofNat_of_lt (by omega), Int64.toInt_ofNat_of_lt (by omega)⟩
  exact {
    first := hpseudo rfl rfl
    last := hpseudo rfl (hlast ▸ rfl)
    even := hpseudo rfl rfl
    odd := hpseudo rfl rfl
    index := hpath rfl rfl rfl rfl rfl
    number := hpath rfl rfl rfl rfl rfl
    counted := hcounted }

/-! ## Rendering loops -/

section

variable (hhelpers : page.helpers = .builtin) {items : List Value} {limit : Option Nat}
  (hitems : page.LoopsOver st.enterBlock i items) (hgives : page.Gives st.enterBlock i hash)
  (hlimit : Limits hash limit)
include hhelpers hitems hgives hlimit

/-- A loop over nothing renders its inverse in the scopes in which it stands. -/
theorem render_loop_empty (hm : loopLength items.length limit = 0) (body : List Node)
    (inverse : Option (List Node)) :
    (page.render [.block i body inverse]).outcome st =
      (inBlock (page.render (inverse.getD []))).outcome st := by
  have hblock := nodeEffects_loop hhelpers hitems hgives hlimit body inverse
  have hrender := page.render_leaves st.toFrame [.block i body inverse]
  have hinverse := (page.render_leaves st.enterBlock.toFrame (inverse.getD [])).inBlock
  rw [effects, nodesEffects_singleton, hblock, if_pos hm] at hrender
  refine hrender.outcome_eq ?_
  cases inverse with
  | none => exact hinverse
  | some nodes => exact hinverse

/-- A loop leaves what its body leaves at one item after the other. -/
theorem render_loop_ok {body : List Node} {es : Nat → Effects}
    (hm : loopLength items.length limit ≠ 0)
    (hbody : ∀ k < loopLength items.length limit,
      page.effects (st.atItem items hash (loopLength items.length limit) k).toFrame body =
        .ok (es k))
    (inverse : Option (List Node)) :
    let e := Effects.concat ((List.range (loopLength items.length limit)).map es)
    (page.render [.block i body inverse]).run st = .ok e.html (st.after e) := by
  refine run_render_node ?_
  rw [nodeEffects_loop hhelpers hitems hgives hlimit body inverse, if_neg hm,
    mapM_eq_pure fun k hk => hbody k (List.mem_range.1 hk)]
  rfl

/-- A loop fails where its body first does. -/
theorem render_loop_error {body : List Node} {k : Nat} (hk : k < loopLength items.length limit)
    {e : ThemeError}
    (hbefore : ∀ j < k, ∃ r,
      page.effects (st.atItem items hash (loopLength items.length limit) j).toFrame body = .ok r)
    (hbody : page.effects (st.atItem items hash (loopLength items.length limit) k).toFrame body =
      .error e)
    (inverse : Option (List Node)) :
    (page.render [.block i body inverse]).outcome st = .error e := by
  obtain ⟨after, hrange⟩ := range_split hk
  have heffects : page.effects st.toFrame [.block i body inverse] = .error e := by
    rw [effects, nodesEffects_singleton,
      nodeEffects_loop hhelpers hitems hgives hlimit body inverse,
      if_neg (Nat.ne_zero_of_lt hk), hrange,
      mapM_eq_error (fun j hj => hbefore j (List.mem_range.1 hj)) hbody]
    rfl
  have hrender := page.render_leaves st.toFrame [.block i body inverse] st rfl
  rw [heffects] at hrender
  obtain ⟨_, hrun⟩ := hrender
  rw [Rendering.outcome, hrun]

end

/-- A block that loops over items, all of them or at most so many as its limit says, renders its
inverse in the scopes in which it stands if there are none. Otherwise it comes to what the body
comes to at one item after the other, each time from the state in which the block began, and
leaves what these leave; if the body fails at one item then the block fails as it does there.
Within the body, outside of inner loops, the place in the loop is that of the item. -/
theorem render_loop (page : Page) (hhelpers : page.helpers = .builtin) (st : RenderState)
    {i : Invocation} {items : List Value} {hash : List (String × Value)} {limit : Option Nat}
    (hitems : page.LoopsOver st.enterBlock i items) (hgives : page.Gives st.enterBlock i hash)
    (hlimit : Limits hash limit) (body : List Node) (inverse : Option (List Node)) :
    let m := loopLength items.length limit
    let place := st.atItem items hash m
    let block := page.render [.block i body inverse]
    (m = 0 → block.outcome st = (inBlock (page.render (inverse.getD []))).outcome st) ∧
      (m ≠ 0 → ∀ (texts : Nat → String) (finals : Nat → RenderState),
        (∀ k < m, (page.render body).run (place k) = .ok (texts k) (finals k)) →
        ∃ es : Nat → Effects,
          (∀ k < m, texts k = (es k).html ∧ finals k = (place k).after (es k)) ∧
          let e := Effects.concat ((List.range m).map es)
          block.run st = .ok e.html (st.after e)) ∧
      (∀ k < m, ∀ error final, (∀ j < k, (page.render body).Succeeds (place j)) →
        (page.render body).run (place k) = .error error final →
          block.outcome st = .error error) ∧
      ∀ k < m, ∀ (opened : List Scope) (within : RenderState),
        (∀ s ∈ opened, s.iteration = none) → within.scopes = opened ++ (place k).scopes →
          page.TellsPlace within k m := by
  intro m place block
  have hleaves (k : Nat) := page.render_leaves (place k).toFrame body
  refine ⟨fun hm => ?_, fun hm texts finals hruns => ?_, fun k hk error final hbefore hrun => ?_,
    fun k hk opened within hopened hwithin => tellsPlace_atItem hhelpers hk hopened hwithin⟩
  · exact render_loop_empty hhelpers hitems hgives hlimit hm body inverse
  · have heffects (k : Nat) (hk : k < m) : ∃ e, page.effects (place k).toFrame body = .ok e ∧
        texts k = e.html ∧ finals k = (place k).after e :=
      (hleaves k).of_run_ok (hruns k hk)
    choose! es hes using heffects
    refine ⟨es, fun k hk => (hes k hk).2, ?_⟩
    exact render_loop_ok hhelpers hitems hgives hlimit hm (fun k hk => (hes k hk).1) inverse
  · have hfails := ((hleaves k).of_run_error hrun).1
    refine render_loop_error hhelpers hitems hgives hlimit hk (fun j hj => ?_) hfails inverse
    exact (hleaves j).succeeds_iff.1 (hbefore j hj)

/-- A page with three posts. -/
def ofThree : Page :=
  { bare with request :=
    { (default : Request) with posts := [{ title := "a" }, { title := "b" }, { title := "c" }] } }

/-- A loop over at most two posts, and a value for its body. -/
def overTwo : Invocation :=
  { name := "foreach", params := [.path "posts"]
    hash := [("limit", .number 2), ("mark", .string ".")], span := default }

/-- The title of the post in focus, and a mark behind it. -/
def markedTitle : List Node :=
  [.expression { name := "title", params := [], hash := [], span := default } true,
    .expression { name := "mark", params := [], hash := [], span := default } true]

/-- The body is rendered for each of the posts to which the loop is limited. -/
theorem render_loop_two :
    ofThree.LoopsOver (RenderState.start .root).enterBlock overTwo
        (ofThree.request.posts.map .post) ∧
      ofThree.Gives (RenderState.start .root).enterBlock overTwo
        [("limit", .int 2), ("mark", .text ".")] ∧
      Limits [("limit", .int 2), ("mark", .text ".")] (some 2) ∧
      ∃ st, (ofThree.render [.block overTwo markedTitle none]).run (.start .root) =
        .ok "a.b." st := by
  have hitems : ofThree.LoopsOver (RenderState.start .root).enterBlock overTwo
      (ofThree.request.posts.map .post) :=
    .forEach rfl rfl (evaluates_of_valueAt rfl) rfl
  have hgives : ofThree.Gives (RenderState.start .root).enterBlock overTwo
      [("limit", .int 2), ("mark", .text ".")] :=
    .cons ⟨rfl, evaluates_of_valueAt rfl⟩ (.cons ⟨rfl, evaluates_of_valueAt rfl⟩ .nil)
  have hlimit : Limits [("limit", .int 2), ("mark", .text ".")] (some 2) := rfl
  refine ⟨hitems, hgives, hlimit, ?_⟩
  have hloop := (render_loop ofThree rfl (.start .root) hitems hgives hlimit markedTitle none).2.1
  obtain ⟨es, hes, hrun⟩ := hloop nofun (["a.", "b."].getD · "")
    ((RenderState.start .root).atItem (ofThree.request.posts.map .post)
      [("limit", .int 2), ("mark", .text ".")] 2) fun
    | 0, _ => rfl
    | 1, _ => rfl
    | k + 2, hk => absurd hk (Nat.not_lt.2 (Nat.le_add_left 2 k))
  have hhtml : (Effects.concat [es 0, es 1]).html = "a.b." := by
    rw [Effects.concat_cons, Effects.concat_cons, Effects.html_append, Effects.html_append,
      ← (hes 0 (by decide)).1, ← (hes 1 (by decide)).1]
    rfl
  rw [← hhtml]
  exact ⟨_, hrun⟩

end Page

end BlogTheme
