import BlogTheme.Proofs.Theme.Catalog
import BlogTheme.Theme.Basic
import Mathlib.Data.List.Chain
import Mathlib.Data.List.Perm.Subperm

/-!
# Layout chains

The templates that extend one another form paths (`Theme.IsPath`). A path either stops, for one
of the reasons in `Theme.Stops`, or goes on to a layout that is not yet on it
(`Theme.stops_or_climbs`). Following layouts goes along every path for which there is room
(`Theme.layoutChain_along`), and so comes to what the path that stops says
(`Theme.layoutChain_eq_iff`). `Theme.layoutChain_spec` reads off this which chains there are and
which errors, and that a limit beyond the size of the theme is none.
-/

namespace BlogTheme

open Template (Invocation)

/-! ## The layout of a template -/

namespace Template

/-- The directives at the top level of a template that extend a layout. -/
def directives (t : Template) : List Invocation :=
  t.body.filterMap fun
    | .expression i _ => if i.name = extendsName then some i else none
    | _ => none

theorem layout_eq (t : Template) :
    t.layout = match t.directives with
      | [] => .ok none
      | [i] =>
        match i.params with
        | [] => .error (.structural t.name "extends directive is missing a layout name")
        | name :: _ => .ok (some name.literalText)
      | _ => .error (.structural t.name "a template may extend only one layout") :=
  rfl

/-- The layout of a template cannot be told in two cases. -/
theorem layout_eq_error_iff (t : Template) (e : ThemeError) :
    t.layout = .error e ↔
      (2 ≤ t.directives.length ∧
        e = .structural t.name "a template may extend only one layout") ∨
      ((∃ i, t.directives = [i] ∧ i.params = []) ∧
        e = .structural t.name "extends directive is missing a layout name") := by
  rw [layout_eq]
  match t.directives with
  | [] => simp
  | [i] => cases hparams : i.params <;> simp [hparams, eq_comm]
  | _ :: _ :: _ => simp [eq_comm]

end Template

namespace Theme

variable {theme : Theme} {limit room : Nat} {t last layout : Template}
  {path before : List Template} {outcome : Except ThemeError (List Template)}

/-! ## Paths -/

/-- One template extends another, which is in the theme. -/
def Extends (theme : Theme) (a b : Template) : Prop :=
  ∃ parent, a.layout = .ok (some parent) ∧ theme.find? parent = some b

/-- Templates with different names, the first of them `t`, each of which extends the next. -/
structure IsPath (theme : Theme) (t : Template) (path : List Template) : Prop where
  begins : path.head? = some t
  climbs : path.IsChain theme.Extends
  distinct : (path.map Template.name).Nodup

theorem isPath_singleton (theme : Theme) (t : Template) : theme.IsPath t [t] where
  begins := rfl
  climbs := .singleton t
  distinct := List.nodup_singleton _

/-- A path goes on to the layout that its last template extends, if this has another name than
all templates on the path. -/
theorem isPath_concat_iff :
    theme.IsPath t (before ++ [last] ++ [layout]) ↔
      theme.IsPath t (before ++ [last]) ∧ theme.Extends last layout ∧
        layout.name ∉ (before ++ [last]).map Template.name := by
  have hhead : (before ++ [last] ++ [layout]).head? = (before ++ [last]).head? := by
    cases before <;> rfl
  have hclimbs : (before ++ [last] ++ [layout]).IsChain theme.Extends ↔
      (before ++ [last]).IsChain theme.Extends ∧ theme.Extends last layout := by
    rw [List.append_assoc, List.singleton_append, List.isChain_append_cons_cons]
    exact and_congr_right fun _ => and_iff_left (.singleton layout)
  have hdistinct : ((before ++ [last] ++ [layout]).map Template.name).Nodup ↔
      ((before ++ [last]).map Template.name).Nodup ∧
        layout.name ∉ (before ++ [last]).map Template.name := by
    rw [List.map_append, List.map_singleton, List.nodup_append_comm, List.singleton_append,
      List.nodup_cons, and_comm]
  constructor
  · rintro ⟨hb, hc, hd⟩
    obtain ⟨hc, hext⟩ := hclimbs.1 hc
    obtain ⟨hd, hnew⟩ := hdistinct.1 hd
    exact ⟨⟨hhead ▸ hb, hc, hd⟩, hext, hnew⟩
  · rintro ⟨⟨hb, hc, hd⟩, hext, hnew⟩
    exact ⟨hhead ▸ hb, hclimbs.2 ⟨hc, hext⟩, hdistinct.2 ⟨hd, hnew⟩⟩

theorem subset_items_of_isChain {rest : List Template} (h : (t :: rest).IsChain theme.Extends) :
    rest ⊆ theme.items := by
  induction rest generalizing t with
  | nil => exact List.nil_subset _
  | cons b rest ih =>
    obtain ⟨⟨parent, -, hfind⟩, hrest⟩ := List.isChain_cons_cons.1 h
    exact List.cons_subset.2 ⟨Catalog.mem_of_find? hfind, ih hrest⟩

/-- All templates of a path but the first are in the theme. -/
theorem IsPath.length_le (h : theme.IsPath t path) : path.length ≤ theme.size + 1 := by
  obtain ⟨hbegins, hclimbs, hdistinct⟩ := h
  cases path with
  | nil => exact Nat.zero_le _
  | cons _ rest =>
    have hnodup : rest.Nodup := (List.nodup_cons.1 hdistinct.of_map).2
    exact Nat.succ_le_succ (hnodup.subperm (subset_items_of_isChain hclimbs)).length_le

/-! ## Where following layouts stops -/

/-- Why the last template of a path does not fit there. -/
inductive Misfit (theme : Theme) (limit : Nat) (path : List Template) (last : Template) :
    (message : String) → Prop
  | several (h : 2 ≤ last.directives.length) :
    Misfit theme limit path last "a template may extend only one layout"
  | nameless (h : ∃ i, last.directives = [i] ∧ i.params = []) :
    Misfit theme limit path last "extends directive is missing a layout name"
  | unknown {parent : String} (h : last.layout = .ok (some parent))
      (hroom : path.length < max 1 limit) (hfind : theme.find? parent = none) :
    Misfit theme limit path last ("extends unknown layout '" ++ parent ++ "'")
  | circle {layout : Template} (h : theme.Extends last layout)
      (hroom : path.length < max 1 limit) (hseen : layout.name ∈ path.map Template.name) :
    Misfit theme limit path last (circleMessage (path.map Template.name) layout.name)

/-- What following layouts comes to at the last template of a path, if it stops there. -/
inductive Stops (theme : Theme) (limit : Nat) (path : List Template) (last : Template) :
    Except ThemeError (List Template) → Prop
  | root (h : last.layout = .ok none) : Stops theme limit path last (.ok path)
  | full {parent : String} (h : last.layout = .ok (some parent))
      (hfull : path.length = max 1 limit) :
    Stops theme limit path last (.error (.recursionLimit parent limit))
  | misfit {message : String} (h : theme.Misfit limit path last message) :
    Stops theme limit path last (.error (.structural last.name message))

/-- A path for which there is room stops, or goes on. -/
theorem stops_or_climbs (theme : Theme) (hlength : path.length ≤ max 1 limit) (last : Template) :
    (∃ outcome, theme.Stops limit path last outcome) ∨
      path.length < max 1 limit ∧
        ∃ layout, theme.Extends last layout ∧ layout.name ∉ path.map Template.name := by
  cases hlayout : last.layout with
  | error e =>
    obtain ⟨h, -⟩ | ⟨h, -⟩ := (last.layout_eq_error_iff e).1 hlayout
    · exact .inl ⟨_, .misfit (.several h)⟩
    · exact .inl ⟨_, .misfit (.nameless h)⟩
  | ok parent? =>
    cases parent? with
    | none => exact .inl ⟨_, .root hlayout⟩
    | some parent =>
      obtain hfull | hroom := Nat.eq_or_lt_of_le hlength
      · exact .inl ⟨_, .full hlayout hfull⟩
      cases hfind : theme.find? parent with
      | none => exact .inl ⟨_, .misfit (.unknown hlayout hroom hfind)⟩
      | some layout =>
        have hext : theme.Extends last layout := ⟨parent, hlayout, hfind⟩
        by_cases hseen : layout.name ∈ path.map Template.name
        · exact .inl ⟨_, .misfit (.circle hext hroom hseen)⟩
        · exact .inr ⟨hroom, layout, hext, hseen⟩

/-- There is a path from every template that stops. -/
theorem exists_stops (theme : Theme) (t : Template) (limit : Nat) :
    ∃ before last outcome, theme.IsPath t (before ++ [last]) ∧
      (before ++ [last]).length ≤ max 1 limit ∧
        theme.Stops limit (before ++ [last]) last outcome := by
  -- Induction on the room that is left, with a path that has come so far.
  suffices h : ∀ room before last, theme.IsPath t (before ++ [last]) →
      before.length + 1 + room = max 1 limit → ∃ before last outcome,
        theme.IsPath t (before ++ [last]) ∧ (before ++ [last]).length ≤ max 1 limit ∧
          theme.Stops limit (before ++ [last]) last outcome by
    refine h (max 1 limit - 1) [] t (isPath_singleton theme t) ?_
    rw [List.length_nil]
    omega
  intro room
  induction room with
  | zero =>
    intro before last hpath hlength
    have hfull : (before ++ [last]).length = max 1 limit := by simpa using hlength
    obtain ⟨outcome, hstops⟩ | ⟨hroom, -⟩ := theme.stops_or_climbs hfull.le last
    · exact ⟨before, last, outcome, hpath, hfull.le, hstops⟩
    · exact absurd hfull hroom.ne
  | succ room ih =>
    intro before last hpath hlength
    have hfits : (before ++ [last]).length ≤ max 1 limit := by simp; omega
    obtain ⟨outcome, hstops⟩ | ⟨-, layout, hext, hnew⟩ := theme.stops_or_climbs hfits last
    · exact ⟨before, last, outcome, hpath, hfits, hstops⟩
    · exact ih (before ++ [last]) layout (isPath_concat_iff.2 ⟨hpath, hext, hnew⟩)
        (by simp; omega)

/-! ## Following layouts -/

/-- A template that extends a layout comes before the templates that make the layout. -/
theorem chainFrom_extends (theme : Theme) {limit room : Nat} {seen : List String}
    {current layout : Template} {parent : String} (hlayout : current.layout = .ok (some parent))
    (hfind : theme.find? parent = some layout)
    (hnew : (seen ++ [current.name]).contains layout.name = false) :
    theme.chainFrom limit (room + 1) seen current =
      (do return current :: (← theme.chainFrom limit room (seen ++ [current.name]) layout)) := by
  rw [chainFrom]
  simp only [hlayout, bind, Except.bind, hfind, hnew]
  rfl

/-- At the end of a path that stops, following layouts comes to what it says. -/
theorem chainFrom_of_stops (hlength : before.length + 1 + room = max 1 limit)
    (h : theme.Stops limit (before ++ [last]) last outcome) :
    (theme.chainFrom limit room (before.map Template.name) last).map (before ++ ·) = outcome := by
  have hpath : (before ++ [last]).length = before.length + 1 := List.length_append
  have hnames : before.map Template.name ++ [last.name] = (before ++ [last]).map Template.name := by
    simp
  unfold chainFrom
  cases h with
  | root h =>
    simp only [h]
    rfl
  | full h hfull =>
    obtain rfl : room = 0 := by omega
    simp only [h]
    rfl
  | misfit h =>
    cases h with
    | several h =>
      simp only [(last.layout_eq_error_iff _).2 (.inl ⟨h, rfl⟩)]
      rfl
    | nameless h =>
      simp only [(last.layout_eq_error_iff _).2 (.inr ⟨h, rfl⟩)]
      rfl
    | unknown h hroom hfind =>
      obtain ⟨room, rfl⟩ : ∃ k, room = k + 1 := ⟨room - 1, by omega⟩
      simp only [h, hfind, bind, Except.bind]
      rfl
    | circle h hroom hseen =>
      obtain ⟨parent, hlayout, hfind⟩ := h
      obtain ⟨room, rfl⟩ : ∃ k, room = k + 1 := ⟨room - 1, by omega⟩
      simp only [hlayout, hfind, bind, Except.bind, hnames, List.contains_iff_mem.2 hseen]
      rfl

/-- Following layouts goes along every path for which there is room. -/
theorem layoutChain_along (hpath : theme.IsPath t (before ++ [last]))
    (hlength : before.length + 1 + room = max 1 limit) :
    theme.layoutChain t limit =
      (theme.chainFrom limit room (before.map Template.name) last).map (before ++ ·) := by
  induction before using List.reverseRecOn generalizing last room with
  | nil =>
    obtain rfl : last = t := Option.some.inj hpath.begins
    obtain rfl : room = limit - 1 := by simp at hlength; omega
    exact (congrFun Except.map_id _).symm
  | append_singleton before previous ih =>
    obtain ⟨hpath, ⟨parent, hlayout, hfind⟩, hnew⟩ := isPath_concat_iff.1 hpath
    have hnames : (before ++ [previous]).map Template.name =
        before.map Template.name ++ [previous.name] := by
      simp
    rw [hnames] at hnew ⊢
    have hunseen : (before.map Template.name ++ [previous.name]).contains last.name = false := by
      rwa [← Bool.not_eq_true, List.contains_iff_mem]
    have hahead : before.length + 1 + (room + 1) = max 1 limit := by simp at hlength; omega
    rw [ih hpath hahead, chainFrom_extends theme hlayout hfind hunseen]
    cases theme.chainFrom limit room (before.map Template.name ++ [previous.name]) last with
    | error e => rfl
    | ok chain => exact congrArg Except.ok (List.append_cons before previous chain)

/-- Following layouts comes to what the path that stops says. -/
theorem layoutChain_eq_iff (theme : Theme) (t : Template) (limit : Nat)
    (outcome : Except ThemeError (List Template)) :
    theme.layoutChain t limit = outcome ↔ ∃ before last,
      theme.IsPath t (before ++ [last]) ∧ (before ++ [last]).length ≤ max 1 limit ∧
        theme.Stops limit (before ++ [last]) last outcome := by
  have hcomes {before last outcome} (hpath : theme.IsPath t (before ++ [last]))
      (hfits : (before ++ [last]).length ≤ max 1 limit)
      (hstops : theme.Stops limit (before ++ [last]) last outcome) :
      theme.layoutChain t limit = outcome := by
    have hlength : before.length + 1 + (max 1 limit - (before.length + 1)) = max 1 limit := by
      rw [List.length_append, List.length_singleton] at hfits
      omega
    rw [layoutChain_along hpath hlength, chainFrom_of_stops hlength hstops]
  constructor
  · intro h
    obtain ⟨before, last, outcome', hpath, hfits, hstops⟩ := theme.exists_stops t limit
    obtain rfl : outcome' = outcome := (hcomes hpath hfits hstops).symm.trans h
    exact ⟨before, last, hpath, hfits, hstops⟩
  · rintro ⟨before, last, hpath, hfits, hstops⟩
    exact hcomes hpath hfits hstops

/-! ## Chains and errors -/

/-- The templates that make a page: a path of at most so many templates, but at least one, to a
template that extends nothing. -/
structure IsLayoutChain (theme : Theme) (t : Template) (limit : Nat) (chain : List Template) : Prop
    extends IsPath theme t chain where
  root : ∀ last, chain.getLast? = some last → last.layout = .ok none
  fits : chain.length ≤ max 1 limit

/-- A path of as many templates as there may be ends in a template that extends yet another. -/
def Overruns (theme : Theme) (t : Template) (limit : Nat) (parent : String) : Prop :=
  ∃ before last, theme.IsPath t (before ++ [last]) ∧ (before ++ [last]).length = max 1 limit ∧
    last.layout = .ok (some parent)

theorem layoutChain_eq_ok_iff (theme : Theme) (t : Template) (limit : Nat)
    (chain : List Template) :
    theme.layoutChain t limit = .ok chain ↔ theme.IsLayoutChain t limit chain := by
  rw [layoutChain_eq_iff]
  constructor
  · rintro ⟨before, last, hpath, hfits, ⟨hroot⟩⟩
    refine ⟨hpath, fun last' hlast => ?_, hfits⟩
    obtain rfl : last = last' := by simpa using hlast
    exact hroot
  · rintro ⟨hpath, hroot, hfits⟩
    obtain ⟨before, last, rfl⟩ : ∃ before last, chain = before ++ [last] := by
      refine ⟨_, _, (List.dropLast_concat_getLast ?_).symm⟩
      rintro rfl
      cases hpath.begins
    exact ⟨before, last, hpath, hfits, .root (hroot last (by simp))⟩

theorem layoutChain_eq_recursionLimit_iff (theme : Theme) (t : Template) (limit : Nat)
    (parent : String) (limit' : Nat) :
    theme.layoutChain t limit = .error (.recursionLimit parent limit') ↔
      limit' = limit ∧ theme.Overruns t limit parent := by
  rw [layoutChain_eq_iff]
  constructor
  · rintro ⟨before, last, hpath, -, ⟨⟩ | ⟨hlayout, hfull⟩⟩
    exact ⟨rfl, before, last, hpath, hfull, hlayout⟩
  · rintro ⟨rfl, before, last, hpath, hfull, hlayout⟩
    exact ⟨before, last, hpath, hfull.le, .full hlayout hfull⟩

/-- Where a path that is not full stops, it does so for any limit that leaves room. -/
theorem Stops.of_lt {limit' : Nat} (h : theme.Stops limit path last outcome)
    (hroom : path.length < max 1 limit) (hroom' : path.length < max 1 limit') :
    theme.Stops limit' path last outcome := by
  cases h with
  | root h => exact .root h
  | full _ hfull => exact absurd hfull hroom.ne
  | misfit h =>
    cases h with
    | several h => exact .misfit (.several h)
    | nameless h => exact .misfit (.nameless h)
    | unknown h _ hfind => exact .misfit (.unknown h hroom' hfind)
    | circle h _ hseen => exact .misfit (.circle h hroom' hseen)

/-- A limit that is greater than the number of templates in a theme and the one at the start
does not matter. -/
theorem layoutChain_eq_of_size_lt (theme : Theme) (t : Template) (h : theme.size + 1 < limit) :
    theme.layoutChain t limit = theme.layoutChain t (theme.size + 2) := by
  obtain ⟨before, last, hpath, -, hstops⟩ :=
    (layoutChain_eq_iff theme t (theme.size + 2) _).1 rfl
  have hlength := hpath.length_le
  exact (layoutChain_eq_iff theme t limit _).2
    ⟨before, last, hpath, by omega, hstops.of_lt (by omega) (by omega)⟩

/-- Following layouts has for its result the one path to a template that extends nothing, if this
is not too long. It fails for the limit, with the name of the layout that is too many, exactly when
a path that is full does not end there, and else for the template at which the path breaks off. It
never takes more rounds than there are templates, whatever the limit. -/
theorem layoutChain_spec (theme : Theme) (t : Template) (limit : Nat) :
    (∀ chain, theme.layoutChain t limit = .ok chain ↔ theme.IsLayoutChain t limit chain) ∧
    (∀ chain chain', theme.IsLayoutChain t limit chain → theme.IsLayoutChain t limit chain' →
      chain = chain') ∧
    (∀ parent limit', theme.layoutChain t limit = .error (.recursionLimit parent limit') ↔
      limit' = limit ∧ theme.Overruns t limit parent) ∧
    ((∀ chain, ¬theme.IsLayoutChain t limit chain) → (∀ parent, ¬theme.Overruns t limit parent) →
      ∃ before last message, theme.IsPath t (before ++ [last]) ∧
        theme.Misfit limit (before ++ [last]) last message ∧
        theme.layoutChain t limit = .error (.structural last.name message)) ∧
    (theme.size + 1 < limit →
      theme.layoutChain t limit = theme.layoutChain t (theme.size + 2)) := by
  have hok := layoutChain_eq_ok_iff theme t limit
  have hlimit := layoutChain_eq_recursionLimit_iff theme t limit
  refine ⟨hok, fun chain chain' h h' => ?_, hlimit, fun hnone hfits => ?_,
    layoutChain_eq_of_size_lt theme t⟩
  · exact Except.ok.inj (((hok chain).2 h).symm.trans ((hok chain').2 h'))
  · obtain ⟨before, last, hpath, -, hstops⟩ := (layoutChain_eq_iff theme t limit _).1 rfl
    cases hresult : theme.layoutChain t limit with
    | ok chain => exact absurd ((hok chain).1 hresult) (hnone chain)
    | error e =>
      rw [hresult] at hstops
      cases hstops with
      | full h hfull => exact absurd ⟨before, last, hpath, hfull, h⟩ (hfits _)
      | misfit h => exact ⟨before, last, _, hpath, h, rfl⟩

/-- Three templates in a row, for which a limit of two is too small, and two in a circle, for which
no limit is large enough. -/
theorem layoutChain_spec_rows :
    let extending (name layout : String) : Template :=
      let directive := { name := "!<", params := [.path layout], hash := [], span := default }
      { name, body := [.expression directive true] }
    let post := extending "post" "mid"
    let mid := extending "mid" "base"
    let base : Template := { name := "base", body := [] }
    let theme : Theme := (((Theme.empty.insert mid).insert base).insert
      (extending "left" "right")).insert (extending "right" "left")
    theme.layoutChain post 3 = .ok [post, mid, base] ∧
      theme.layoutChain post 2 = .error (.recursionLimit "base" 2) ∧
      theme.layoutChain (extending "left" "right") 1000 =
        theme.layoutChain (extending "left" "right") 6 := by
  intro extending post mid base theme
  have hmid : theme.Extends post mid := by
    refine ⟨"mid", rfl, ?_⟩
    dsimp only [theme, mid, base, extending]
    rfl
  have hbase : theme.Extends mid base := by
    refine ⟨"base", rfl, ?_⟩
    dsimp only [theme, mid, base, extending]
    rfl
  have hshort : theme.IsPath post ([] ++ [post] ++ [mid]) :=
    isPath_concat_iff.2 ⟨isPath_singleton theme post, hmid, by decide⟩
  have hlong : theme.IsPath post ([post] ++ [mid] ++ [base]) :=
    isPath_concat_iff.2 ⟨hshort, hbase, by decide⟩
  refine ⟨((layoutChain_spec theme post 3).1 _).2 ⟨hlong, ?_, Nat.le_refl 3⟩, ?_, ?_⟩
  · rintro _ ⟨⟩
    rfl
  · exact ((layoutChain_spec theme post 2).2.2.1 _ _).2 ⟨rfl, [post], mid, hshort, rfl, rfl⟩
  · have hsize : theme.size = 4 := by
      dsimp only [theme, mid, base, extending]
      rfl
    obtain ⟨-, -, -, -, hlimit⟩ := layoutChain_spec theme (extending "left" "right") 1000
    rw [hsize] at hlimit
    exact hlimit (by decide)

end Theme

end BlogTheme
