import BlogTheme.Proofs.Render.Expressions
import BlogTheme.Proofs.Text.Decimal

/-!
# Links between the pages of a listing

The address of a page is that of the first page, and behind it the number of the page unless that is
the first (`Pagination.pageUrl_eq`), so two pages have one address only if they are the same
(`Pagination.pageUrl_eq_iff`). The links to the page before and to the page after are each
other's way back. Followed from the first page, the links to the page after go through all pages in
their order (`Pagination.walk_iff`).
-/

namespace BlogTheme

open Template (Argument Invocation Node)

namespace Pagination

/-- The listing with another of its pages shown. -/
def showing (p : Pagination) (page : UInt32) : Pagination :=
  { p with page }

/-- What the address of a page has behind that of the first page. -/
def pagePath (page : UInt32) : String :=
  if page ≤ 1 then "" else "page/" ++ Text.showInt page.toNat ++ "/"

/-- The addresses at which one comes by from a page of the listing, if from each page one goes on to
the address of the page after until there is none. -/
inductive Walk (p : Pagination) : UInt32 → List String → Prop where
  | stop {page} : (p.showing page).nextUrl? = none → Walk p page [p.pageUrl page]
  | step {page next urls} : (p.showing page).nextUrl? = some (p.pageUrl next) → Walk p next urls →
    Walk p page (p.pageUrl page :: urls)

/-- The addresses of the pages of a listing, in order. Without any page it has the first one all
the same. -/
def pageUrls (p : Pagination) : List String :=
  (List.range' 1 (max 1 p.pages.toNat)).map fun n => p.pageUrl (.ofNat n)

variable (p : Pagination)

/-! ## Addresses -/

theorem pageUrl_eq (page : UInt32) : p.pageUrl page = p.base ++ pagePath page := by
  unfold pageUrl pagePath
  split
  · rw [String.append_empty]
  · simp only [String.append_assoc]

theorem pagePath_eq_iff {a b : UInt32} :
    pagePath a = pagePath b ↔ max a.toNat 1 = max b.toNat 1 := by
  have hfirst (page : UInt32) : page ≤ 1 ↔ page.toNat ≤ 1 := UInt32.le_iff_toNat_le
  have hne (n : Nat) : "page/" ++ Text.showInt n ++ "/" ≠ "" := fun h => by
    have hlength := congrArg String.length h
    simp at hlength
  have hinj {m n : Nat} (h : "page/" ++ Text.showInt m ++ "/" = "page/" ++ Text.showInt n ++ "/") :
      m = n := by
    have hchars := congrArg String.toList h
    simp only [String.toList_append, List.append_assoc] at hchars
    have hdigits := List.append_cancel_right (List.append_cancel_left hchars)
    exact Text.showInt_natCast_injective (String.toList_inj.1 hdigits)
  unfold pagePath
  simp only [hfirst]
  split_ifs with ha hb hb
  · exact iff_of_true rfl (by omega)
  · exact iff_of_false (fun h => hne _ h.symm) (by omega)
  · exact iff_of_false (hne _) (by omega)
  · refine ⟨fun h => by rw [hinj h], fun h => ?_⟩
    rw [show a.toNat = b.toNat by omega]

theorem pageUrl_eq_iff {a b : UInt32} :
    p.pageUrl a = p.pageUrl b ↔ max a.toNat 1 = max b.toNat 1 := by
  rw [pageUrl_eq, pageUrl_eq, String.append_right_inj, pagePath_eq_iff]

/-! ## The page before and the page after -/

theorem hasPrev_iff : p.hasPrev ↔ 1 < p.page.toNat := by
  rw [hasPrev, decide_eq_true_iff, UInt32.lt_iff_toNat_lt]
  rfl

theorem hasNext_iff : p.hasNext ↔ p.page.toNat < p.pages.toNat := by
  rw [hasNext, decide_eq_true_iff, UInt32.lt_iff_toNat_lt]

theorem toNat_pred (h : p.hasPrev) : (p.page - 1).toNat = p.page.toNat - 1 := by
  have hpage := p.hasPrev_iff.1 h
  exact UInt32.toNat_sub_of_le _ _ (UInt32.le_iff_toNat_le.2 hpage.le)

theorem toNat_succ (h : p.hasNext) : (p.page + 1).toNat = p.page.toNat + 1 := by
  have hpage := p.hasNext_iff.1 h
  have hpages := p.pages.toNat_lt
  rw [UInt32.toNat_add]
  exact Nat.mod_eq_of_lt (by simp; omega)

theorem prevUrl?_eq_some_iff {url : String} :
    p.prevUrl? = some url ↔ p.hasPrev ∧ p.pageUrl (p.page - 1) = url := by
  simp [prevUrl?]

theorem nextUrl?_eq_some_iff {url : String} :
    p.nextUrl? = some url ↔ p.hasNext ∧ p.pageUrl (p.page + 1) = url := by
  simp [nextUrl?]

/-- The page after is followed by the next one. -/
theorem prevUrl?_showing_succ (h : p.hasNext) (hpage : 1 ≤ p.page.toNat) :
    (p.showing (p.page + 1)).prevUrl? = some (p.pageUrl p.page) := by
  have hsucc := p.toNat_succ h
  rw [prevUrl?_eq_some_iff, hasPrev_iff]
  refine ⟨?_, ?_⟩
  · show 1 < (p.page + 1).toNat
    omega
  · show p.pageUrl (p.page + 1 - 1) = p.pageUrl p.page
    rw [UInt32.add_sub_cancel]

theorem nextUrl?_showing_pred (h : p.hasPrev) (hpage : p.page.toNat ≤ p.pages.toNat) :
    (p.showing (p.page - 1)).nextUrl? = some (p.pageUrl p.page) := by
  have hpred := p.toNat_pred h
  have hpage' := p.hasPrev_iff.1 h
  rw [nextUrl?_eq_some_iff, hasNext_iff]
  refine ⟨?_, ?_⟩
  · show (p.page - 1).toNat < p.pages.toNat
    omega
  · show p.pageUrl (p.page - 1 + 1) = p.pageUrl p.page
    rw [UInt32.sub_add_cancel]

/-! ## Walks -/

variable {p}

theorem nextUrl?_showing_eq_some_iff {page next : UInt32} (hpage : 1 ≤ page.toNat) :
    (p.showing page).nextUrl? = some (p.pageUrl next) ↔
      page.toNat < p.pages.toNat ∧ next.toNat = page.toNat + 1 := by
  rw [nextUrl?_eq_some_iff, hasNext_iff]
  show page.toNat < p.pages.toNat ∧ p.pageUrl (page + 1) = p.pageUrl next ↔ _
  refine and_congr_right fun h => ?_
  have hsucc : (page + 1).toNat = page.toNat + 1 :=
    (p.showing page).toNat_succ ((p.showing page).hasNext_iff.2 h)
  rw [pageUrl_eq_iff, hsucc]
  omega

theorem nextUrl?_showing_eq_none_iff {page : UInt32} :
    (p.showing page).nextUrl? = none ↔ p.pages.toNat ≤ page.toNat := by
  rw [nextUrl?, ite_eq_right_iff]
  simp only [reduceCtorEq, imp_false]
  rw [hasNext_iff, Nat.not_lt]
  rfl

/-- From a page one comes by at this page and those behind it, in their order, and stops at the
last one. -/
theorem walk_iff {page : UInt32} (hpage : 1 ≤ page.toNat) {urls : List String} :
    p.Walk page urls ↔ urls =
      (List.range' page.toNat (p.pages.toNat - page.toNat + 1)).map
        fun n => p.pageUrl (.ofNat n) := by
  have hself (page : UInt32) : p.pageUrl (.ofNat page.toNat) = p.pageUrl page := by
    rw [UInt32.ofNat_toNat]
  constructor
  · intro h
    induction h with
    | @stop page hlast =>
      rw [Nat.sub_eq_zero_of_le (nextUrl?_showing_eq_none_iff.1 hlast)]
      exact congrArg (· :: []) (hself page).symm
    | @step page next urls hnext _ ih =>
      obtain ⟨hlt, hsucc⟩ := (nextUrl?_showing_eq_some_iff hpage).1 hnext
      have hcount : p.pages.toNat - page.toNat = p.pages.toNat - next.toNat + 1 := by omega
      rw [hcount, List.range'_succ, List.map_cons, hself, ← hsucc, ← ih (by omega)]
  · rintro rfl
    induction hcount : p.pages.toNat - page.toNat generalizing page with
    | zero =>
      have hlast : (p.showing page).nextUrl? = none := nextUrl?_showing_eq_none_iff.2 (by omega)
      rw [List.range'_one, List.map_singleton, hself]
      exact .stop hlast
    | succ n ih =>
      have hlt : page.toNat < p.pages.toNat := by omega
      have hnext : (page + 1).toNat = page.toNat + 1 :=
        (p.showing page).toNat_succ ((p.showing page).hasNext_iff.2 hlt)
      have hbehind : 1 ≤ (page + 1).toNat := by omega
      have hrest := ih hbehind (by omega)
      rw [List.range'_succ, List.map_cons, hself, ← hnext]
      exact .step ((nextUrl?_showing_eq_some_iff hpage).2 ⟨hlt, hnext⟩) hrest

theorem nodup_pageUrls (p : Pagination) : p.pageUrls.Nodup := by
  have hpages := p.pages.toNat_lt
  refine List.Nodup.map_on (fun m hm n hn h => ?_) List.nodup_range'
  rw [List.mem_range'_1] at hm hn
  rw [pageUrl_eq_iff, UInt32.toNat_ofNat', UInt32.toNat_ofNat', Nat.mod_eq_of_lt (by omega),
    Nat.mod_eq_of_lt (by omega)] at h
  omega

/-- The first page has a slash at the end of its address. -/
theorem base_cases (p : Pagination) : p.base.toList.getLast? = some '/' ∧
    (p.base = p.baseUrl ∨ p.baseUrl.toList.getLast? ≠ some '/' ∧ p.base = p.baseUrl ++ "/") := by
  unfold base
  split_ifs with h
  · exact ⟨h, .inl rfl⟩
  · exact ⟨by simp, .inr ⟨h, rfl⟩⟩

/-- The links of a listing agree with each other and with its pages. -/
structure LinksAgree (p : Pagination) : Prop where
  prev_iff : p.prevUrl?.isSome ↔ p.hasPrev
  /-- There is a number for the page before. -/
  prev_page : p.hasPrev →
    ∃ k : UInt32, k.toNat + 1 = p.page.toNat ∧ p.prevUrl? = some (p.pageUrl k)
  next_iff : p.nextUrl?.isSome ↔ p.hasNext
  /-- There is a number for the page after. -/
  next_page : p.hasNext →
    ∃ k : UInt32, k.toNat = p.page.toNat + 1 ∧ p.nextUrl? = some (p.pageUrl k)
  /-- Different pages have different addresses, but page 0 is page 1. -/
  same_iff : ∀ a b, p.pageUrl a = p.pageUrl b ↔ max a.toNat 1 = max b.toNat 1
  /-- A slash is added to the address of the first page only if there is none. -/
  base_cases : p.base.toList.getLast? = some '/' ∧
    (p.base = p.baseUrl ∨ p.baseUrl.toList.getLast? ≠ some '/' ∧ p.base = p.baseUrl ++ "/")
  behind_base : ∀ page, p.pageUrl page = p.base ++ pagePath page
  /-- The page after links back. -/
  prev_of_next : 1 ≤ p.page → p.page < p.pages →
    (p.showing (p.page + 1)).prevUrl? = some (p.pageUrl p.page)
  /-- The page before links on. -/
  next_of_prev : 1 < p.page → p.page ≤ p.pages →
    (p.showing (p.page - 1)).nextUrl? = some (p.pageUrl p.page)
  /-- From the first page one comes by at all pages, and then stops. -/
  walk_iff : ∀ urls, p.Walk 1 urls ↔ urls = p.pageUrls
  distinct : p.pageUrls.Nodup

theorem linksAgree (p : Pagination) : p.LinksAgree where
  prev_iff := by simp [prevUrl?]
  prev_page h := by
    have hpage := p.hasPrev_iff.1 h
    exact ⟨p.page - 1, by rw [p.toNat_pred h]; omega, p.prevUrl?_eq_some_iff.2 ⟨h, rfl⟩⟩
  next_iff := by simp [nextUrl?]
  next_page h := ⟨p.page + 1, p.toNat_succ h, p.nextUrl?_eq_some_iff.2 ⟨h, rfl⟩⟩
  same_iff _ _ := p.pageUrl_eq_iff
  base_cases := p.base_cases
  behind_base := p.pageUrl_eq
  prev_of_next hlow hhigh :=
    p.prevUrl?_showing_succ (decide_eq_true hhigh) (UInt32.le_iff_toNat_le.1 hlow)
  next_of_prev hlow hhigh :=
    p.nextUrl?_showing_pred (decide_eq_true hlow) (UInt32.le_iff_toNat_le.1 hhigh)
  walk_iff urls := by
    have hcount : max 1 p.pages.toNat = p.pages.toNat - (1 : UInt32).toNat + 1 := by
      show max 1 p.pages.toNat = p.pages.toNat - 1 + 1
      omega
    rw [pageUrls, hcount]
    exact Pagination.walk_iff (Nat.le_refl _)
  distinct := nodup_pageUrls p

end Pagination

/-! ## The helper -/

namespace Page

/-- In the state `st` this is a call of `page_url` for the page with this number, which is not
given by one of the words `prev` and `next`. -/
structure AsksForPage (page : Page) (st : RenderState) (i : Invocation) (n : Int) : Prop where
  name : i.name = "page_url" ∨ i.name = "pageUrl"
  argument : ∃ a rest v, i.params = a :: rest ∧ Reading.word a ≠ "prev" ∧ Reading.word a ≠ "next" ∧
    page.Evaluates st a v ∧ v.toInt? = some n

variable {page : Page} {st : RenderState} {i : Invocation} {n : Int}

/-- The address that is read is that of the nearest number that a page can have. -/
theorem AsksForPage.read (h : page.AsksForPage st i n) :
    ∃ k : UInt32, (k.toNat : Int) = max 0 (min n 4294967295) ∧
      Reader.read page st.toFrame (page.callAt st.toFrame i) .pageUrl =
        .ok (.value (.text (page.request.pagination.pageUrl k))) := by
  obtain ⟨-, a, rest, v, hparams, hprev, hnext, hv, hn⟩ := h
  refine ⟨UInt32.ofNat (min n.toNat 4294967295), ?_, ?_⟩
  · rw [UInt32.toNat_ofNat', Nat.mod_eq_of_lt (by omega)]
    omega
  · have hcall : (page.callAt st.toFrame i).params =
        page.givenAt st.toFrame a :: rest.map (page.givenAt st.toFrame) := by
      rw [callAt, hparams]
      rfl
    simp only [Reader.read, Reading.pageUrl, hcall, givenAt, if_neg hprev, if_neg hnext, hv.valueAt,
      bind, Except.bind, hn]
    rfl

theorem AsksForPage.find? (h : page.AsksForPage st i n) :
    Helpers.builtin.find? i.name = some (.reader .pageUrl) := by
  obtain hname | hname := h.name <;> rw [hname] <;> rfl

/-- An expression writes the address. -/
theorem AsksForPage.run_expression (hhelpers : page.helpers = .builtin)
    (h : page.AsksForPage st i n) :
    ∃ k : UInt32, (k.toNat : Int) = max 0 (min n 4294967295) ∧
      ∀ escaped, (page.render [.expression i escaped]).run st =
        .ok (st.write escaped (.text (page.request.pagination.pageUrl k))) st := by
  obtain ⟨k, hk, hread⟩ := h.read
  refine ⟨k, hk, run_render_write ?_⟩
  rw [planExpression_reader hhelpers h.find?]
  simp only [planReader, hread, bind, Except.bind]
  rfl

/-- A block writes the address in place of its body. -/
theorem AsksForPage.run_block (hhelpers : page.helpers = .builtin)
    (h : page.AsksForPage st.enterBlock i n) :
    ∃ k : UInt32, (k.toNat : Int) = max 0 (min n 4294967295) ∧
      ∀ body inverse, (page.render [.block i body inverse]).run st =
        .ok (st.write true (.text (page.request.pagination.pageUrl k))) st := by
  obtain ⟨k, hk, hread⟩ := h.read
  refine ⟨k, hk, fun body inverse => run_render_text ?_⟩
  have hplan : page.planBlock st.enterBlock.toFrame i =
      .ok (.write (.text (page.request.pagination.pageUrl k))) := by
    rw [planBlock, hhelpers, h.find?]
    simp only [planReaderBlock, hread, bind, Except.bind]
    rfl
  rw [nodeEffects]
  show invocationEffects st.toFrame i _ (page.planBlock st.enterBlock.toFrame i) = _
  rw [hplan]
  rfl

/-- The links of every listing agree with each other and with its pages. For an integer the helper
`page_url` writes the address of the page that has this number, or the nearest number that a page
can have. -/
theorem links_agree (p : Pagination) :
    p.LinksAgree ∧
    ∀ (page : Page) (st : RenderState) (i : Invocation) (n : Int), page.helpers = .builtin →
      page.request.pagination = p →
        (page.AsksForPage st i n →
          ∃ k : UInt32, (k.toNat : Int) = max 0 (min n 4294967295) ∧ ∀ escaped,
            (page.render [.expression i escaped]).run st =
              .ok (st.write escaped (.text (p.pageUrl k))) st) ∧
        (page.AsksForPage st.enterBlock i n →
          ∃ k : UInt32, (k.toNat : Int) = max 0 (min n 4294967295) ∧ ∀ body inverse,
            (page.render [.block i body inverse]).run st =
              .ok (st.write true (.text (p.pageUrl k))) st) := by
  refine ⟨p.linksAgree, ?_⟩
  rintro page st i n hhelpers rfl
  exact ⟨AsksForPage.run_expression hhelpers, AsksForPage.run_block hhelpers⟩

/-- Three pages, and a number that none of them has. -/
theorem links_agree_three :
    let p : Pagination := { page := 2, pages := 3, baseUrl := "/tag/rust" }
    let page : Page := { bare with request := { bare.request with pagination := p } }
    let i : Invocation :=
      { name := "page_url", params := [.number 4294967296], hash := [], span := default }
    let st := RenderState.start .root
    p.Walk 1 ["/tag/rust/", "/tag/rust/page/2/", "/tag/rust/page/3/"] ∧
      (p.showing 3).prevUrl? = some "/tag/rust/page/2/" ∧
      (page.render [.expression i true]).run st = .ok "/tag/rust/page/4294967295/" st := by
  intro p page i st
  obtain ⟨hlinks, hhelper⟩ := links_agree p
  have hasks : page.AsksForPage st i 4294967296 :=
    { name := .inl rfl
      argument := ⟨_, _, .int 4294967296, rfl, by decide, by decide, fun _ => rfl, rfl⟩ }
  refine ⟨(hlinks.walk_iff _).2 (by decide), ?_, ?_⟩
  · exact (hlinks.prev_of_next (by decide) (by decide)).trans (by decide)
  · obtain ⟨k, hk, hrun⟩ := (hhelper page st i _ rfl rfl).1 hasks
    obtain rfl : k = 4294967295 := UInt32.toNat.inj (Int.natCast_inj.1 hk)
    have hwritten :
        st.write true (.text (p.pageUrl 4294967295)) = "/tag/rust/page/4294967295/" := by
      decide
    rw [hrun true, hwritten]

end Page

end BlogTheme
