import BlogTheme.Proofs.Html.Decoding
import BlogTheme.Proofs.Render.Expressions

/-!
# Cutting the plain text of a post

A plain text is words one space apart, so its first words stand at its beginning, as they stand at
the beginning of more of them (`Html.firstWords_prefix`). The helpers `excerpt` and `content` cut
the plain text of the post in focus alike, to a number of characters if the call gives one, else
to a number of words (`Page.render_cuts`).
-/

namespace BlogTheme

open Template (Argument Invocation Node)

namespace Html

open BlogTheme.Text

theorem toList_firstWords (n : Nat) (s : String) :
    (firstWords n s).toList = unwords ((words s.toList).take n) :=
  String.toList_ofList

theorem toList_plainText (html : String) :
    (plainText html).toList = unwords (words (plainText html).toList) := by
  rw [plainText, String.toList_ofList, plainChars_eq,
    words_unwords isWord_of_mem_words]

theorem firstWords_prefix {n m : Nat} (h : n ≤ m) (s : String) :
    (firstWords n s).toList <+: (firstWords m s).toList := by
  rw [toList_firstWords, toList_firstWords]
  exact unwords_take_prefix h _

/-- As many words are cut off as are asked for, or all of them. -/
theorem words_firstWords (n : Nat) (s : String) :
    words (firstWords n s).toList = (words s.toList).take n := by
  rw [toList_firstWords]
  exact words_unwords fun w hw => isWord_of_mem_words w (List.mem_of_mem_take hw)

/-- A plain text that has no more words is not cut. -/
theorem firstWords_plainText {n : Nat} {html : String}
    (h : (words (plainText html).toList).length ≤ n) :
    firstWords n (plainText html) = plainText html := by
  apply String.toList_inj.1
  rw [toList_firstWords, List.take_of_length_le h, ← toList_plainText]

theorem firstWords_prefix_plainText (n : Nat) (html : String) :
    (firstWords n (plainText html)).toList <+: (plainText html).toList := by
  let all := (words (plainText html).toList).length
  have hall : firstWords (max n all) (plainText html) = plainText html :=
    firstWords_plainText (Nat.le_max_right n all)
  have hprefix := firstWords_prefix (Nat.le_max_left n all) (plainText html)
  rwa [hall] at hprefix

theorem toList_firstChars (n : Nat) (s : String) :
    (firstChars n s).toList = s.toList.take (min n s.length) := by
  rw [firstChars, String.toList_ofList, ← String.length_toList, ← List.take_eq_take_min]

end Html

open Html (firstChars firstWords plainText)

namespace Page

variable (page : Page) (st : RenderState)

/-- Both expressions write this text, with or without escaping, and change nothing. -/
def WriteAlike (i j : Invocation) (text : String) : Prop :=
  ∀ escaped, (page.render [.expression i escaped]).run st =
      .ok (st.write escaped (.text text)) st ∧
    (page.render [.expression j escaped]).run st = .ok (st.write escaped (.text text)) st

/-- The expression writes nothing and records that its helper refuses the argument with a key. -/
def RefusesCount (i : Invocation) (key : String) : Prop :=
  ∀ escaped, (page.render [.expression i escaped]).run st = .ok "" (st.record
    { kind := .helperFailed
      template := st.template
      message := (ThemeError.helperFailed i.name
        (key ++ "= expects a non-negative number")).message
      line := i.span.line })

/-- The argument with this key says how much is to be kept, and has this value: the number of
characters, or the number of words if that of characters is not given. -/
inductive LimitedBy (i : Invocation) : (key : String) → Value → Prop where
  | characters {v} : page.Keyed st i "characters" (some v) → LimitedBy i "characters" v
  | words {v} : page.Keyed st i "characters" none → page.Keyed st i "words" (some v) →
    LimitedBy i "words" v

/-- A text cut to a number of what a key counts. -/
def cutTo (key : String) (n : Nat) (text : String) : String :=
  if key = "characters" then firstChars n text else firstWords n text

variable {page st} {p : Post} {i : Invocation}

theorem LimitedBy.cut? {key : String} {v : Value} (h : page.LimitedBy st i key v) :
    Reading.cut? p (page.callAt st.toFrame i) =
      match v.toCount? with
      | some n => .ok (some (cutTo key n (plainText p.html)))
      | none => .error (.helperFailed i.name (key ++ "= expects a non-negative number")) := by
  unfold Reading.cut?
  cases h with
  | characters hcharacters =>
    rw [hcharacters.count?_some]
    cases v.toCount? <;> rfl
  | words hcharacters hwords =>
    rw [hcharacters.count?_none]
    simp only [bind, Except.bind]
    rw [hwords.count?_some]
    cases v.toCount? <;> rfl

section

variable (hhelpers : page.helpers = .builtin) (hpost : Focus.post? page.request st.scopes = some p)
include hhelpers hpost

/-- An excerpt and a content that are limited are planned alike. -/
theorem planExpression_cut (hname : i.name = "excerpt" ∨ i.name = "content") {key : String}
    {v : Value} (h : page.LimitedBy st i key v) :
    page.planExpression st.toFrame i =
      match v.toCount? with
      | some n => .ok (.write (.text (cutTo key n (plainText p.html))))
      | none => .error (.helperFailed i.name (key ++ "= expects a non-negative number")) := by
  have hpost : Focus.post? page.request st.toFrame.scopes = some p := hpost
  obtain hname | hname := hname
  · rw [planExpression_reader (r := .excerpt) hhelpers (by rw [hname]; rfl)]
    simp only [planReader, Reader.read, Reading.excerpt, hpost, h.cut?]
    cases v.toCount? <;> rfl
  · rw [planExpression_reader (r := .content) hhelpers (by rw [hname]; rfl)]
    simp only [planReader, Reader.read, Reading.content, hpost, h.cut?]
    cases v.toCount? <;> rfl

theorem writes_cut (hname : i.name = "excerpt" ∨ i.name = "content") {key : String} {v : Value}
    (h : page.LimitedBy st i key v) {n : Nat} (hn : v.toCount? = some n) (escaped : Bool) :
    (page.render [.expression i escaped]).run st =
      .ok (st.write escaped (.text (cutTo key n (plainText p.html)))) st := by
  have hplan := planExpression_cut hhelpers hpost hname h
  rw [hn] at hplan
  exact run_render_write hplan escaped

theorem refuses_cut (hname : i.name = "excerpt" ∨ i.name = "content") {key : String} {v : Value}
    (h : page.LimitedBy st i key v) (hn : v.toCount? = none) : page.RefusesCount st i key := by
  have hplan := planExpression_cut hhelpers hpost hname h
  rw [hn] at hplan
  exact run_render_refused hplan

end

theorem LimitedBy.of_hash {j : Invocation} (hhash : i.hash = j.hash) {key : String} {v : Value}
    (h : page.LimitedBy st i key v) : page.LimitedBy st j key v := by
  have hkeyed {key : String} {v? : Option Value} (h : page.Keyed st i key v?) :
      page.Keyed st j key v? := by
    cases v? <;> simpa only [Keyed, hhash] using h
  cases h with
  | characters hcharacters => exact .characters (hkeyed hcharacters)
  | words hcharacters hwords => exact .words (hkeyed hcharacters) (hkeyed hwords)

/-- Of a plain text the first words are a beginning of any more of them and of the whole, there are
as many of them as asked for unless the text has fewer, and then they are the whole text. With the
same arguments an excerpt and the content of the post in focus write the same beginning of its plain
text: as many characters as they are given, or as many words if no number of characters is given.
A limit that is no number, or a negative one, is refused by both of them. -/
theorem render_cuts :
    (∀ html n m, n ≤ m →
      (firstWords n (plainText html)).toList <+: (firstWords m (plainText html)).toList ∧
      (firstWords m (plainText html)).toList <+: (plainText html).toList ∧
      (Text.words (firstWords n (plainText html)).toList).length =
        min n (Text.words (plainText html).toList).length ∧
      ((Text.words (plainText html).toList).length ≤ n →
        firstWords n (plainText html) = plainText html)) ∧
    (∀ n s, (firstChars n s).toList = s.toList.take (min n s.length)) ∧
    ∀ (page : Page) (st : RenderState) (p : Post) (i j : Invocation), page.helpers = .builtin →
      Focus.post? page.request st.scopes = some p → i.name = "excerpt" → j.name = "content" →
      i.hash = j.hash →
        (∀ v n, page.Keyed st i "characters" (some v) → v.toCount? = some n →
          page.WriteAlike st i j (firstChars n (plainText p.html))) ∧
        (∀ v n, page.Keyed st i "characters" none → page.Keyed st i "words" (some v) →
          v.toCount? = some n → page.WriteAlike st i j (firstWords n (plainText p.html))) ∧
        ∀ key v, page.LimitedBy st i key v → v.toCount? = none →
          page.RefusesCount st i key ∧ page.RefusesCount st j key := by
  refine ⟨fun html n m h => ⟨Html.firstWords_prefix h _, Html.firstWords_prefix_plainText m html,
    ?_, Html.firstWords_plainText⟩, Html.toList_firstChars, ?_⟩
  · rw [Html.words_firstWords, List.length_take]
  · intro page st p i j hhelpers hpost hi hj hhash
    have hwrites {key : String} {v : Value} (h : page.LimitedBy st i key v) {n : Nat}
        (hn : v.toCount? = some n) : page.WriteAlike st i j (cutTo key n (plainText p.html)) :=
      fun escaped => ⟨writes_cut hhelpers hpost (.inl hi) h hn escaped,
        writes_cut hhelpers hpost (.inr hj) (h.of_hash hhash) hn escaped⟩
    refine ⟨fun v n h hn => hwrites (.characters h) hn,
      fun v n h h' hn => hwrites (.words h h') hn, fun key v h hn => ?_⟩
    exact ⟨refuses_cut hhelpers hpost (.inl hi) h hn,
      refuses_cut hhelpers hpost (.inr hj) (h.of_hash hhash) hn⟩

/-- A post of which both limits are given is cut to characters. -/
theorem render_cuts_characters :
    let hash : List (String × Argument) := [("words", .number 1), ("characters", .number 5)]
    let excerpt : Invocation := { name := "excerpt", params := [], hash, span := default }
    let content : Invocation := { name := "content", params := [], hash, span := default }
    let st := RenderState.start { subject := .post { html := "<p>Tom &amp; <b>Jerry</b></p>" } }
    (bare.render [.expression excerpt true]).run st = .ok "Tom &amp;" st ∧
      (bare.render [.expression content true]).run st = .ok "Tom &amp;" st := by
  intro hash excerpt content st
  have hcharacters : bare.Keyed st excerpt "characters" (some (.int 5)) :=
    ⟨.number 5, rfl, fun _ => rfl⟩
  exact (render_cuts.2.2 bare st _ excerpt content rfl rfl rfl rfl rfl).1 _ 5 hcharacters rfl true

end Page

end BlogTheme
