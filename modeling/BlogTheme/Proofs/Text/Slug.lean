import BlogTheme.Text.Slug
import Mathlib.Data.List.TakeWhile

/-!
# Slugs in canonical form

Writing a slug keeps what was written of it up to the last letter or digit, and adds a hyphen and
the next run of these once there is one (`slugSteps_eq`). So the slug of a text is made of the
maximal runs of letters and digits of its transliteration, in lower case and with one hyphen between
any two of them (`slugOfAscii_eq`), and the slugs are the texts in ASCII that are their own slugs
(`slugOfAscii_eq_self_iff`). This holds for any transliteration; that by tables leaves a text as it
is exactly if it is ASCII without the delete control (`Transliteration.ofText_eq_self_iff`).
-/

namespace BlogTheme.Text

/-- The maximal runs of characters of a class. -/
def runs (class' : Char → Bool) (cs : List Char) : List (List Char) :=
  (cs.splitOnP (!class' ·)).filter (!·.isEmpty)

/-- Words with one hyphen between any two of them. -/
def hyphenated (ws : List (List Char)) : List Char :=
  ['-'].intercalate ws

/-- The characters of a slug besides its hyphens. -/
def isSlugChar (c : Char) : Bool :=
  ('a' ≤ c && c ≤ 'z') || ('0' ≤ c && c ≤ '9')

/-- A run of small letters and digits, at least one. -/
def IsSlugWord (w : List Char) : Prop :=
  w ≠ [] ∧ ∀ c ∈ w, isSlugChar c

/-- The text has the form of a slug: it is empty, or made of words with one hyphen between any two
of them. -/
def IsSlug (cs : List Char) : Prop :=
  ∃ ws, (∀ w ∈ ws, IsSlugWord w) ∧ cs = hyphenated ws

/-! ## Runs -/

section

variable {class' : Char → Bool}

theorem splitOnP_cons_of_pos {c : Char} (hc : class' c) {cs w : List Char} {ws : List (List Char)}
    (hcs : cs.splitOnP (!class' ·) = w :: ws) :
    (c :: cs).splitOnP (!class' ·) = (c :: w) :: ws := by
  rw [List.splitOnP_cons_eq_if_modifyHead, hcs]
  simp [hc]

theorem splitOnP_cons_of_neg {c : Char} (hc : class' c = false) (cs : List Char) :
    (c :: cs).splitOnP (!class' ·) = [] :: cs.splitOnP (!class' ·) := by
  rw [List.splitOnP_cons_eq_if_modifyHead]
  simp [hc]

theorem forall_mem_of_mem_splitOnP {cs w : List Char} (h : w ∈ cs.splitOnP (!class' ·)) :
    ∀ c ∈ w, class' c := by
  induction cs generalizing w with
  | nil =>
    rw [List.splitOnP_nil, List.mem_singleton] at h
    rw [h]
    exact List.forall_mem_nil _
  | cons c cs ih =>
    obtain ⟨first, others, hcs⟩ := List.exists_cons_of_ne_nil (List.splitOnP_ne_nil (!class' ·) cs)
    rw [hcs] at ih
    cases hc : class' c with
    | true =>
      rw [splitOnP_cons_of_pos hc hcs] at h
      obtain rfl | h := List.mem_cons.1 h
      · exact List.forall_mem_cons.2 ⟨hc, ih List.mem_cons_self⟩
      · exact ih (List.mem_cons_of_mem _ h)
    | false =>
      rw [splitOnP_cons_of_neg hc, hcs] at h
      obtain rfl | h := List.mem_cons.1 h
      · exact List.forall_mem_nil _
      · exact ih h

theorem isRun_of_mem_runs {cs w : List Char} (h : w ∈ runs class' cs) :
    w ≠ [] ∧ ∀ c ∈ w, class' c := by
  obtain ⟨hw, hne⟩ := List.mem_filter.1 h
  exact ⟨by simpa using hne, forall_mem_of_mem_splitOnP hw⟩

theorem runs_map (f : Char → Char) (cs : List Char) :
    runs class' (cs.map f) = (runs (fun c => class' (f c)) cs).map (List.map f) := by
  have hsplit : (cs.map f).splitOnP (!class' ·) =
      (cs.splitOnP fun c => !class' (f c)).map (List.map f) := by
    induction cs with
    | nil => simp
    | cons c cs ih =>
      rw [List.map_cons, List.splitOnP_cons_eq_if_modifyHead, List.splitOnP_cons_eq_if_modifyHead,
        ih]
      split
      · rfl
      · cases cs.splitOnP fun c => !class' (f c) <;> rfl
  have hempty : (fun w : List Char => !w.isEmpty) ∘ List.map f = (!·.isEmpty) := by
    funext w
    simp
  rw [runs, hsplit, List.filter_map, hempty, runs]

/-- Words with hyphens between them are the runs of any class that has their characters and not the
hyphen. -/
theorem runs_hyphenated (hhyphen : class' '-' = false) {ws : List (List Char)}
    (hws : ∀ w ∈ ws, w ≠ [] ∧ ∀ c ∈ w, class' c) : runs class' (hyphenated ws) = ws := by
  have hkept : ws.filter (!·.isEmpty) = ws := List.filter_eq_self.2 fun w hw => by
    simpa using (hws w hw).1
  cases ws with
  | nil => rfl
  | cons w ws =>
    suffices h : (hyphenated (w :: ws)).splitOnP (!class' ·) = w :: ws by rw [runs, h, hkept]
    clear hkept
    induction ws generalizing w with
    | nil =>
      rw [hyphenated, List.intercalate_singleton]
      exact List.splitOnP_eq_singleton fun c hc => by simp [(hws w (by simp)).2 c hc]
    | cons w' ws ih =>
      have hrest := ih w' fun v hv => hws v (List.mem_cons_of_mem _ hv)
      rw [hyphenated, List.intercalate_cons_cons, List.append_assoc, List.singleton_append,
        List.splitOnP_append_cons_of_forall_mem _ _ (by simp [hhyphen]), ← hyphenated, hrest]
      exact fun c hc => by simp [(hws w (by simp)).2 c hc]

end

theorem hyphenated_cons (w : List Char) (ws : List (List Char)) :
    hyphenated (w :: ws) = w ++ ws.flatMap ('-' :: ·) := by
  unfold hyphenated
  induction ws generalizing w with
  | nil => simp
  | cons w' ws ih =>
    rw [List.intercalate_cons_cons, ih, List.flatMap_cons, List.append_assoc]
    rfl

/-! ## Writing a slug -/

section

variable {c d : Char}

theorem ne_hyphen_of_isAlphanum (hc : c.isAlphanum) : c ≠ '-' := by
  rintro rfl
  cases hc

theorem slugStep_alphanum (hc : c.isAlphanum) (written : List Char) :
    slugStep written c = c :: written :=
  if_pos hc

/-- Nothing is written before the first letter or digit. -/
theorem slugStep_nil (hc : c.isAlphanum = false) : slugStep [] c = [] := by
  simp [slugStep, hc]

/-- A hyphen is written behind a letter or digit. -/
theorem slugStep_behind (hc : c.isAlphanum = false) (hd : d.isAlphanum) (written : List Char) :
    slugStep (d :: written) c = '-' :: d :: written := by
  simp [slugStep, hc, ne_hyphen_of_isAlphanum hd]

/-- No hyphen is written behind another. -/
theorem slugStep_hyphen (hc : c.isAlphanum = false) (written : List Char) :
    slugStep ('-' :: written) c = '-' :: written := by
  simp [slugStep, hc]

theorem slugEnd_alphanum (hd : d.isAlphanum) (written : List Char) :
    slugEnd (d :: written) = (d :: written).reverse := by
  rw [slugEnd, List.dropWhile_cons_of_neg (by simpa using ne_hyphen_of_isAlphanum hd)]

theorem slugEnd_hyphen (written : List Char) : slugEnd ('-' :: written) = slugEnd written :=
  rfl

/-- What comes of a text behind a letter or digit, behind a hyphen, and where nothing is written
yet. -/
theorem slugSteps_eq {cs w : List Char} {ws : List (List Char)}
    (h : cs.splitOnP (!Char.isAlphanum ·) = w :: ws) :
    (∀ d written, d.isAlphanum → slugEnd (cs.foldl slugStep (d :: written)) =
      (d :: written).reverse ++ (w ++ (ws.filter (!·.isEmpty)).flatMap ('-' :: ·))) ∧
    (∀ d written, d.isAlphanum → slugEnd (cs.foldl slugStep ('-' :: d :: written)) =
      (d :: written).reverse ++ (runs Char.isAlphanum cs).flatMap ('-' :: ·)) ∧
    slugEnd (cs.foldl slugStep []) = hyphenated (runs Char.isAlphanum cs) := by
  unfold runs
  induction cs generalizing w ws with
  | nil =>
    rw [List.splitOnP_nil] at h ⊢
    cases h
    refine ⟨fun d written hd => ?_, fun d written hd => ?_, rfl⟩
    · simp [slugEnd_alphanum hd]
    · simp [slugEnd_hyphen, slugEnd_alphanum hd]
  | cons c cs ih =>
    obtain ⟨first, others, hcs⟩ :=
      List.exists_cons_of_ne_nil (List.splitOnP_ne_nil (!Char.isAlphanum ·) cs)
    obtain ⟨hin, hbehind, hbefore⟩ := ih hcs
    cases hc : c.isAlphanum with
    | true =>
      -- The character goes on with a run or begins one, behind the hyphen if there is one.
      have hsplit := splitOnP_cons_of_pos hc hcs
      rw [h] at hsplit ⊢
      cases hsplit
      simp only [List.foldl_cons, slugStep_alphanum hc]
      refine ⟨fun d written _ => ?_, fun d written _ => ?_, ?_⟩
      · simp [hin c (d :: written) hc]
      · simp [hin c ('-' :: d :: written) hc]
      · simp [hin c [] hc, hyphenated_cons]
    | false =>
      -- The runs are those behind the character, which leaves a hyphen where a run has ended.
      have hsplit := splitOnP_cons_of_neg hc cs
      rw [h] at hsplit ⊢
      obtain ⟨rfl, rfl⟩ := List.cons.inj hsplit
      simp only [List.foldl_cons, slugStep_nil hc, slugStep_hyphen hc]
      refine ⟨fun d written hd => ?_, fun d written hd => ?_, ?_⟩
      · simp [slugStep_behind hc hd, hbehind d written hd]
      · simp [hbehind d written hd]
      · simp [hbefore]

theorem slugSteps_start (cs : List Char) :
    slugEnd (cs.foldl slugStep []) = hyphenated (runs Char.isAlphanum cs) := by
  obtain ⟨w, ws, hcs⟩ :=
    List.exists_cons_of_ne_nil (List.splitOnP_ne_nil (!Char.isAlphanum ·) cs)
  exact (slugSteps_eq hcs).2.2

end

/-! ## Letters and digits -/

theorem isSlugChar_toLower (c : Char) : isSlugChar c.toLower = c.isAlphanum := by
  rw [Bool.eq_iff_iff]
  unfold isSlugChar Char.toLower Char.isAlphanum Char.isAlpha Char.isUpper Char.isLower Char.isDigit
  simp only [Char.le_def]
  split <;> simp <;> grind

theorem toLower_of_isSlugChar {c : Char} (h : isSlugChar c) : c.toLower = c := by
  unfold isSlugChar at h
  unfold Char.toLower
  split
  · simp [Char.le_def] at h
    grind
  · rfl

theorem isAlphanum_of_isSlugChar {c : Char} (h : isSlugChar c) : c.isAlphanum := by
  rw [← isSlugChar_toLower, toLower_of_isSlugChar h]
  exact h

theorem isAlphanum_toLower (c : Char) : c.toLower.isAlphanum = c.isAlphanum := by
  cases hc : c.isAlphanum with
  | true => exact isAlphanum_of_isSlugChar ((isSlugChar_toLower c).trans hc)
  | false =>
    -- A character that is not in lower case already is a letter.
    have hsame : c.toLower = c := by
      unfold Char.toLower
      split
      · rename_i hupper
        have hletter : c.isUpper := by
          unfold Char.isUpper
          simpa using hupper
        unfold Char.isAlphanum Char.isAlpha at hc
        simp [hletter] at hc
      · rfl
    rw [hsame, hc]

/-! ## Transliteration of ASCII -/

namespace Transliteration

theorem length_ofChar_le {c : Char} (h : isAscii c) : (ofChar c).length ≤ 1 := by
  unfold ofChar
  split
  · exact Nat.zero_le _
  · exact Nat.le_refl _

/-- What is behind the start of a text does not stay as it is: if it is ASCII, it begins with the
delete control, which is silent. -/
theorem flatMap_ofChar_ne {c : Char} (hc : isPlain c = false) (cs : List Char) :
    (c :: cs).flatMap ofChar ≠ c :: cs := by
  intro h
  have hascii : ∀ d ∈ c :: cs, isAscii d := fun d hd => by
    rw [← h] at hd
    obtain ⟨_, -, hd⟩ := List.mem_flatMap.1 hd
    exact isAscii_of_mem_ofChar hd
  obtain ⟨hfirst, hrest⟩ := List.forall_mem_cons.1 hascii
  have hsilent : ofChar c = [] := by
    have hdelete : c.toNat = 127 := by
      simp only [isPlain, isAscii, decide_eq_false_iff_not, decide_eq_true_eq] at hc hfirst
      omega
    rw [ofChar, if_pos (by simp [isControl, hdelete])]
  have hlength : (cs.flatMap ofChar).length ≤ cs.length := by
    clear h hascii
    induction cs with
    | nil => exact Nat.le_refl _
    | cons d cs ih =>
      obtain ⟨hd, hcs⟩ := List.forall_mem_cons.1 hrest
      have hone := length_ofChar_le hd
      have hmore := ih hcs
      rw [List.flatMap_cons, List.length_append, List.length_cons]
      omega
  rw [List.flatMap_cons, hsilent, List.nil_append] at h
  rw [h, List.length_cons] at hlength
  omega

/-- A text is its own transliteration exactly if it is ASCII without the delete control. -/
theorem ofText_eq_self_iff {cs : List Char} : ofText cs = cs ↔ ∀ c ∈ cs, isPlain c := by
  have hsplit : cs.takeWhile isPlain ++ cs.dropWhile isPlain = cs := List.takeWhile_append_dropWhile
  constructor
  · intro h
    have hrest : (cs.dropWhile isPlain).flatMap ofChar = cs.dropWhile isPlain :=
      List.append_cancel_left (h.trans hsplit.symm)
    cases hdrop : cs.dropWhile isPlain with
    | nil => exact fun c hc => by simpa using List.dropWhile_eq_nil_iff.1 hdrop c hc
    | cons c rest =>
      rw [hdrop] at hrest
      have hhead := List.head?_dropWhile_not isPlain cs
      rw [hdrop] at hhead
      exact absurd hrest (flatMap_ofChar_ne (by simpa using hhead) rest)
  · intro h
    rw [ofText, List.takeWhile_eq_self_iff.2 h, List.dropWhile_eq_nil_iff.2 h, List.flatMap_nil,
      List.append_nil]

end Transliteration

/-! ## Slugs -/

/-- A slug has the letters and digits of the text, in lower case, with one hyphen in place of what
separates them. -/
theorem slugOfAscii_eq (cs : List Char) :
    slugOfAscii cs = hyphenated ((runs Char.isAlphanum cs).map (List.map Char.toLower)) := by
  rw [slugOfAscii, slugSteps_start, runs_map]
  simp only [isAlphanum_toLower]

theorem isSlugWord_of_mem_runs {cs w : List Char} (h : w ∈ runs Char.isAlphanum cs) :
    IsSlugWord (w.map Char.toLower) := by
  obtain ⟨hne, hall⟩ := isRun_of_mem_runs h
  refine ⟨mt List.map_eq_nil_iff.1 hne, fun c hc => ?_⟩
  obtain ⟨d, hd, rfl⟩ := List.mem_map.1 hc
  exact (isSlugChar_toLower d).trans (hall d hd)

theorem isSlug_slugOfAscii (cs : List Char) : IsSlug (slugOfAscii cs) :=
  ⟨_, List.forall_mem_map.2 fun _ hw => isSlugWord_of_mem_runs hw, slugOfAscii_eq cs⟩

theorem IsSlugWord.map_toLower {w : List Char} (h : IsSlugWord w) : w.map Char.toLower = w := by
  have hsame : ∀ c ∈ w, c.toLower = id c := fun c hc => toLower_of_isSlugChar (h.2 c hc)
  rw [List.map_congr_left hsame, List.map_id]

/-- Slugs are their own slugs, and no other text is. -/
theorem slugOfAscii_eq_self_iff {cs : List Char} : slugOfAscii cs = cs ↔ IsSlug cs := by
  refine ⟨fun h => h ▸ isSlug_slugOfAscii cs, fun h => ?_⟩
  obtain ⟨ws, hws, rfl⟩ := h
  have hruns : runs Char.isAlphanum (hyphenated ws) = ws := runs_hyphenated rfl fun w hw =>
    ⟨(hws w hw).1, fun c hc => isAlphanum_of_isSlugChar ((hws w hw).2 c hc)⟩
  have hlower : ∀ w ∈ ws, w.map Char.toLower = id w := fun w hw => (hws w hw).map_toLower
  rw [slugOfAscii_eq, hruns, List.map_congr_left hlower, List.map_id]

theorem IsSlug.isPlain {cs : List Char} (h : IsSlug cs) : ∀ c ∈ cs, Transliteration.isPlain c := by
  have hchar {c : Char} (hc : isSlugChar c) : Transliteration.isPlain c := by
    simp only [isSlugChar, Bool.or_eq_true, Bool.and_eq_true, decide_eq_true_eq, Char.le_def,
      UInt32.le_iff_toNat_le] at hc
    simp only [Transliteration.isPlain, Char.toNat, decide_eq_true_eq]
    grind
  obtain ⟨ws, hws, rfl⟩ := h
  cases ws with
  | nil => exact List.forall_mem_nil _
  | cons w ws =>
    obtain ⟨hw, hws⟩ := List.forall_mem_cons.1 hws
    rw [hyphenated_cons]
    refine List.forall_mem_append.2 ⟨fun c hc => hchar (hw.2 c hc), fun c hc => ?_⟩
    obtain ⟨v, hv, hc⟩ := List.mem_flatMap.1 hc
    obtain rfl | hc := List.mem_cons.1 hc
    · rfl
    · exact hchar ((hws v hv).2 c hc)

section

variable {t : Transliteration} {s : String}

theorem toList_slugBy (t : Transliteration) (s : String) :
    (slugBy t s).toList = slugOfAscii (t.apply s).toList :=
  String.toList_ofList

theorem isSlug_slugBy (t : Transliteration) (s : String) : IsSlug (slugBy t s).toList :=
  toList_slugBy t s ▸ isSlug_slugOfAscii _

/-- A slug that is left as it is by transliteration is its own slug. -/
theorem slugBy_of_isSlug (hs : IsSlug s.toList) (hkept : t.apply s = s) : slugBy t s = s := by
  apply String.toList_inj.1
  rw [toList_slugBy, hkept]
  exact slugOfAscii_eq_self_iff.2 hs

/-- The slug of a text that is left as it is by transliteration has the runs of the text. -/
theorem slugBy_of_kept (hkept : t.apply s = s) : (slugBy t s).toList =
    hyphenated ((runs Char.isAlphanum s.toList).map (List.map Char.toLower)) := by
  rw [toList_slugBy, hkept, slugOfAscii_eq]

end

/-- Under a transliteration, in ASCII by its type, that leaves ASCII as it is, the slug of a text is
empty, or made of runs of small letters and digits with one hyphen between any two of them, and it
is its own slug. It has exactly the maximal runs of letters and digits of the transliteration, in
lower case; those of the text itself if it is ASCII. -/
theorem slugBy_canonical {t : Transliteration}
    (hkept : ∀ s : String, (∀ c ∈ s.toList, isAscii c) → t.apply s = s) (s : String) :
    IsSlug (slugBy t s).toList ∧ slugBy t (slugBy t s) = slugBy t s ∧
      (slugBy t s).toList =
        hyphenated ((runs Char.isAlphanum (t.apply s).toList).map (List.map Char.toLower)) ∧
      ((∀ c ∈ s.toList, isAscii c) → (slugBy t s).toList =
        hyphenated ((runs Char.isAlphanum s.toList).map (List.map Char.toLower))) := by
  have hslug := isSlug_slugBy t s
  refine ⟨hslug, slugBy_of_isSlug hslug (hkept _ fun c hc => ?_), ?_,
    fun hs => slugBy_of_kept (hkept s hs)⟩
  · exact Transliteration.isAscii_of_isPlain (hslug.isPlain c hc)
  · rw [toList_slugBy, slugOfAscii_eq]

/-- Reads two letters without their accents, and anything else outside of ASCII as unknown. -/
def Transliteration.unaccent (c : Char) : List Char :=
  if isAscii c then [c] else if c = 'é' then ['e'] else if c = 'à' then ['a'] else "[?]".toList

theorem Transliteration.isAscii_of_mem_unaccent {c d : Char} (h : d ∈ unaccent c) : isAscii d := by
  unfold unaccent at h
  split at h
  · rename_i hc
    rwa [List.mem_singleton.1 h]
  · split at h
    · exact List.all_eq_true.1 (by decide : ['e'].all isAscii) d h
    · split at h
      · exact List.all_eq_true.1 (by decide : ['a'].all isAscii) d h
      · exact List.all_eq_true.1 (by decide : "[?]".toList.all isAscii) d h

/-- The transliteration letter by letter. -/
def Transliteration.unaccented : Transliteration where
  apply s := String.ofList (s.toList.flatMap unaccent)
  isAscii_of_mem_apply s d hd := by
    rw [String.toList_ofList] at hd
    obtain ⟨c, -, hd⟩ := List.mem_flatMap.1 hd
    exact isAscii_of_mem_unaccent hd

/-- Accents are read away, separators at the ends leave nothing, and more than one of them between
two words one hyphen. -/
theorem slugBy_canonical_title :
    let t := Transliteration.unaccented
    (∀ s : String, (∀ c ∈ s.toList, isAscii c) → t.apply s = s) ∧
      (slugBy t "Café Déjà vu").toList = "cafe-deja-vu".toList ∧
      slugBy t (slugBy t "Café Déjà vu") = slugBy t "Café Déjà vu" ∧
      (slugBy t "-- About  the C++ Blog! ").toList = "about-the-c-blog".toList := by
  intro t
  have hkept (s : String) (hs : ∀ c ∈ s.toList, isAscii c) : t.apply s = s := by
    have hchar : ∀ c ∈ s.toList, Transliteration.unaccent c = [c] := fun c hc => if_pos (hs c hc)
    apply String.toList_inj.1
    refine String.toList_ofList.trans ?_
    rw [List.flatMap_def, List.map_congr_left hchar, ← List.flatMap_def, List.flatMap_singleton']
  obtain ⟨-, hown, hcafe, -⟩ := slugBy_canonical hkept "Café Déjà vu"
  obtain ⟨-, -, -, hblog⟩ := slugBy_canonical hkept "-- About  the C++ Blog! "
  have hascii : "-- About  the C++ Blog! ".toList.all isAscii := by decide
  exact ⟨hkept, hcafe.trans (by decide), hown,
    (hblog (List.all_eq_true.1 hascii)).trans (by decide)⟩

/-! ## Transliteration by tables -/

namespace Transliteration

theorem apply_byTables_eq_self_iff {s : String} :
    byTables.apply s = s ↔ ∀ c ∈ s.toList, isPlain c := by
  rw [← ofText_eq_self_iff, ← String.toList_inj]
  exact Eq.congr_left String.toList_ofList

end Transliteration

/-- With the tables a slug is its own slug. -/
theorem slugify_slugify (s : String) : slugify (slugify s) = slugify s :=
  slugBy_of_isSlug (isSlug_slugBy _ s)
    (Transliteration.apply_byTables_eq_self_iff.2 (isSlug_slugBy _ s).isPlain)

/-- With the tables the slug of a text in ASCII without the delete control has its runs. -/
theorem slugify_of_isPlain {s : String} (h : ∀ c ∈ s.toList, Transliteration.isPlain c) :
    (slugify s).toList = hyphenated ((runs Char.isAlphanum s.toList).map (List.map Char.toLower)) :=
  slugBy_of_kept (Transliteration.apply_byTables_eq_self_iff.2 h)

-- The delete control is read as nothing, where other separators leave a hyphen.
example : slugify "a\x7fb" = "ab" := by
  decide

end BlogTheme.Text
