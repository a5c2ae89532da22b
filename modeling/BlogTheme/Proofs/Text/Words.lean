import BlogTheme.Proofs.Text.Trim
import Mathlib.Data.List.Chain

/-!
# Words and the blanks between them

Blanks around a text and how many stand between two of its words make no difference to its
words. Trimmed, and with one space for each run of blanks, a text is its words one space apart
(`squeeze_trim`), and splitting words that were set one space apart gives them back
(`words_unwords`). A text is left as it is by this exactly if it was `SingleSpaced` before
(`squeeze_trim_eq_self_iff`). Fewer words make a beginning of the text that more of them make
(`unwords_take_prefix`).
-/

namespace BlogTheme.Text

/-- A run of characters that are not blank, at least one. -/
def IsWord (w : List Char) : Prop :=
  w ≠ [] ∧ ∀ c ∈ w, isBlank c = false

/-- No blank stands at the ends of the text or beside another, and every blank is a space. -/
structure SingleSpaced (cs : List Char) : Prop where
  trimmed : trim cs = cs
  apart : cs.IsChain fun a b => isBlank a = true → isBlank b = false
  spaces : ∀ c ∈ cs, isBlank c = true → c = ' '

theorem isBlank_space : isBlank ' ' = true := by decide

/-! ## Splitting into words -/

/-- Texts are built from their ends: a blank comes in front of a text, or a word in front of
one that does not continue it. -/
theorem text_induction {P : List Char → Prop} (nil : P [])
    (blank : ∀ c cs, isBlank c = true → P cs → P (c :: cs))
    (word : ∀ w rest, IsWord w → rest.head?.all isBlank → P rest → P (w ++ rest)) (cs : List Char) :
    P cs := by
  induction hlength : cs.length using Nat.strongRecOn generalizing cs with
  | ind n ih =>
    cases cs with
    | nil => exact nil
    | cons c cs =>
      cases hc : isBlank c with
      | true => exact blank c cs hc (ih cs.length (by simp [← hlength]) cs rfl)
      | false =>
        have hword : (c :: cs).takeWhile (!isBlank ·) = c :: cs.takeWhile (!isBlank ·) :=
          List.takeWhile_cons_of_pos (by simp [hc])
        have hrest : (c :: cs).dropWhile (!isBlank ·) = cs.dropWhile (!isBlank ·) :=
          List.dropWhile_cons_of_pos (by simp [hc])
        rw [← List.takeWhile_append_dropWhile (p := (!isBlank ·)) (l := c :: cs), hword, hrest]
        refine word _ _ ⟨List.cons_ne_nil _ _, fun d hd => ?_⟩ ?_ (ih _ ?_ _ rfl)
        · rw [← hword] at hd
          simpa using List.mem_takeWhile_imp hd
        · have hhead := List.head?_dropWhile_not (!isBlank ·) cs
          revert hhead
          cases (cs.dropWhile (!isBlank ·)).head? <;> simp
        · have := (List.dropWhile_sublist (p := (!isBlank ·)) (l := cs)).length_le
          simp only [List.length_cons] at hlength
          omega

theorem stretches_cons {c : Char} (hc : isBlank c = false) {cs w : List Char}
    {ws : List (List Char)} (hcs : stretches cs = w :: ws) :
    stretches (c :: cs) = (c :: w) :: ws := by
  simp [stretches, hc, hcs]

@[simp] theorem words_nil : words [] = [] := rfl

@[simp] theorem words_blank {c : Char} (hc : isBlank c = true) (cs : List Char) :
    words (c :: cs) = words cs := by
  simp [words, stretches, hc]

/-- A word ends in front of a blank and at the end of the text. -/
theorem words_append {w rest : List Char} (hw : IsWord w) (hrest : rest.head?.all isBlank) :
    words (w ++ rest) = w :: words rest := by
  have hopen : ∃ ss, stretches rest = [] :: ss := by
    cases rest with
    | nil => exact ⟨[], rfl⟩
    | cons d rest =>
      have hd : isBlank d = true := by simpa using hrest
      exact ⟨stretches rest, by simp [stretches, hd]⟩
  obtain ⟨ss, hss⟩ := hopen
  have hstretches (v : List Char) (hv : ∀ c ∈ v, isBlank c = false) :
      stretches (v ++ rest) = v :: ss := by
    induction v with
    | nil => exact hss
    | cons c v ih =>
      obtain ⟨hc, hv⟩ := List.forall_mem_cons.1 hv
      exact stretches_cons hc (ih hv)
  rw [words, hstretches w hw.2, words, hss]
  simp [hw.1]

theorem words_word {w : List Char} (hw : IsWord w) : words w = [w] := by
  have h : words (w ++ []) = w :: words [] := words_append hw rfl
  rwa [List.append_nil, words_nil] at h

theorem isWord_of_mem_words {cs : List Char} : ∀ w ∈ words cs, IsWord w := by
  induction cs using text_induction with
  | nil => exact fun w hw => absurd hw List.not_mem_nil
  | blank c cs hc ih => rwa [words_blank hc]
  | word w rest hw hrest ih =>
    rw [words_append hw hrest]
    exact List.forall_mem_cons.2 ⟨hw, ih⟩

theorem words_eq_nil_iff {cs : List Char} : words cs = [] ↔ ∀ c ∈ cs, isBlank c = true := by
  induction cs using text_induction with
  | nil => simp
  | blank c cs hc ih => simp [hc, ih]
  | word w rest hw hrest ih =>
    obtain ⟨c, w, rfl⟩ := List.exists_cons_of_ne_nil hw.1
    have hc : isBlank c = false := hw.2 c List.mem_cons_self
    rw [words_append hw hrest]
    simp [hc]

theorem words_append_blanks (cs : List Char) {blanks : List Char}
    (hblanks : ∀ c ∈ blanks, isBlank c = true) : words (cs ++ blanks) = words cs := by
  induction cs using text_induction with
  | nil => exact words_eq_nil_iff.2 hblanks
  | blank c cs hc ih => rw [List.cons_append, words_blank hc, words_blank hc, ih]
  | word w rest hw hrest ih =>
    have hhead : (rest ++ blanks).head?.all isBlank = true := by
      cases rest with
      | nil => cases blanks <;> simp_all
      | cons c rest => exact hrest
    rw [List.append_assoc, words_append hw hhead, words_append hw hrest, ih]

theorem words_trim (cs : List Char) : words (trim cs) = words cs := by
  have hstart (cs : List Char) : words (trimStart cs) = words cs := by
    induction cs with
    | nil => rfl
    | cons c cs ih =>
      rw [trimStart, List.dropWhile_cons]
      split
      · rename_i hc
        rw [words_blank hc, ← ih, trimStart]
      · rfl
  have hend (cs : List Char) : words (trimEnd cs) = words cs := by
    have hsplit : trimEnd cs ++ (cs.reverse.takeWhile isBlank).reverse = cs := by
      rw [trimEnd, ← List.reverse_append, List.takeWhile_append_dropWhile, List.reverse_reverse]
    have hblanks : ∀ c ∈ (cs.reverse.takeWhile isBlank).reverse, isBlank c = true :=
      fun c hc => List.mem_takeWhile_imp (List.mem_reverse.1 hc)
    have h := words_append_blanks (trimEnd cs) hblanks
    rw [hsplit] at h
    exact h.symm
  rw [trim, hend, hstart]

/-! ## Setting words apart -/

theorem unwords_singleton (w : List Char) : unwords [w] = w := by
  simp [unwords]

/-- Another word stands behind a space. -/
theorem unwords_cons {ws : List (List Char)} (hws : ws ≠ []) (w : List Char) :
    unwords (w :: ws) = w ++ ' ' :: unwords ws := by
  obtain ⟨v, ws, rfl⟩ := List.exists_cons_of_ne_nil hws
  simp [unwords, List.intercalate_cons_cons]

theorem words_unwords {ws : List (List Char)} (hws : ∀ w ∈ ws, IsWord w) :
    words (unwords ws) = ws := by
  induction ws with
  | nil => rfl
  | cons w ws ih =>
    obtain ⟨hw, hws⟩ := List.forall_mem_cons.1 hws
    by_cases hnil : ws = []
    · rw [hnil, unwords_singleton, words_word hw]
    · rw [unwords_cons hnil, words_append hw (by simp [isBlank_space]), words_blank isBlank_space,
        ih hws]

theorem unwords_prefix (ws vs : List (List Char)) : unwords ws <+: unwords (ws ++ vs) := by
  induction ws with
  | nil => exact List.nil_prefix
  | cons w ws ih =>
    rw [List.cons_append]
    by_cases hnil : ws = []
    · subst hnil
      by_cases hvs : vs = []
      · rw [hvs]
        exact List.prefix_refl _
      · rw [List.nil_append, unwords_singleton, unwords_cons hvs]
        exact List.prefix_append _ _
    · rw [unwords_cons hnil, unwords_cons (by simp [hnil])]
      exact (List.prefix_append_right_inj w).2 ((List.prefix_cons_inj ' ').2 ih)

/-- Fewer words make a beginning of the text that more of them make. -/
theorem unwords_take_prefix {n m : Nat} (h : n ≤ m) (ws : List (List Char)) :
    unwords (ws.take n) <+: unwords (ws.take m) := by
  obtain ⟨vs, hvs⟩ := List.take_prefix_take_left h (l := ws)
  rw [← hvs]
  exact unwords_prefix _ _

/-! ## Trimming and squeezing -/

/-- Words are not squeezed. -/
theorem squeezeFrom_append {w : List Char} (hw : IsWord w) (rest : List Char) (afterBlank : Bool) :
    squeezeFrom afterBlank (w ++ rest) = w ++ squeezeFrom false rest := by
  have hsame (v : List Char) (hv : ∀ c ∈ v, isBlank c = false) :
      squeezeFrom false (v ++ rest) = v ++ squeezeFrom false rest := by
    induction v with
    | nil => rfl
    | cons c v ih =>
      obtain ⟨hc, hv⟩ := List.forall_mem_cons.1 hv
      simp [squeezeFrom, hc, ih hv]
  obtain ⟨c, w, rfl⟩ := List.exists_cons_of_ne_nil hw.1
  obtain ⟨hc, hw⟩ := List.forall_mem_cons.1 hw.2
  simp [squeezeFrom, hc, hsame w hw]

/-- Where blanks in front are left out, a text without a blank at its end is squeezed to its
words one space apart. -/
theorem squeezeFrom_true {cs : List Char} (hend : cs.getLast?.any isBlank = false) :
    squeezeFrom true cs = unwords (words cs) := by
  induction cs using text_induction with
  | nil => rfl
  | blank c cs hc ih =>
    have hne : cs ≠ [] := by
      rintro rfl
      simp [hc] at hend
    rw [squeezeFrom, if_pos hc, if_pos rfl, words_blank hc]
    exact ih (by rwa [List.getLast?_cons_of_ne_nil hne] at hend)
  | word w rest hw hrest ih =>
    rw [squeezeFrom_append hw, words_append hw hrest]
    cases rest with
    | nil => rw [words_nil, unwords_singleton, squeezeFrom, List.append_nil]
    | cons d rest =>
      rw [List.getLast?_append_of_ne_nil _ (List.cons_ne_nil _ _)] at hend
      have hd : isBlank d = true := by simpa using hrest
      -- The text goes on to another word, since it does not end with a blank.
      have hmore : words (d :: rest) ≠ [] := by
        intro hnone
        have hlast := words_eq_nil_iff.1 hnone _ (List.getLast_mem (List.cons_ne_nil d rest))
        rw [List.getLast?_eq_some_getLast (List.cons_ne_nil d rest)] at hend
        simp [hlast] at hend
      have ih := ih hend
      rw [squeezeFrom, if_pos hd, if_pos rfl] at ih
      rw [unwords_cons hmore, ← ih, squeezeFrom, if_pos hd]
      rfl

/-- Trimmed and squeezed, a text is its words one space apart. -/
theorem squeeze_trim (cs : List Char) : squeeze (trim cs) = unwords (words cs) := by
  obtain ⟨hstart, hend⟩ := trim_eq_self_iff.1 (trim_trim cs)
  rw [← words_trim, ← squeezeFrom_true hend, squeeze]
  cases htrim : trim cs with
  | nil => rfl
  | cons c cs =>
    rw [htrim] at hstart
    have hc : isBlank c = false := by simpa using hstart
    simp [squeezeFrom, hc]

theorem length_squeezeFrom_le (cs : List Char) (afterBlank : Bool) :
    (squeezeFrom afterBlank cs).length ≤ cs.length := by
  fun_induction squeezeFrom afterBlank cs with
  | case1 => exact Nat.le_refl _
  | case2 c cs hc ih => exact Nat.le_succ_of_le ih
  | case3 afterBlank c cs hc hafter ih => exact Nat.succ_le_succ ih
  | case4 afterBlank c cs hc ih => exact Nat.succ_le_succ ih

/-- What is left as it is by squeezing, behind a blank or not. -/
theorem squeezeFrom_eq_self_iff {cs : List Char} {afterBlank : Bool} :
    squeezeFrom afterBlank cs = cs ↔ (afterBlank = true → cs.head?.any isBlank = false) ∧
      (cs.IsChain fun a b => isBlank a = true → isBlank b = false) ∧
      ∀ c ∈ cs, isBlank c = true → c = ' ' := by
  induction cs generalizing afterBlank with
  | nil => simp [squeezeFrom]
  | cons c cs ih =>
    rw [List.isChain_cons, List.forall_mem_cons, squeezeFrom]
    cases hc : isBlank c with
    | false => simp [hc, ih]
    | true =>
      cases afterBlank with
      | true =>
        have hlength := length_squeezeFrom_le cs true
        have hne : squeezeFrom true cs ≠ c :: cs := by
          intro h
          rw [h, List.length_cons] at hlength
          omega
        simp [hc, hne]
      | false =>
        have hhead : (∀ d ∈ cs.head?, isBlank d = false) ↔ cs.head?.any isBlank = false := by
          cases cs <;> simp
        simp only [if_true, List.cons.injEq, ih, forall_const, hhead,
          Bool.false_eq_true, if_false, false_imp_iff, true_and]
        tauto

/-- Trimming and squeezing leaves the single-spaced texts as they are, and only those. -/
theorem squeeze_trim_eq_self_iff {cs : List Char} : squeeze (trim cs) = cs ↔ SingleSpaced cs := by
  have hlength (cs : List Char) : (squeeze cs).length ≤ cs.length := length_squeezeFrom_le cs false
  rw [comp_eq_self_iff hlength trim_sublist, squeeze, squeezeFrom_eq_self_iff]
  constructor
  · rintro ⟨htrim, -, hapart, hspaces⟩
    exact ⟨htrim, hapart, hspaces⟩
  · rintro ⟨htrim, hapart, hspaces⟩
    exact ⟨htrim, nofun, hapart, hspaces⟩

instance (cs : List Char) : Decidable (SingleSpaced cs) :=
  decidable_of_iff _ squeeze_trim_eq_self_iff

end BlogTheme.Text
