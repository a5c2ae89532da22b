import BlogTheme.Proofs.Date.Format
import Mathlib.Data.List.Infix
import Mathlib.Data.List.TakeWhile

/-!
# The pieces of a format

A format is read piece by piece: text between brackets, a token, or a character that stands for
itself. A token is the longest of those that fit (`Token.longest?_eq_some_iff`), so every format is
read in exactly one way (`Reads.exists_pieces`, `Reads.unique`), and it is written as its pieces
are (`Moment.formatChars_pieces`). No piece of a format in which the brackets are closed goes on
across a bracket that follows (`Reads.append_bracketed`): such a format, text in brackets and any
format behind them are written one after the other (`Moment.format_bracketed`).
-/

namespace BlogTheme.Date

/-! ## The longest token -/

namespace Token

variable {token other : Token} {cs : List Char}

/-- The token stands at the beginning of a text. -/
def Fits (token : Token) (cs : List Char) : Prop :=
  token.name.toList <+: cs

/-- None of the tokens that stand at the beginning of a text is longer than this one. -/
structure IsLongest (token : Token) (cs : List Char) : Prop where
  fits : token.Fits cs
  length_le : ∀ other : Token, other.Fits cs → other.name.length ≤ token.name.length

theorem mem_all (token : Token) : token ∈ all := by
  cases token <;> decide

/-- Of two tokens in the table the first is not the shorter one. -/
theorem all_pairwise : all.Pairwise fun token other => other.name.length ≤ token.name.length := by
  decide

theorem name_injective : Function.Injective name := by
  have hall : ∀ token ∈ all, ∀ other ∈ all, token.name = other.name → token = other := by decide
  exact fun token other => hall token (mem_all token) other (mem_all other)

theorem bracket_notMem_name (token : Token) : '[' ∉ token.name.toList := by
  cases token <;> decide

theorem longest?_eq_none_iff : longest? cs = none ↔ ∀ token : Token, ¬token.Fits cs := by
  simp only [longest?, List.find?_eq_none, List.isPrefixOf_iff_prefix]
  exact ⟨fun h token => h token (mem_all token), fun h token _ => h token⟩

theorem isLongest_of_longest? (h : longest? cs = some token) : token.IsLongest cs := by
  obtain ⟨hfits, before, after, hall, hbefore⟩ := List.find?_eq_some_iff_append.1 h
  refine ⟨List.isPrefixOf_iff_prefix.1 hfits, fun other hother => ?_⟩
  have hmem := hall ▸ mem_all other
  rcases List.mem_append.1 hmem with hmem | hmem
  · -- A token in front of the one that was found does not fit.
    have hnot := hbefore other hmem
    rw [List.isPrefixOf_iff_prefix.2 hother] at hnot
    cases hnot
  · rcases List.mem_cons.1 hmem with rfl | hmem
    · exact Nat.le_refl _
    · have hpairwise := (List.pairwise_append.1 (hall ▸ all_pairwise)).2.1
      exact List.rel_of_pairwise_cons hpairwise hmem

/-- There is at most one longest token. -/
theorem IsLongest.unique (h : token.IsLongest cs) (h' : other.IsLongest cs) : token = other := by
  have hlength : token.name.length = other.name.length :=
    Nat.le_antisymm (h'.length_le _ h.fits) (h.length_le _ h'.fits)
  have hleads : token.name.toList <+: other.name.toList :=
    List.prefix_of_prefix_length_le h.fits h'.fits hlength.le
  exact name_injective (String.toList_inj.1 (hleads.eq_of_length hlength))

/-- The token that is taken is the longest of those that fit. -/
theorem longest?_eq_some_iff : longest? cs = some token ↔ token.IsLongest cs := by
  refine ⟨isLongest_of_longest?, fun h => ?_⟩
  cases hfound : longest? cs with
  | none => exact absurd h.fits (longest?_eq_none_iff.1 hfound token)
  | some found => rw [(isLongest_of_longest? hfound).unique h]

/-- No token goes on across a bracket. -/
theorem Fits.of_append_bracket {ds : List Char} (h : token.Fits (cs ++ '[' :: ds)) :
    token.Fits cs := by
  rcases List.prefix_or_prefix_of_prefix h (List.prefix_append cs _) with h' | ⟨u, hu⟩
  · exact h'
  · unfold Fits at h
    rw [← hu, List.prefix_append_right_inj] at h
    cases u with
    | nil =>
      rw [List.append_nil] at hu
      exact hu ▸ List.prefix_refl _
    | cons c u =>
      obtain ⟨rfl, -⟩ := List.cons_prefix_cons.1 h
      exact absurd (hu ▸ List.mem_append_right cs List.mem_cons_self) (bracket_notMem_name token)

end Token

/-! ## Pieces -/

/-- What is taken from the beginning of a format in one step. -/
inductive Piece where
  /-- Text between brackets. -/
  | bracketed (t : List Char)
  | token (taken : Token)
  /-- A character that stands for itself. -/
  | other (c : Char)

namespace Piece

/-- The piece as it stands in a format. -/
def source : Piece → List Char
  | bracketed t => '[' :: (t ++ [']'])
  | token taken => taken.name.toList
  | other c => [c]

/-- What the piece stands for in a date. -/
def write (m : Moment) : Piece → List Char
  | bracketed t => t
  | token taken => taken.write m
  | other c => [c]

/-- In front of `rest` the piece is what is taken. Brackets go to the first that closes them; a
token is the longest one; any other character begins no token, and is no bracket that is closed. -/
inductive Leads : Piece → List Char → Prop where
  | bracketed {t rest} : ']' ∉ t → Leads (bracketed t) rest
  | token {taken rest} : taken.IsLongest (taken.name.toList ++ rest) → Leads (token taken) rest
  | other {c rest} : (c = '[' → ']' ∉ rest) → (∀ token : Token, ¬token.Fits (c :: rest)) →
    Leads (other c) rest

variable {piece piece' : Piece} {rest rest' : List Char}

theorem source_bracketed_append (t rest : List Char) :
    (bracketed t).source ++ rest = '[' :: (t ++ ']' :: rest) := by
  simp [source]

theorem source_ne_nil (piece : Piece) : piece.source ≠ [] := by
  cases piece with
  | bracketed t => exact List.cons_ne_nil _ _
  | token taken => cases taken <;> decide
  | other c => exact List.cons_ne_nil _ _

/-- The first character of a token is no bracket. -/
theorem token_name_ne {taken : Token} {cs cs' : List Char} :
    taken.name.toList ++ cs ≠ '[' :: cs' := by
  intro h
  obtain ⟨c, name, hname⟩ := List.exists_cons_of_ne_nil (source_ne_nil (token taken))
  have hbracket := taken.bracket_notMem_name
  rw [show taken.name.toList = c :: name from hname] at h hbracket
  obtain ⟨rfl, -⟩ := List.cons_eq_cons.1 h
  exact hbracket List.mem_cons_self

/-- Something is taken from every format that is not empty. -/
theorem exists_leads (c : Char) (cs : List Char) :
    ∃ (piece : Piece) (rest : List Char), piece.Leads rest ∧ c :: cs = piece.source ++ rest := by
  by_cases hbracket : c = '[' ∧ ']' ∈ cs
  · obtain ⟨rfl, hmem⟩ := hbracket
    obtain ⟨t, rest, rfl, ht⟩ := List.eq_append_cons_of_mem hmem
    exact ⟨.bracketed t, rest, .bracketed ht, by simp [source]⟩
  · cases hfound : Token.longest? (c :: cs) with
    | none =>
      refine ⟨.other c, cs, .other (fun hc hmem => hbracket ⟨hc, hmem⟩) ?_, rfl⟩
      exact Token.longest?_eq_none_iff.1 hfound
    | some taken =>
      have hlongest := Token.longest?_eq_some_iff.1 hfound
      obtain ⟨rest, hrest⟩ := hlongest.fits
      exact ⟨.token taken, rest, .token (hrest ▸ hlongest), hrest.symm⟩

/-- Only one piece can be taken. -/
theorem Leads.unique (h : piece.Leads rest) (h' : piece'.Leads rest')
    (heq : piece.source ++ rest = piece'.source ++ rest') : piece = piece' ∧ rest = rest' := by
  cases h with
  | @bracketed t _ ht =>
    rw [source_bracketed_append] at heq
    cases h' with
    | @bracketed t' _ ht' =>
      rw [source_bracketed_append] at heq
      obtain ⟨-, heq⟩ := List.cons_eq_cons.1 heq
      have hlength : t.length = t'.length := by
        simpa [List.idxOf_append_of_notMem, ht, ht'] using congrArg (List.idxOf ']') heq
      obtain ⟨rfl, hrest⟩ := List.append_inj heq hlength
      exact ⟨rfl, (List.cons_eq_cons.1 hrest).2⟩
    | token hlongest' => exact absurd heq.symm token_name_ne
    | other hbracket' hnone' =>
      obtain ⟨hc, rfl⟩ := List.cons_eq_cons.1 heq
      exact absurd (List.mem_append_right _ List.mem_cons_self) (hbracket' hc.symm)
  | token hlongest =>
    cases h' with
    | bracketed ht' =>
      rw [source_bracketed_append] at heq
      exact absurd heq token_name_ne
    | token hlongest' =>
      obtain rfl := hlongest.unique (show _ from heq.symm ▸ hlongest')
      exact ⟨rfl, List.append_cancel_left heq⟩
    | other hbracket' hnone' => exact absurd (heq ▸ hlongest.fits) (hnone' _)
  | other hbracket hnone =>
    cases h' with
    | bracketed ht' =>
      rw [source_bracketed_append] at heq
      obtain ⟨hc, rfl⟩ := List.cons_eq_cons.1 heq
      exact absurd (List.mem_append_right _ List.mem_cons_self) (hbracket hc)
    | token hlongest' => exact absurd (heq ▸ hlongest'.fits) (hnone _)
    | other hbracket' hnone' =>
      obtain ⟨rfl, rfl⟩ := List.cons_eq_cons.1 heq
      exact ⟨rfl, rfl⟩

end Piece

/-- A format is read as these pieces. -/
inductive Reads : List Char → List Piece → Prop where
  | nil : Reads [] []
  | cons {piece : Piece} {rest pieces} : piece.Leads rest → Reads rest pieces →
    Reads (piece.source ++ rest) (piece :: pieces)

/-- No `[` of a format stands behind its last `]`, and if it has no `]` it has no `[` either. -/
def ClosesBrackets (format : List Char) : Prop :=
  '[' ∉ format.reverse.takeWhile (· != ']')

instance (format : List Char) : Decidable (ClosesBrackets format) :=
  inferInstanceAs (Decidable (_ ∉ _))

namespace ClosesBrackets

variable {before rest : List Char}

theorem of_append (h : ClosesBrackets (before ++ rest)) : ClosesBrackets rest := by
  intro hmem
  refine h ?_
  rw [List.reverse_append, List.takeWhile_append]
  split
  · exact List.mem_append_left _ ((List.takeWhile_prefix _).subset hmem)
  · exact hmem

/-- Behind a bracket that opens there is one that closes. -/
theorem mem_of_cons (h : ClosesBrackets ('[' :: rest)) : ']' ∈ rest := by
  by_contra hnot
  have hall : ∀ c ∈ ('[' :: rest).reverse, (c != ']') = true := by
    simp only [List.mem_reverse, List.forall_mem_cons, bne_iff_ne]
    exact ⟨by decide, fun c hc hclose => hnot (hclose ▸ hc)⟩
  refine h ?_
  rw [List.takeWhile_eq_self_iff.2 hall]
  simp

end ClosesBrackets

namespace Reads

variable {format : List Char} {pieces pieces' : List Piece}

/-- Every format is read as pieces. -/
theorem exists_pieces (format : List Char) : ∃ pieces, Reads format pieces := by
  match format with
  | [] => exact ⟨[], nil⟩
  | c :: cs =>
    obtain ⟨piece, rest, hleads, hformat⟩ := Piece.exists_leads c cs
    have hlength : rest.length < (c :: cs).length := by
      rw [hformat, List.length_append]
      exact Nat.lt_add_of_pos_left (List.length_pos_of_ne_nil piece.source_ne_nil)
    obtain ⟨pieces, hpieces⟩ := exists_pieces rest
    exact ⟨piece :: pieces, hformat ▸ cons hleads hpieces⟩
termination_by format.length
decreasing_by exact hlength

/-- There is one way only to read a format. -/
theorem unique (h : Reads format pieces) (h' : Reads format pieces') : pieces = pieces' := by
  induction h generalizing pieces' with
  | nil =>
    generalize hformat : [] = format at h'
    cases h' with
    | nil => rfl
    | @cons piece _ _ _ _ =>
      exact absurd (List.append_eq_nil_iff.1 hformat.symm).1 piece.source_ne_nil
  | @cons piece rest _ hleads _ ih =>
    generalize hformat : piece.source ++ rest = format at h'
    cases h' with
    | nil => exact absurd (List.append_eq_nil_iff.1 hformat).1 piece.source_ne_nil
    | cons hleads' hrest' =>
      obtain ⟨rfl, rfl⟩ := hleads.unique hleads' hformat
      rw [ih hrest']

/-- A format in which the brackets are closed is read as before with brackets behind it. -/
theorem append_bracketed (h : Reads format pieces) (hcloses : ClosesBrackets format)
    {t rest : List Char} (ht : ']' ∉ t) (hrest : Reads rest pieces') :
    Reads (format ++ '[' :: (t ++ ']' :: rest)) (pieces ++ .bracketed t :: pieces') := by
  induction h with
  | nil =>
    rw [List.nil_append, ← Piece.source_bracketed_append]
    exact cons (.bracketed ht) hrest
  | @cons piece rest' pieces hleads _ ih =>
    rw [List.append_assoc]
    refine cons ?_ (ih hcloses.of_append)
    cases hleads with
    | bracketed ht' => exact .bracketed ht'
    | token hlongest =>
      refine .token ⟨List.prefix_append _ _, fun other hother => hlongest.length_le other ?_⟩
      rw [← List.append_assoc] at hother
      exact hother.of_append_bracket
    | other hbracket hnone =>
      have hc : _ ≠ '[' := fun hc => hbracket hc (hc ▸ hcloses).mem_of_cons
      exact .other (absurd · hc) fun token hfits => hnone token hfits.of_append_bracket

end Reads

/-! ## Writing pieces -/

namespace Moment

variable (m : Moment)

theorem formatChars_piece {piece : Piece} {rest : List Char} (h : piece.Leads rest) :
    m.formatChars (piece.source ++ rest) = piece.write m ++ m.formatChars rest := by
  cases h with
  | bracketed ht =>
    rw [Piece.source_bracketed_append]
    exact m.formatChars_bracket ht rest
  | token hlongest => exact m.formatChars_token (Token.longest?_eq_some_iff.2 hlongest)
  | @other c _ hbracket hnone =>
    show m.formatChars (c :: rest) = c :: m.formatChars rest
    rw [formatChars, if_neg fun h => hbracket h.1 h.2, Token.longest?_eq_none_iff.2 hnone]

/-- A format is written as its pieces are. -/
theorem formatChars_pieces {format : List Char} {pieces : List Piece} (h : Reads format pieces) :
    m.formatChars format = pieces.flatMap (Piece.write m) := by
  induction h with
  | nil => rw [formatChars, List.flatMap_nil]
  | cons hleads _ ih => rw [formatChars_piece m hleads, ih, List.flatMap_cons]

/-- Text in brackets stands for itself and keeps the formats before and behind it apart. Outside of
brackets the token that is taken is the longest of those that fit, at each step of the only way in
which a format is read. -/
theorem format_bracketed :
    (∀ f t g : String, ClosesBrackets f.toList → ']' ∉ t.toList →
      m.format (f ++ "[" ++ t ++ "]" ++ g) = m.format f ++ t ++ m.format g) ∧
    (∀ cs token, Token.longest? cs = some token ↔ token.IsLongest cs) ∧
    ∀ format : String, ∃ pieces, (∀ other, Reads format.toList other ↔ other = pieces) ∧
      m.format format = String.ofList (pieces.flatMap (Piece.write m)) := by
  refine ⟨fun f t g hf ht => ?_, fun cs token => Token.longest?_eq_some_iff, fun format => ?_⟩
  · obtain ⟨before, hbefore⟩ := Reads.exists_pieces f.toList
    obtain ⟨after, hafter⟩ := Reads.exists_pieces g.toList
    have hformat : (f ++ "[" ++ t ++ "]" ++ g).toList =
        f.toList ++ '[' :: (t.toList ++ ']' :: g.toList) := by
      simp [String.toList_append]
    apply String.toList_inj.1
    rw [Moment.format, hformat, m.formatChars_pieces (hbefore.append_bracketed hf ht hafter)]
    simp only [Moment.format, String.toList_append, String.toList_ofList,
      m.formatChars_pieces hbefore, m.formatChars_pieces hafter, List.flatMap_append,
      List.flatMap_cons, Piece.write, List.append_assoc]
  · obtain ⟨pieces, hpieces⟩ := Reads.exists_pieces format.toList
    refine ⟨pieces, fun other => ⟨fun h => h.unique hpieces, fun h => h ▸ hpieces⟩, ?_⟩
    exact congrArg String.ofList (m.formatChars_pieces hpieces)

/-- Neither the day of the week in front of the brackets nor the bracket behind them that is never
closed belongs to what stands between them. -/
theorem format_bracketed_open :
    let m : Moment := { day := { year := 2024, month := 3, day := 2 }, second := 54245, nano := 0 }
    m.format ("[on] dddd" ++ "[" ++ ", the Do [of" ++ "]" ++ " MMMM [h") =
      "on Saturday, the Do [of March [3" := by
  intro m
  have hfront : m.format "[on] dddd" = "on Saturday" := by cbv
  have hback : m.format " MMMM [h" = " March [3" := by cbv
  rw [m.format_bracketed.1 _ _ _ (by decide) (by decide), hfront, hback]
  rfl

end Moment

end BlogTheme.Date
