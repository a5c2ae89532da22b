import BlogTheme.Proofs.Template.Nested
import BlogTheme.Proofs.Template.Parsed

/-!
# What segments say

Each segment but a comment stands for an item (`Placed.item?`), and so does each node; a block
stands for the items of its tags and of what is between them (`allItems`). A tag is refused for
the first of its numbers that does not fit in 64 bits, and otherwise gives the invocation that
its arguments spell (`Invocation.addArgs_eq`). So taking segments one after another collects
their items (`Nesting.step_ok`, `Nesting.steps_items`).
-/

namespace BlogTheme.Template

open Text (isDigit digitsValue readDigits? readInt? readInt64? minInt64 maxInt64)

/-- What a segment says. -/
inductive Item where
  | text (content : String)
  | expression (invocation : Invocation) (escaped : Bool)
  | opening (invocation : Invocation)
  | inverse
  | closing (name : String)
  deriving DecidableEq, Repr

/-! ## The items of a tree -/

mutual

/-- The items of a node in the order of the source. -/
def Node.items : Node → List Item
  | .text content => [.text content]
  | .expression i escaped => [.expression i escaped]
  | .block i body inverse =>
    .opening i :: (allItems body ++ (inverseItems inverse ++ [.closing i.name]))

/-- The items of an inverse, if there is one. -/
def inverseItems : Option (List Node) → List Item
  | none => []
  | some nodes => .inverse :: allItems nodes

/-- The items of nodes in the order of the source. -/
def allItems : List Node → List Item
  | [] => []
  | node :: nodes => node.items ++ allItems nodes

end

theorem allItems_append (nodes nodes' : List Node) :
    allItems (nodes ++ nodes') = allItems nodes ++ allItems nodes' := by
  induction nodes with
  | nil => rfl
  | cons node nodes ih => rw [List.cons_append, allItems, allItems, ih, List.append_assoc]

@[simp] theorem allItems_singleton (node : Node) : allItems [node] = node.items :=
  List.append_nil _

/-! ## Words -/

/-- The value that a word spells. A number that does not fit in 64 bits counts as 0. -/
def Word.value : Word → Argument
  | .string s => .string s
  | .number literal _ => .number (Int64.ofInt ((readInt64? literal.toList).getD 0))
  | .boolean b => .boolean b
  | .path p => .path p

/-- The fault of a number that does not fit in 64 bits, at its place. -/
def Word.excess? : Word → Option FaultAt
  | .number literal place =>
    if readInt64? literal.toList = none then some (place.fault (.numberRange literal)) else none
  | _ => none

/-- The number that digits spell, perhaps after a minus sign. -/
def numeralValue : List Char → Int
  | '-' :: ds => -(digitsValue ds : Int)
  | ds => digitsValue ds

/-- A numeral is read if its number fits in 64 bits. -/
theorem readInt64?_of_isNumeral {cs : List Char} (h : isNumeral cs) :
    readInt64? cs = if minInt64 ≤ numeralValue cs ∧ numeralValue cs ≤ maxInt64
      then some (numeralValue cs) else none := by
  have hread {ds : List Char} (hds : (!ds.isEmpty && ds.all isDigit) = true) :
      readDigits? ds = some (digitsValue ds) := by
    rw [readDigits?, if_pos hds]
  rw [readInt64?]
  unfold isNumeral at h
  split at h
  · simp [readInt?, hread h, numeralValue, Option.filter]
  · rename_i hminus
    have hplus (ds : List Char) : cs ≠ '+' :: ds := by
      rintro rfl
      cases h
    simp [readInt?, hread h, numeralValue, Option.filter]

/-- A numeral is in excess exactly if its number does not fit in 64 bits. -/
theorem Word.excess?_number {literal : String} {place : Position} (h : isNumeral literal.toList) :
    (Word.number literal place).excess? = none ↔
      minInt64 ≤ numeralValue literal.toList ∧ numeralValue literal.toList ≤ maxInt64 := by
  simp [excess?, readInt64?_of_isNumeral h]

theorem Word.argument_eq (w : Word) :
    w.argument = match w.excess? with
      | some f => .error f
      | none => .ok w.value := by
  cases w with
  | number literal place =>
    rw [argument, excess?, value]
    cases readInt64? literal.toList <;> rfl
  | _ => rfl

/-- The words of a tag in the order of the source. -/
def Segment.words : Segment → List Word
  | .expression _ args _ | .blockOpen _ args => args.map Arg.word
  | .inclusion name args => name :: args.map Arg.word
  | .layout arg => [arg.word]
  | _ => []

/-- The fault of the first number among some words that does not fit in 64 bits. -/
def firstExcess? (words : List Word) : Option FaultAt :=
  words.findSome? Word.excess?

/-! ## Arguments -/

/-- The values of the arguments with no key. -/
def positional (args : List Arg) : List Argument :=
  (args.filter fun arg => arg.key.isNone).map fun arg => arg.word.value

/-- The values of the arguments that have keys, with their keys. -/
def keyed (args : List Arg) : List (String × Argument) :=
  args.filterMap fun arg => arg.key.map fun key => (key, arg.word.value)

/-- Of the entries with one key only the last. -/
def lastOfEach : List (String × Argument) → List (String × Argument)
  | [] => []
  | entry :: entries =>
    if entries.any fun later => later.1 == entry.1 then lastOfEach entries
    else entry :: lastOfEach entries

theorem lastOfEach_concat (entries : List (String × Argument)) (last : String × Argument) :
    lastOfEach (entries ++ [last]) =
      (lastOfEach entries).filter (fun entry => entry.1 != last.1) ++ [last] := by
  induction entries with
  | nil => rfl
  | cons entry entries ih =>
    simp only [List.cons_append, lastOfEach, List.any_append, List.any_cons, List.any_nil,
      Bool.or_false, ih]
    by_cases hlater : entries.any fun later => later.1 == entry.1
    · simp [hlater]
    · by_cases hkey : last.1 = entry.1
      · simp [hkey, hlater]
      · simp [hkey, hlater, Ne.symm hkey]

/-- An invocation as a tag spells it: its positional arguments follow `first`, and of the
arguments with one key it has the last. -/
def Placed.invocation (p : Placed) (name : String) (first : List Argument) (args : List Arg) :
    Invocation :=
  { name, params := first ++ positional args, hash := lastOfEach (keyed args), span := p.span }

namespace Invocation

theorem addArg_eq (i : Invocation) (arg : Arg) :
    i.addArg arg = match arg.word.excess? with
      | some f => .error f
      | none => .ok (match arg.key with
        | some key => i.addHash key arg.word.value
        | none => i.addParam arg.word.value) := by
  rw [addArg, Word.argument_eq]
  cases arg.word.excess? with
  | some f => rfl
  | none => cases arg.key <;> rfl

/-- Adding the arguments of a tag fails for the first number that does not fit in 64 bits.
Otherwise the positional ones are added, and of those with one key the last is kept. -/
theorem addArgs_eq {i : Invocation} {entries : List (String × Argument)}
    (hi : i.hash = lastOfEach entries) (args : List Arg) :
    i.addArgs args = match firstExcess? (args.map Arg.word) with
      | some f => .error f
      | none => .ok { i with
          params := i.params ++ positional args
          hash := lastOfEach (entries ++ keyed args) } := by
  induction args generalizing i entries with
  | nil => simp [addArgs, firstExcess?, positional, keyed, ← hi]
  | cons arg args ih =>
    obtain ⟨key, word⟩ := arg
    rw [addArgs, addArg_eq]
    simp only [firstExcess?, List.map_cons, List.findSome?_cons]
    cases word.excess? with
    | some f => rfl
    | none =>
      cases key with
      | none =>
        refine (ih (i := i.addParam word.value) hi).trans ?_
        simp [positional, keyed, firstExcess?, addParam]
      | some key =>
        have hhash : (i.addHash key word.value).hash =
            lastOfEach (entries ++ [(key, word.value)]) := by
          rw [lastOfEach_concat, ← hi]
          rfl
        refine (ih hhash).trans ?_
        simp [positional, keyed, firstExcess?, addHash]

end Invocation

/-- The invocation of a tag is used for what follows if its numbers fit in 64 bits. -/
theorem Placed.addArgs_bind (p : Placed) (name : String) (first : List Argument) (args : List Arg)
    (next : Invocation → Except FaultAt β) :
    (Invocation.addArgs { p.bare name with params := first } args >>= next) =
      match firstExcess? (args.map Arg.word) with
      | some f => .error f
      | none => next (p.invocation name first args) := by
  have hempty : { p.bare name with params := first }.hash = lastOfEach [] := rfl
  rw [Invocation.addArgs_eq hempty]
  cases firstExcess? (args.map Arg.word) <;> rfl

/-! ## The item of a segment -/

/-- Whether a segment neither opens nor closes a block nor begins an inverse. -/
def Segment.isLeaf : Segment → Bool
  | .blockOpen .. | .inverse | .blockClose _ => false
  | _ => true

/-- What a segment says, if it is not a comment. -/
def Placed.item? (p : Placed) : Option Item :=
  match p.segment with
  | .comment => none
  | .text content => some (.text content)
  | .expression name args escaped => some (.expression (p.invocation name [] args) escaped)
  | .inclusion name args =>
    some (.expression (p.invocation includeName [.string name.value.literalText] args) true)
  | .layout arg => some (.expression (p.invocation extendsName [] [arg]) true)
  | .blockOpen name args => some (.opening (p.invocation name [] args))
  | .inverse => some .inverse
  | .blockClose name => some (.closing name)

namespace Nesting

/-- What taking a segment does to what was read before. -/
inductive Takes (p : Placed) : Nesting → Nesting → Prop where
  | comment {s} : p.segment = .comment → Takes p s s
  | leaf {s} (node : Node) : p.segment.isLeaf → p.item?.toList = node.items →
    Takes p s (s.add node)
  | opening {s name args} : p.segment = .blockOpen name args →
    Takes p s { s with opened :=
      { invocation := p.invocation name [] args, body := [], inverse := none } :: s.opened }
  | inverse {s b outer} : p.segment = .inverse → s.opened = b :: outer → b.inverse = none →
    Takes p s { s with opened := { b with inverse := some [] } :: outer }
  | closing {s b outer} : p.segment = .blockClose b.invocation.name → s.opened = b :: outer →
    Takes p s (add { s with opened := outer } b.close)

/-- The tag of an expression adds it, if its numbers fit in 64 bits. -/
theorem step_expression {p : Placed} {i : Invocation} {escaped : Bool}
    (h : p.item? = some (.expression i escaped)) (s : Nesting) :
    s.step p = match firstExcess? p.segment.words with
      | some f => .error f
      | none => .ok (s.add (.expression i escaped)) := by
  unfold Placed.item? at h
  unfold step
  split at h <;> cases h
  · rename_i name args hsegment
    rw [hsegment]
    exact p.addArgs_bind name [] args fun i => .ok (s.add (.expression i escaped))
  · rename_i word args hsegment
    rw [hsegment]
    simp only [Segment.words, firstExcess?, List.findSome?_cons, Word.argument_eq]
    cases word.excess? with
    | some f => rfl
    | none => exact p.addArgs_bind _ _ args fun i => .ok (s.add (.expression i true))
  · rename_i arg hsegment
    rw [hsegment]
    simp only [← Invocation.addArgs_singleton]
    exact p.addArgs_bind extendsName [] [arg] fun i => .ok (s.add (.expression i true))

/-- The tag of a block opens it, if its numbers fit in 64 bits. -/
theorem step_opening {p : Placed} {i : Invocation} (h : p.item? = some (.opening i))
    (s : Nesting) :
    s.step p = match firstExcess? p.segment.words with
      | some f => .error f
      | none => .ok { s with opened :=
          { invocation := i, body := [], inverse := none } :: s.opened } := by
  unfold Placed.item? at h
  unfold step
  split at h <;> cases h
  rename_i name args hsegment
  rw [hsegment]
  exact p.addArgs_bind name [] args fun i =>
    .ok { s with opened := { invocation := i, body := [], inverse := none } :: s.opened }

/-- A segment that is taken has only numbers that fit in 64 bits. -/
theorem step_ok {s s' : Nesting} {p : Placed} (h : s.step p = .ok s') :
    firstExcess? p.segment.words = none ∧ Takes p s s' := by
  cases hsegment : p.segment with
  | comment =>
    rw [step, hsegment] at h
    cases h
    exact ⟨rfl, .comment hsegment⟩
  | text content =>
    rw [step, hsegment] at h
    cases h
    have hitem : p.item?.toList = (Node.text content).items := by
      rw [Placed.item?, hsegment]
      rfl
    exact ⟨rfl, .leaf _ (hsegment ▸ rfl) hitem⟩
  | expression | inclusion | layout =>
    obtain ⟨i, escaped, hitem⟩ : ∃ i escaped, p.item? = some (.expression i escaped) :=
      ⟨_, _, by rw [Placed.item?, hsegment]⟩
    rw [step_expression hitem, hsegment] at h
    split at h
    · cases h
    · rename_i hwords
      cases h
      exact ⟨hwords, .leaf _ (hsegment ▸ rfl) (hitem ▸ rfl)⟩
  | blockOpen name args =>
    have hitem : p.item? = some (.opening (p.invocation name [] args)) := by
      rw [Placed.item?, hsegment]
    rw [step_opening hitem, hsegment] at h
    split at h
    · cases h
    · rename_i hwords
      cases h
      exact ⟨hwords, .opening hsegment⟩
  | inverse =>
    refine ⟨rfl, ?_⟩
    simp only [step, hsegment] at h
    split at h
    · cases h
    · rename_i b outer hopened
      split at h
      · cases h
      · rename_i hinverse
        cases h
        exact .inverse hsegment hopened hinverse
  | blockClose name =>
    refine ⟨rfl, ?_⟩
    simp only [step, hsegment] at h
    split at h
    · cases h
    · rename_i b outer hopened
      split at h
      · rename_i hname
        cases h
        exact .closing (hname ▸ hsegment) hopened
      · cases h

/-! ## The items that were read -/

end Nesting

/-- The items of a block that is still open. -/
def OpenBlock.items (b : OpenBlock) : List Item :=
  .opening b.invocation :: (allItems b.body.reverse ++ inverseItems (b.inverse.map List.reverse))

theorem OpenBlock.items_add (b : OpenBlock) (node : Node) :
    (b.add node).items = b.items ++ node.items := by
  cases hinverse : b.inverse with
  | none => simp [add, items, hinverse, allItems_append, inverseItems]
  | some inverse => simp [add, items, hinverse, allItems_append, inverseItems]

theorem OpenBlock.items_close (b : OpenBlock) :
    b.close.items = b.items ++ [.closing b.invocation.name] := by
  simp [close, items, Node.items]

namespace Nesting

/-- The items that were read, outside of all blocks and in those that are open. -/
def items (s : Nesting) : List Item :=
  allItems s.root.reverse ++ s.opened.reverse.flatMap OpenBlock.items

theorem items_add (s : Nesting) (node : Node) : (s.add node).items = s.items ++ node.items := by
  cases hopened : s.opened with
  | nil => simp [add, items, hopened, allItems_append]
  | cons b outer => simp [add, items, hopened, OpenBlock.items_add]

/-- Taking a segment adds its item to those that were read. -/
theorem Takes.items_eq {s s' : Nesting} {p : Placed} (h : Takes p s s') :
    s'.items = s.items ++ p.item?.toList := by
  cases h with
  | comment hsegment => simp [Placed.item?, hsegment]
  | leaf node _ hitem => rw [items_add, hitem]
  | opening hsegment =>
    simp [Placed.item?, hsegment, items, OpenBlock.items, allItems, inverseItems]
  | inverse hsegment hopened hinverse =>
    simp [Placed.item?, hsegment, items, hopened, OpenBlock.items, allItems, inverseItems, hinverse]
  | closing hsegment hopened =>
    rw [items_add, OpenBlock.items_close]
    simp [Placed.item?, hsegment, items, hopened]

/-- Taking segments adds their items to those that were read. -/
theorem steps_items {s s' : Nesting} {ps : List Placed} (h : s.steps ps = .ok s') :
    s'.items = s.items ++ ps.filterMap Placed.item? := by
  induction ps generalizing s with
  | nil =>
    cases h
    simp
  | cons p ps ih =>
    obtain ⟨s₁, hstep, hsteps⟩ := ok_of_bind h
    rw [ih hsteps, (step_ok hstep).2.items_eq, List.append_assoc]
    cases hitem : p.item? <;> simp [hitem]

end Nesting

/-- The tree of a sequence of segments says what they say, in their order. -/
theorem allItems_nest {ps : List Placed} {nodes : List Node} (h : nest ps = .ok nodes) :
    allItems nodes = ps.filterMap Placed.item? := by
  obtain ⟨s, hsteps, hfinish⟩ := ok_of_bind h
  obtain ⟨hopened, rfl⟩ := Nesting.finish_cases hfinish
  have hitems := Nesting.steps_items hsteps
  rw [Nesting.items, hopened] at hitems
  simpa [Nesting.empty, Nesting.items, allItems] using hitems

end BlogTheme.Template
