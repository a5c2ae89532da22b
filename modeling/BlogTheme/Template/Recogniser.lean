import BlogTheme.Template.Rule

/-!
# Recognisers

A recogniser reads a piece of text in front of a cursor, or refuses. Choices
are ordered and final: the second alternative is tried only if the first
refuses, and never again later. Beside what it reads, a recogniser keeps note of
the rules that it tries in vain.
-/

namespace BlogTheme.Template

/-- A way of reading a piece of text. -/
structure Recogniser (α : Type) where
  /-- What is read, and the cursor after it. -/
  read : Cursor → Option (α × Cursor)
  /-- The attempts noted on the way. -/
  note : Cursor → Attempts → Attempts

namespace Recogniser

/-- A piece of text that notes nothing on the way. -/
def plain (read : Cursor → Option (α × Cursor)) : Recogniser α where
  read := read
  note _ t := t

/-- The characters of `text`. -/
def literal (text : String) : Recogniser Unit :=
  plain fun c => (c.literal? text.toList).map ((), ·)

/-- Any number of characters that satisfy `p`. -/
def run (p : Char → Bool) : Recogniser (List Char) :=
  plain fun c => some (c.takeWhile p)

/-- At least one character that satisfies `p`. -/
def run1 (p : Char → Bool) : Recogniser (List Char) :=
  plain fun c => if (c.takeWhile p).1.isEmpty then none else some (c.takeWhile p)

/-- The position of the cursor, without reading anything. -/
def position : Recogniser Position :=
  plain fun c => some (c.position, c)

/-- What `p` reads, changed by `f`. -/
def map (f : α → β) (p : Recogniser α) : Recogniser β where
  read c := (p.read c).map fun (a, c) => (f a, c)
  note := p.note

/-- What `p` reads and then `q`. -/
def both (p : Recogniser α) (q : Recogniser β) : Recogniser (α × β) where
  read c := do
    let (a, c) ← p.read c
    let (b, c) ← q.read c
    return ((a, b), c)
  note c t :=
    match p.read c with
    | none => p.note c t
    | some (_, c') => q.note c' (p.note c t)

/-- What `p` reads, when `q` follows. -/
def before (p : Recogniser α) (q : Recogniser β) : Recogniser α :=
  (p.both q).map Prod.fst

/-- What `q` reads, when `p` comes before it. -/
def after (p : Recogniser α) (q : Recogniser β) : Recogniser β :=
  (p.both q).map Prod.snd

/-- What `p` reads, or else what `q` reads. -/
def orElse (p q : Recogniser α) : Recogniser α where
  read c := (p.read c).or (q.read c)
  note c t :=
    match p.read c with
    | none => q.note c (p.note c t)
    | some _ => p.note c t

/-- What `p` reads, when no character that satisfies `q` follows. -/
def notBefore (p : Recogniser α) (q : Char → Bool) : Recogniser α where
  read c := (p.read c).filter fun (_, c) => !c.rest.head?.any q
  note := p.note

/-- What `p` reads again and again, `fuel` times at most. -/
def collect (p : Recogniser α) : (fuel : Nat) → Cursor → List α × Cursor
  | 0, c => ([], c)
  | fuel + 1, c =>
    match p.read c with
    | none => ([], c)
    | some (a, c) =>
      let (as, c) := collect p fuel c
      (a :: as, c)

/-- The attempts noted while `p` reads again and again. -/
def collectNotes (p : Recogniser α) : (fuel : Nat) → Cursor → Attempts → Attempts
  | 0, _, t => t
  | fuel + 1, c, t =>
    match p.read c with
    | none => p.note c t
    | some (_, c') => collectNotes p fuel c' (p.note c t)

/-- What `p` reads again and again, until it refuses; `p` must read something
each time. -/
def many (p : Recogniser α) : Recogniser (List α) where
  read c := some (p.collect (c.rest.length + 1) c)
  note c t := p.collectNotes (c.rest.length + 1) c t

/-- `p` under the name of a rule that stands for the rules it is made of. -/
def named (rule : Rule) (p : Recogniser α) : Recogniser α where
  read := p.read
  note c t :=
    match p.read c with
    | none => (p.note c t).fail rule c.position (t.countAt c.position)
    | some _ => p.note c t

end Recogniser

end BlogTheme.Template
