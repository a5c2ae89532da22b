import BlogTheme.Json.Decode
import BlogTheme.Text.Decimal
import BlogTheme.Text.Radix

/-!
# Reading the text of JSON documents

`Json.read` reads as much of a text as is JSON. `Json.decode` reads a document
and decodes it; what follows the document must be blank.
-/

namespace BlogTheme.Json

open BlogTheme.Text

/-- A text without the blanks of JSON that it starts with. -/
def skipBlanks (cs : List Char) : List Char :=
  cs.dropWhile fun c => c == ' ' || c == '\n' || c == '\t' || c == '\r'

/-- Reads the four hexadecimal digits of an escape. -/
def hex4 : List Char → Except Fault (Nat × List Char)
  | a :: b :: c :: d :: cs =>
    match readIn? 16 [a, b, c, d] with
    | some n => .ok (n, cs)
    | none => .error .malformed
  | cs => .error (if (String.ofList cs).utf8ByteSize < 4 then .ended else .malformed)

/-- The character of a one-letter escape. -/
def escaped? (c : Char) : Option Char :=
  match c with
  | '"' => some '"'
  | '\\' => some '\\'
  | '/' => some '/'
  | 'b' => some '\x08'
  | 'f' => some '\x0c'
  | 'n' => some '\n'
  | 'r' => some '\r'
  | 't' => some '\t'
  | _ => none

/-- Reads one escape, after its backslash: the characters that it stands for,
`none` for half of a surrogate pair. -/
def escape (cs : List Char) : Except Fault (Option Char × List Char) :=
  match cs with
  | [] => .error .ended
  | 'u' :: cs => do
    let (n, cs) ← hex4 cs
    if n < 0xD800 ∨ 0xE000 ≤ n then return (some (Char.ofNat n), cs)
    else if 0xDC00 ≤ n then return (none, cs)
    else match cs with
      | [] => throw .ended
      | ['\\'] => throw .ended
      | '\\' :: 'u' :: rest =>
        let (low, rest) ← hex4 rest
        if 0xDC00 ≤ low ∧ low < 0xE000 then
          return (some (Char.ofNat (0x10000 + (n - 0xD800) * 0x400 + (low - 0xDC00))), rest)
        else return (none, cs)
      | _ => return (none, cs)
  | c :: cs =>
    match escaped? c with
    | some c => .ok (some c, cs)
    | none => .error .malformed

/-- Reads a string after its opening quote. `seen` holds its characters so far,
latest first; `whole` says that no half of a surrogate pair was among them. -/
def stringFrom : (fuel : Nat) → (seen : List Char) → (whole : Bool) → List Char →
    Except Break (Option String × List Char)
  | 0, _, _, _ => .error { piece := .string, read := .ended, skip := .ended }
  | fuel + 1, seen, whole, cs =>
    let fail (fault : Fault) : Except Break (Option String × List Char) :=
      .error { piece := .string, read := if whole then fault else .malformed, skip := fault }
    match cs with
    | [] => fail .ended
    | '"' :: cs => .ok (if whole then some (String.ofList seen.reverse) else none, cs)
    | '\\' :: cs =>
      match escape cs with
      | .ok (some c, cs) => stringFrom fuel (c :: seen) whole cs
      | .ok (none, cs) => stringFrom fuel seen false cs
      | .error fault => fail fault
    | c :: cs => if c.toNat < 0x20 then fail .malformed else stringFrom fuel (c :: seen) whole cs

/-- A number that breaks off: at the end of the text a reader that needs the
number misses its rest, one that passes over it finds it malformed. -/
def numberBreak (rest : List Char) : Break :=
  { piece := .number, read := if rest.isEmpty then .ended else .malformed, skip := .malformed }

/-- Reads the exponent of a number, after its letter. -/
def exponent (cs : List Char) : Except Break (Int × List Char) :=
  let negative := cs.head? == some '-'
  let cs := match cs with
    | '+' :: cs => cs
    | '-' :: cs => cs
    | cs => cs
  let ds := cs.takeWhile isDigit
  let rest := cs.dropWhile isDigit
  if ds.isEmpty then .error (numberBreak rest)
  else .ok (if negative then -(digitsValue ds : Int) else digitsValue ds, rest)

/-- Reads a number without its sign. -/
def magnitude (negative : Bool) (cs : List Char) : Except Break (Number × List Char) := do
  let whole := cs.takeWhile isDigit
  let rest := cs.dropWhile isDigit
  if whole.isEmpty then throw (numberBreak rest)
  if whole.head? = some '0' ∧ whole.length ≠ 1 then
    throw { piece := .number, read := .malformed, skip := .malformed }
  let sign (n : Nat) : Int := if negative then -(n : Int) else n
  let (places, rest, point) ← match rest with
    | '.' :: rest =>
      let ds := rest.takeWhile isDigit
      let rest := rest.dropWhile isDigit
      if ds.isEmpty then throw (numberBreak rest) else pure (ds, rest, true)
    | rest => pure ([], rest, false)
  let scale : Int := -(places.length : Int)
  let mantissa := digitsValue (whole ++ places)
  match rest with
  | 'e' :: rest => do
    let (e, rest) ← exponent rest
    return (.real (sign mantissa) (e + scale), rest)
  | 'E' :: rest => do
    let (e, rest) ← exponent rest
    return (.real (sign mantissa) (e + scale), rest)
  | rest =>
    if point then return (.real (sign mantissa) scale, rest)
    else if negative ∧ mantissa = 0 then return (.real 0 0, rest)
    else return (.integer (sign mantissa), rest)

/-- An object that ends after a comma. -/
def commaBreak : Break :=
  { piece := .comma, read := .ended, skip := .ended }

/-- Reads the rest of a word. -/
def wordRest : (letters : List Char) → List Char → Except Break (List Char)
  | [], cs => .ok cs
  | _ :: _, [] => .error { piece := .word, read := .ended, skip := .ended }
  | l :: letters, c :: cs =>
    if l = c then wordRest letters cs
    else .error { piece := .word, read := .malformed, skip := .malformed }

/-- A document with the text after it, `none` where the text breaks off. -/
abbrev Partial (α : Type) := α × Option (List Char)

/-- What reading a scalar gives as a document. -/
def scalar (make : α → Json) : Except Break (α × List Char) → Partial Json
  | .ok (a, cs) => (make a, some cs)
  | .error b => (.broken b, none)

mutual

/-- Reads a value. -/
def value : (fuel : Nat) → List Char → Partial Json
  | 0, _ => (.broken (.at .ended), none)
  | fuel + 1, cs =>
    match skipBlanks cs with
    | [] => (.broken (.at .ended), none)
    | '"' :: cs => scalar .string (stringFrom (cs.length + 1) [] true cs)
    | '[' :: cs =>
      match skipBlanks cs with
      | [] => (.array [] (some (.at .ended)), none)
      | ']' :: cs => (.array [] none, some cs)
      | cs =>
        let ((items, cut), rest) := arrayItems fuel cs
        (.array items cut, rest)
    | '\x7b' :: cs =>
      match skipBlanks cs with
      | [] => (.object [] (some (.at .ended)), none)
      | '\x7d' :: cs => (.object [] none, some cs)
      | cs =>
        let ((members, cut), rest) := objectMembers fuel cs
        (.object members cut, rest)
    | 'n' :: cs => scalar (fun _ => .null) ((wordRest ['u', 'l', 'l'] cs).map ((), ·))
    | 't' :: cs => scalar (fun _ => .bool true) ((wordRest ['r', 'u', 'e'] cs).map ((), ·))
    | 'f' :: cs => scalar (fun _ => .bool false) ((wordRest ['a', 'l', 's', 'e'] cs).map ((), ·))
    | '-' :: cs => scalar .number (magnitude true cs)
    | c :: cs =>
      if isDigit c then scalar .number (magnitude false (c :: cs))
      else (.broken (.at .malformed), none)

/-- Reads the items of an array up to its closing bracket. -/
def arrayItems : (fuel : Nat) → List Char → Partial (List Json × Option Break)
  | 0, _ => (([], some (.at .ended)), none)
  | fuel + 1, cs =>
    match value fuel cs with
    | (item, none) => (([item], none), none)
    | (item, some cs) =>
      match skipBlanks cs with
      | ']' :: cs => (([item], none), some cs)
      | ',' :: cs =>
        match skipBlanks cs with
        | [] => (([item, .broken (.at .ended)], none), none)
        | ']' :: _ => (([item, .broken (.at .malformed)], none), none)
        | cs =>
          let ((items, cut), rest) := arrayItems fuel cs
          ((item :: items, cut), rest)
      | [] => (([item], some (.at .ended)), none)
      | _ => (([item], some (.at .malformed)), none)

/-- Reads the members of an object up to its closing brace. -/
def objectMembers : (fuel : Nat) → List Char →
    Partial (List (Option String × Json) × Option Break)
  | 0, _ => (([], some (.at .ended)), none)
  | fuel + 1, cs =>
    match cs with
    | '"' :: cs =>
      match stringFrom (cs.length + 1) [] true cs with
      | .error b => (([], some b), none)
      | .ok (key, cs) =>
        match skipBlanks cs with
        | ':' :: cs =>
          match value fuel cs with
          | (v, none) => (([(key, v)], none), none)
          | (v, some cs) =>
            match skipBlanks cs with
            | '\x7d' :: cs => (([(key, v)], none), some cs)
            | ',' :: cs =>
              match skipBlanks cs with
              | [] => (([(key, v)], some commaBreak), none)
              | cs =>
                let ((members, cut), rest) := objectMembers fuel cs
                (((key, v) :: members, cut), rest)
            | [] => (([(key, v)], some (.at .ended)), none)
            | _ => (([(key, v)], some (.at .malformed)), none)
        | [] => (([(key, .broken (.at .ended))], none), none)
        | _ => (([(key, .broken (.at .malformed))], none), none)
    | [] => (([], some (.at .ended)), none)
    | _ => (([], some (.at .malformed)), none)

end

/-- Reads a document from the start of a text. -/
def read (text : String) : Partial Json :=
  let cs := text.toList
  value (cs.length + 1) cs

/-- Reads a document that is the whole of a text, blanks around it apart. -/
def decode (decoder : Decoder α) (text : String) : Except Refusal α :=
  match read text with
  | (j, none) => do
    let _ ← decoder j
    throw .malformed
  | (j, some rest) => do
    let a ← decoder j
    if skipBlanks rest = [] then return a else throw .malformed

end BlogTheme.Json
