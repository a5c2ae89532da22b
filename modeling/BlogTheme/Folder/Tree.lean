import BlogTheme.Folder.Path

/-!
# Trees of folders

A tree says what stands at each place: a file with its bytes, a folder, or a link
to another path. `Tree.walk` follows a path through the tree, links included, and
says where it leads or why it leads nowhere.
-/

namespace BlogTheme.Folder

/-- The way from a place up to the top: its own name, then those of the folders
around it. -/
abbrev Place := List String

/-- What stands at a place. -/
inductive Item where
  | file (bytes : ByteArray)
  | folder
  | link (target : String)

/-- Why a path leads nowhere. -/
inductive Trouble where
  | missing
  | notFolder
  | isFolder
  | tooManyLinks
  deriving DecidableEq, Repr

/-- The trouble in words. -/
def Trouble.message : Trouble → String
  | missing => "No such file or directory (os error 2)"
  | notFolder => "Not a directory (os error 20)"
  | isFolder => "Is a directory (os error 21)"
  | tooManyLinks => "Too many levels of symbolic links (os error 40)"

/-- A tree of folders, and the folder in which the reader stands. -/
structure Tree where
  items : List (Place × Item) := []
  here : Place := []

namespace Tree

/-- What stands at a place; a folder at the top. -/
def item? (t : Tree) : Place → Option Item
  | [] => some .folder
  | place => t.items.lookup place

/-- Adds a folder at a place, and those around it, where nothing stands yet. -/
def withFolders (t : Tree) : Place → Tree
  | [] => t
  | name :: place =>
    match t.item? (name :: place) with
    | some _ => t
    | none =>
      let t := t.withFolders place
      { t with items := t.items ++ [(name :: place, .folder)] }

/-- Puts something at a place, in place of what stands there. -/
def put (t : Tree) (place : Place) (item : Item) : Tree :=
  let t := t.withFolders place.tail
  { t with items := t.items.filter (fun i => i.1 != place) ++ [(place, item)] }

/-- What stands in a folder, with its names. -/
def inside (t : Tree) (folder : Place) : List (String × Item) :=
  t.items.filterMap fun
    | (name :: place, item) => if place = folder then some (name, item) else none
    | ([], _) => none

/-- The most links that one path may lead through. -/
def linkLimit : Nat := 40

/-- The place that steps lead to, where a link may still be followed as often as
`links` says. Nothing needs to stand there, but the folder around it exists. -/
def walk (t : Tree) (links : Nat) (place : Place) (steps : List String) :
    Except Trouble Place :=
  match steps with
  | [] => .ok place
  | step :: steps =>
    if step = "" ∨ step = "." then t.walk links place steps
    else if step = ".." then t.walk links place.tail steps
    else match t.item? (step :: place) with
      | none => if steps.isEmpty then .ok (step :: place) else .error .missing
      | some .folder => t.walk links (step :: place) steps
      | some (.file _) => if steps.isEmpty then .ok (step :: place) else .error .notFolder
      | some (.link target) =>
        match links with
        | 0 => .error .tooManyLinks
        | links + 1 =>
          t.walk links (if isAbsolute target then [] else place) (Folder.steps target ++ steps)
termination_by (links, steps.length)

/-- The place that a path leads to. -/
def destination (t : Tree) (path : String) : Except Trouble Place :=
  if path.isEmpty then .error .missing
  else t.walk linkLimit (if isAbsolute path then [] else t.here) (steps path)

/-- The place of a walk's end, and what stands there. -/
def arrive (t : Tree) (walked : Except Trouble Place) : Except Trouble (Place × Item) := do
  let place ← walked
  match t.item? place with
  | some item => return (place, item)
  | none => throw .missing

/-- What stands where a path leads to. -/
def locate (t : Tree) (path : String) : Except Trouble (Place × Item) :=
  t.arrive (t.destination path)

/-- What stands behind a name of a folder, links followed. -/
def behind (t : Tree) (folder : Place) (name : String) : Except Trouble (Place × Item) :=
  t.arrive (t.walk linkLimit folder [name])

/-- Whether something stands where a path leads to. -/
def has (t : Tree) (path : String) : Bool :=
  match t.locate path with
  | .ok _ => true
  | .error _ => false

/-- The folder that a path leads to. -/
def folder? (t : Tree) (path : String) : Option Place :=
  match t.locate path with
  | .ok (place, .folder) => some place
  | _ => none

/-- The bytes of the file that a path leads to. -/
def read (t : Tree) (path : String) : Except Trouble ByteArray := do
  match ← t.locate path with
  | (_, .file bytes) => return bytes
  | _ => throw .isFolder

/-- The text of the file that a path leads to, if its bytes write one. -/
def readText? (t : Tree) (path : String) : Option String :=
  match t.read path with
  | .ok bytes => String.fromUTF8? bytes
  | .error _ => none

/-- Writes the file that a path leads to, which need not be there before. -/
def write (t : Tree) (path : String) (bytes : ByteArray) : Except Trouble Tree := do
  let place ← t.destination path
  match t.item? place with
  | some .folder => throw .isFolder
  | some _ => return t.put place (.file bytes)
  | none =>
    if path.toList.getLast? == some '/' then throw .isFolder
    else return t.put place (.file bytes)

end Tree

end BlogTheme.Folder
