import BlogTheme.Command.Run
import Std.Time.DateTime.Timestamp

/-!
# The program

Loads what a command reads from the disk into a tree of folders, runs the command
on the tree, and prints and writes what comes out.
-/

namespace BlogTheme.Disk

open Folder (Place Tree)

/-- A name that no file has. -/
def noFile : String := "\x00"

/-- How deep folders are loaded. -/
def depthLimit : Nat := 64

/-- The place of a path without regard to links. -/
def placeOf (tree : Tree) (path : String) : Place :=
  (Folder.steps path).foldl
    (fun place step =>
      if step = "" ∨ step = "." then place else if step = ".." then place.tail else step :: place)
    (if Folder.isAbsolute path then [] else tree.here)

/-- The tree with the folders on the way that a path takes. -/
def withWay (tree : Tree) (path : String) : Tree :=
  ((Folder.steps path).dropLast.foldl
    (fun (tree, way) step =>
      let way := way ++ step ++ "/"
      (tree.withFolders (placeOf tree way), way))
    (tree, "")).1

/-- Whether there is a folder at a path. -/
def isFolder (path : String) : IO Bool := do
  match ← (do return (← (← IO.FS.realPath path).metadata).type : IO IO.FS.FileType).toBaseIO with
  | .ok .dir => return true
  | _ => return false

/-- The path of the folder around a path. -/
def around (path : String) : String :=
  let way := "/".intercalate (Folder.steps path).dropLast
  if way.isEmpty then if Folder.isAbsolute path then "/" else "." else way

/-- Adds the file at a path to a tree, or the folders on the way to it if there is no
file but could be one. -/
def addFile (tree : Tree) (path : String) : IO Tree := do
  match ← (IO.FS.readBinFile path).toBaseIO with
  | .ok bytes => return (withWay tree path).put (placeOf tree path) (.file bytes)
  | .error _ =>
    if ← isFolder path then return tree.withFolders (placeOf tree path)
    else if ← isFolder (around path) then return withWay tree path
    else return tree

/-- Adds the folder at a path, which is reached over the folders `above`, to a
tree. -/
def addFolder (depth : Nat) (above : List (String × Place)) (tree : Tree) (place : Place)
    (path : String) : IO Tree := do
  match depth with
  | 0 => return tree
  | depth + 1 =>
    let real ← IO.FS.realPath path
    if let some place' := above.lookup real.toString then
      return tree.put place (.link ("/" ++ "/".intercalate place'.reverse))
    let mut tree := tree.withFolders place
    for entry in ← real.readDir do
      let place' := entry.fileName :: place
      let path' := Folder.join path entry.fileName
      if ← isFolder path' then
        tree ← addFolder depth ((real.toString, place) :: above) tree place' path'
      else
        match ← (IO.FS.readBinFile path').toBaseIO with
        | .ok bytes => tree := tree.put place' (.file bytes)
        | .error _ => tree := tree.put place' (.link noFile)
    return tree

/-- The part of the disk that a command needs. -/
def treeFor (command : Command) : IO Tree := do
  let here ← IO.currentDir
  let here := ((Folder.steps here.toString).filter (· != "")).reverse
  let mut tree := ({ here } : Tree).withFolders here
  for path in command.files do
    tree ← addFile tree path
  match command.site tree with
  | .error _ => return tree
  | .ok site =>
    let folder := site.settings.themeDir
    if ← isFolder folder then
      addFolder depthLimit [] (withWay tree folder) (placeOf tree folder) folder
    else return tree

/-- The tree that a run with these arguments needs. -/
def treeForArguments (args : List String) : IO Tree := do
  match Command.parse args with
  | .ok command => treeFor command
  | .error _ => return {}

/-- The time at which a request comes that does not say when. -/
def now : IO Date.Moment := do
  let stamp ← Std.Time.Timestamp.now
  let nanos := stamp.toNanosecondsSinceUnixEpoch.val
  return .ofOffset { year := 1970, month := 1, day := 1 } (nanos / 1000000000)
    (nanos % 1000000000).toNat

end BlogTheme.Disk

open BlogTheme in
/-- Runs the program. -/
def main (args : List String) : IO UInt32 := do
  let tree ← Disk.treeForArguments args
  let outcome := Command.run args (← Disk.now) tree
  IO.print outcome.printed
  IO.eprint outcome.complaint
  if let some (path, text) := outcome.written then IO.FS.writeFile path text
  return UInt32.ofNat outcome.status
