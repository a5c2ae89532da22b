import BlogTheme.Engine.Resolver
import BlogTheme.Folder.Tree

/-!
# Themes in folders

The templates of a theme are the files of a folder and the folders inside it.
A template is named by its path from there. Links are followed, but not back to a
folder in which they lie; what is hidden is passed over.
-/

namespace BlogTheme.Folder

namespace Tree

/-- The names of the templates in the folder at `place`, which was reached over the
folders at `around` and has the path `path`; `way` leads to it from the theme's
folder. Folders nested deeper than `depth` are passed over. -/
def namesIn (t : Tree) (depth : Nat) (path : String) (way : List String) (around : List Place)
    (place : Place) : Except ThemeError (List String) :=
  match depth with
  | 0 => .ok []
  | depth + 1 => do
    let enter (name : String) (place' : Place) : Except ThemeError (List String) :=
      if isHidden name then .ok []
      else t.namesIn depth (join path name) (name :: way) (place :: around) place'
    let take (name : String) : List String :=
      if isTemplateFile name && !isHidden name then
        [Template.canonicalName ("/".intercalate (name :: way).reverse)]
      else []
    let found ← (t.inside place).mapM fun (name, item) =>
      match item with
      | .file _ => .ok (take name)
      | .folder => enter name (name :: place)
      | .link _ =>
        match t.behind place name with
        | .error trouble =>
          .error (.io ("IO error for operation on " ++ join path name ++ ": " ++ trouble.message))
        | .ok (place', .folder) =>
          if place' ∈ place :: around then .ok [] else enter name place'
        | .ok _ => .ok (take name)
    return found.flatten

/-- How deep a walk that enters no folder through two links can go. -/
def depthLimit (t : Tree) : Nat :=
  (t.items.length + 1) * (t.items.length + 1) + 1

/-- The names of the templates of the theme in a folder, in order. -/
def templateNames (t : Tree) (root : String) : Except ThemeError (List String) :=
  match t.folder? root with
  | none => .error (.resolution ("Theme directory not found: " ++ root))
  | some place => do
    let names ← t.namesIn t.depthLimit root [] [] place
    return names.mergeSort

/-- Finds the source of a template of the theme in a folder. -/
def resolve (t : Tree) (root name : String) : Except ThemeError Located :=
  let name := Template.canonicalName name
  let path := join root (name ++ String.ofList Template.fileEnding)
  match t.read path with
  | .error _ => .error (.templateNotFound name)
  | .ok bytes =>
    match String.fromUTF8? bytes with
    | some text => .ok { path, text }
    | none =>
      .error (.resolution ("Cannot read '" ++ path ++ "': stream did not contain valid UTF-8"))

/-- Finds the templates of the theme in a folder. -/
def resolver (t : Tree) (root : String) : Resolver where
  list := t.templateNames root
  resolve := t.resolve root

end Tree

end BlogTheme.Folder
