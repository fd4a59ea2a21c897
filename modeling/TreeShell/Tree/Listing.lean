import TreeShell.Sorting
import TreeShell.Tree.Basic

namespace TreeShell

structure Listing where
  folders : List String
  files : List String

namespace Listing

def isEmpty (listing : Listing) : Bool := listing.folders.isEmpty && listing.files.isEmpty

def names (listing : Listing) : List String := listing.folders ++ listing.files

end Listing

inductive Entry.Kind
  | file
  | folder
  deriving DecidableEq, Repr

def Entry.Kind.label : Entry.Kind → String
  | .file => "file"
  | .folder => "folder"

structure Entry where
  name : String
  kind : Entry.Kind
  path : Path
  deriving DecidableEq, Repr

def Entry.ofPath (kind : Entry.Kind) (path : Path) : Entry := ⟨Path.baseName path, kind, path⟩

namespace Tree

def childDirectories (tree : Tree) (path : Path) : List Path :=
  tree.directories.filter (Path.isChild · path)

def childFiles (tree : Tree) (path : Path) : List Path :=
  tree.files.keys.filter (Path.isChild · path)

def children (tree : Tree) (path : Path) : Listing where
  folders := (tree.childDirectories path).map Path.baseName
  files := (tree.childFiles path).map Path.baseName

def browse (tree : Tree) (path : Path) : Except Fault (List Entry) :=
  if tree.hasDirectory path then
    .ok ((tree.childDirectories path).map (.ofPath .folder) ++
      (tree.childFiles path).map (.ofPath .file))
  else .error (.directoryNotFound path)

def directoriesBelow (tree : Tree) (path : Path) : List Path :=
  Sorting.sort (fun a b => Path.depth a ≤ Path.depth b)
    (tree.directories.filter (Path.isBelow · path))

def filesBelow (tree : Tree) (path : Path) : List Path :=
  tree.files.keys.filter (Path.isBelow · path)

end Tree

end TreeShell
