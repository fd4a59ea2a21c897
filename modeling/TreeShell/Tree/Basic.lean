import TreeShell.OrderedMap
import TreeShell.Path

namespace TreeShell

structure Tree where
  directories : List Path
  files : OrderedMap Path String

namespace Tree

instance : DecidableEq Tree := fun a b =>
  decidable_of_iff (a.directories = b.directories ∧ a.files = b.files) (by cases a; cases b; simp)

def root : Tree := ⟨[""], .empty⟩

instance : Inhabited Tree := ⟨root⟩

def hasDirectory (tree : Tree) (path : Path) : Bool := tree.directories.contains path

def hasFile (tree : Tree) (path : Path) : Bool := tree.files.contains path

def has (tree : Tree) (path : Path) : Bool := tree.hasFile path || tree.hasDirectory path

def content? (tree : Tree) (path : Path) : Option String := tree.files.get? path

def read (tree : Tree) (path : Path) : Except Fault String :=
  match tree.content? path with
  | some content => .ok content
  | none => .error (.fileNotFound path)

def lookUp (tree : Tree) (path : Path) : Except Fault String :=
  match tree.content? path with
  | some content => .ok content
  | none => .error (.noSuchKey path)

def distinct : List Path → Bool
  | [] => true
  | path :: rest => !rest.contains path && distinct rest

def fileIssues (tree : Tree) (path : Path) : List Issue :=
  let parent := Path.parent path
  (if tree.hasDirectory path then [.bothKinds path] else []) ++
  (if parent ≠ "" ∧ !tree.hasDirectory parent then [.orphanFile path parent] else [])

def issues (tree : Tree) : List Issue :=
  (if tree.hasDirectory "" then [] else [.rootMissing]) ++
  (if distinct tree.directories then [] else [.duplicateDirectory]) ++
  tree.files.keys.flatMap tree.fileIssues ++
  (tree.directories.filter fun path => path ≠ "" && !Path.isCanonical path).map
    .directoryNotCanonical ++
  (tree.files.keys.filter fun path => !Path.isCanonical path).map .fileNotCanonical

def withRoot (directories : List Path) : List Path :=
  directories.foldl (fun kept path => if kept.contains path then kept else kept ++ [path]) [""]

/-- The tree with the given directories and files, if nothing is wrong with it. -/
def build (directories : List Path) (files : OrderedMap Path String) : Except (List Issue) Tree :=
  let tree : Tree := ⟨withRoot directories, files⟩
  if tree.issues = [] then .ok tree else .error tree.issues

def directoryCount (tree : Tree) : Nat := tree.directories.length

def fileCount (tree : Tree) : Nat := tree.files.size

def summary (tree : Tree) : String :=
  let folders : Int := tree.directoryCount - 1
  s!"{folders} directories, {tree.fileCount} files"

structure Snapshot where
  directories : List Path
  files : List (Path × String)
  directoryCount : Nat
  fileCount : Nat
  deriving DecidableEq, Repr

def snapshot (tree : Tree) : Snapshot where
  directories := tree.directories
  files := tree.files.entries
  directoryCount := tree.directoryCount
  fileCount := tree.fileCount

end Tree

end TreeShell
