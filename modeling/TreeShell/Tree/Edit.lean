import TreeShell.Tree.Listing

namespace TreeShell.Tree

/-- Adds a directory at the end. The directories above it are not looked at. -/
def createDirectory (tree : Tree) (path : Path) : Bool × Tree :=
  if tree.hasDirectory path || tree.hasFile path then (false, tree)
  else (true, { tree with directories := tree.directories ++ [path] })

def writeFile (tree : Tree) (path : Path) (content : String) : Bool × Tree :=
  if path = "" ∨ path.toList.getLast? = some '/' ∨ tree.hasDirectory path then (false, tree)
  else if !tree.hasDirectory (Path.parent path) then (false, tree)
  else (true, { tree with files := tree.files.insert path content })

def createFile (tree : Tree) (path : Path) (content : String) : Bool × Tree :=
  if tree.hasFile path then (false, tree) else tree.writeFile path content

def removeFile (tree : Tree) (path : Path) : Bool × Tree :=
  if tree.hasFile path then (true, { tree with files := tree.files.erase path }) else (false, tree)

def pruned (tree : Tree) (path : Path) : Tree where
  directories := tree.directories.filter fun directory =>
    !(tree.directoriesBelow path).contains directory && directory ≠ path
  files := (tree.filesBelow path).foldl .erase tree.files

/-- Removes a directory other than the root; one that is not empty only when `recursive` is set. -/
def removeDirectory (tree : Tree) (path : Path) (recursive : Bool) : Bool × Tree :=
  if path = "" ∨ !tree.hasDirectory path then (false, tree)
  else if recursive || ((tree.filesBelow path).isEmpty && (tree.directoriesBelow path).isEmpty) then
    (true, tree.pruned path)
  else (false, tree)

end TreeShell.Tree
