import TreeShell.Proofs.OrderedMap
import TreeShell.Tree.Edit

namespace TreeShell

inductive Node
  | directory
  | file (content : String)
  deriving DecidableEq, Repr

namespace Tree

def node? (tree : Tree) (path : Path) : Option Node :=
  if tree.hasDirectory path then some .directory else (tree.content? path).map .file

theorem hasDirectory_iff {tree : Tree} {path : Path} :
    tree.hasDirectory path ↔ path ∈ tree.directories := List.contains_iff_mem

theorem hasFile_iff {tree : Tree} {path : Path} : tree.hasFile path ↔ path ∈ tree.files.keys :=
  tree.files.contains_iff path

theorem hasFile_iff_content? {tree : Tree} {path : Path} :
    tree.hasFile path ↔ ∃ content, tree.content? path = some content :=
  tree.files.contains_iff_get? path

theorem hasFile_eq_false {tree : Tree} {path : Path} :
    tree.hasFile path = false ↔ tree.content? path = none :=
  Option.isSome_eq_false_iff.trans Option.isNone_iff_eq_none

theorem mem_directoriesBelow {tree : Tree} {path directory : Path} :
    directory ∈ tree.directoriesBelow path ↔
      tree.hasDirectory directory ∧ Path.isBelow directory path := by
  rw [directoriesBelow, (Sorting.sort_perm _ _).mem_iff, List.mem_filter, hasDirectory_iff]

theorem mem_filesBelow {tree : Tree} {path file : Path} :
    file ∈ tree.filesBelow path ↔ tree.hasFile file ∧ Path.isBelow file path := by
  rw [filesBelow, List.mem_filter, hasFile_iff]

theorem createDirectory_cases (tree : Tree) (path : Path) :
    (tree.has path ∧ tree.createDirectory path = (false, tree)) ∨
      ¬ tree.hasDirectory path ∧ ¬ tree.hasFile path ∧
        tree.createDirectory path =
          (true, { tree with directories := tree.directories ++ [path] }) := by
  unfold createDirectory has
  cases tree.hasDirectory path <;> cases tree.hasFile path <;> simp

theorem writeFile_cases (tree : Tree) (path : Path) (content : String) :
    tree.writeFile path content = (false, tree) ∨
      (path ≠ "" ∧ path.toList.getLast? ≠ some '/' ∧ ¬ tree.hasDirectory path ∧
        tree.hasDirectory (Path.parent path)) ∧
          tree.writeFile path content =
            (true, { tree with files := tree.files.insert path content }) := by
  unfold writeFile
  by_cases refused : path = "" ∨ path.toList.getLast? = some '/' ∨ tree.hasDirectory path
  · simp [refused]
  · cases tree.hasDirectory (Path.parent path) <;> simp_all

theorem createFile_cases (tree : Tree) (path : Path) (content : String) :
    tree.createFile path content = (false, tree) ∨
      ¬ tree.hasFile path ∧ tree.createFile path content = tree.writeFile path content := by
  unfold createFile
  cases tree.hasFile path <;> simp

theorem removeFile_cases (tree : Tree) (path : Path) :
    tree.removeFile path = (false, tree) ∨
      tree.removeFile path = (true, { tree with files := tree.files.erase path }) := by
  unfold removeFile
  cases tree.hasFile path <;> simp

theorem removeDirectory_cases (tree : Tree) (path : Path) (recursive : Bool) :
    tree.removeDirectory path recursive = (false, tree) ∨
      path ≠ "" ∧ tree.removeDirectory path recursive = (true, tree.pruned path) := by
  unfold removeDirectory
  by_cases refused : path = "" ∨ !tree.hasDirectory path
  · exact .inl (if_pos refused)
  · rw [if_neg refused]
    split
    · exact .inr ⟨fun root => refused (.inl root), rfl⟩
    · exact .inl rfl

theorem removeDirectory_of_hasDirectory {tree : Tree} {path : Path} (nested : path ≠ "")
    (present : tree.hasDirectory path) : tree.removeDirectory path true = (true, tree.pruned path) := by
  have allowed : ¬ (path = "" ∨ !tree.hasDirectory path) := by simp [nested, present]
  rw [removeDirectory, if_neg allowed]
  rfl

theorem hasDirectory_pruned (tree : Tree) (path directory : Path) :
    (tree.pruned path).hasDirectory directory ↔
      tree.hasDirectory directory ∧ directory ≠ path ∧ ¬ Path.isBelow directory path := by
  rw [hasDirectory_iff, hasDirectory_iff, pruned, List.mem_filter]
  simp only [Bool.and_eq_true, Bool.not_eq_true', ← Bool.not_eq_true, List.contains_iff_mem,
    mem_directoriesBelow, hasDirectory_iff, decide_eq_true_eq]
  constructor
  · rintro ⟨present, kept, other⟩
    exact ⟨present, other, fun below => kept ⟨present, below⟩⟩
  · rintro ⟨present, other, outside⟩
    exact ⟨present, fun ⟨_, below⟩ => outside below, other⟩

theorem content?_pruned (tree : Tree) (path file : Path) :
    (tree.pruned path).content? file =
      if Path.isBelow file path then none else tree.content? file := by
  simp only [content?, pruned, OrderedMap.get?_foldl_erase, mem_filesBelow]
  by_cases below : Path.isBelow file path
  · cases present : tree.hasFile file
    · have absent : tree.files.get? file = none := hasFile_eq_false.mp present
      simp [below, absent]
    · simp [below]
  · simp [below]

end Tree

end TreeShell
