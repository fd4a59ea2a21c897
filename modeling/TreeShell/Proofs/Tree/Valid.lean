import TreeShell.Proofs.Path.Names
import TreeShell.Proofs.Tree.Lookup

namespace TreeShell.Tree

structure Valid (tree : Tree) : Prop where
  root : tree.hasDirectory ""
  once : tree.directories.Nodup
  oneKind : ∀ path, tree.hasFile path → ¬ tree.hasDirectory path
  housed : ∀ path, tree.hasFile path → tree.hasDirectory (Path.parent path)
  directoryNormal : ∀ path, tree.hasDirectory path → Path.Normal path
  fileCanonical : ∀ path, tree.hasFile path → Path.isCanonical path

theorem Valid.ne_root {tree : Tree} (valid : tree.Valid) {path : Path}
    (absent : ¬ tree.hasDirectory path) : path ≠ "" := by
  rintro rfl
  exact absent valid.root

theorem Valid.hasDirectory_of_root_or {tree : Tree} (valid : tree.Valid) {path : Path}
    (present : path = "" ∨ tree.hasDirectory path) : tree.hasDirectory path := by
  rcases present with rfl | present
  · exact valid.root
  · exact present

def Closed (tree : Tree) : Prop :=
  ∀ path, path ≠ "" → tree.hasDirectory path → tree.hasDirectory (Path.parent path)

theorem closed_iff {tree : Tree} : tree.Closed ↔
    ∀ path ∈ tree.directories, path ≠ "" → tree.hasDirectory (Path.parent path) := by
  constructor
  · intro closed path member nested
    exact closed path nested (hasDirectory_iff.mpr member)
  · intro closed path nested present
    exact closed path (hasDirectory_iff.mp present) nested

instance (tree : Tree) : Decidable tree.Closed := decidable_of_iff _ closed_iff.symm

theorem distinct_iff (paths : List Path) : distinct paths ↔ paths.Nodup := by
  induction paths with
  | nil => simp [distinct]
  | cons path rest ih => simp [distinct, ih]

/-- What an issue says of a tree. -/
def Issue.Holds (tree : Tree) : Issue → Prop
  | .rootMissing => ¬ tree.hasDirectory ""
  | .duplicateDirectory => ¬ tree.directories.Nodup
  | .bothKinds path => tree.hasFile path ∧ tree.hasDirectory path
  | .orphanFile path parent => tree.hasFile path ∧ parent = Path.parent path ∧ parent ≠ "" ∧
      ¬ tree.hasDirectory parent
  | .directoryNotCanonical path => tree.hasDirectory path ∧ path ≠ "" ∧ ¬ Path.isCanonical path
  | .fileNotCanonical path => tree.hasFile path ∧ ¬ Path.isCanonical path

theorem mem_fileIssues {tree : Tree} {path : Path} {issue : Issue} :
    issue ∈ tree.fileIssues path ↔ issue = .bothKinds path ∧ tree.hasDirectory path ∨
      issue = .orphanFile path (Path.parent path) ∧ Path.parent path ≠ "" ∧
        ¬ tree.hasDirectory (Path.parent path) := by
  simp only [fileIssues, List.mem_append, List.mem_ite_nil_right, List.mem_singleton,
    Bool.not_eq_true', Bool.not_eq_true]
  exact or_congr and_comm and_comm

theorem mem_issues {tree : Tree} {issue : Issue} : issue ∈ tree.issues ↔ issue.Holds tree := by
  simp only [issues, List.mem_append, List.mem_flatMap, List.mem_map, List.mem_filter, mem_fileIssues,
    List.mem_ite_nil_left, List.mem_singleton, ← hasFile_iff, ← hasDirectory_iff, distinct_iff]
  cases issue with
  | rootMissing => simp [Issue.Holds]
  | duplicateDirectory => simp [Issue.Holds]
  | bothKinds path =>
    simp only [Issue.Holds, Issue.bothKinds.injEq, reduceCtorEq, false_and, and_false, or_false,
      false_or, exists_false]
    constructor
    · rintro ⟨_, isFile, rfl, isDirectory⟩
      exact ⟨isFile, isDirectory⟩
    · rintro ⟨isFile, isDirectory⟩
      exact ⟨path, isFile, rfl, isDirectory⟩
  | orphanFile path parent =>
    simp only [Issue.Holds, Issue.orphanFile.injEq, reduceCtorEq, false_and, and_false, or_false,
      false_or, exists_false]
    constructor
    · rintro ⟨_, isFile, ⟨rfl, rfl⟩, nested, missing⟩
      exact ⟨isFile, rfl, nested, missing⟩
    · rintro ⟨isFile, rfl, nested, missing⟩
      exact ⟨path, isFile, ⟨rfl, rfl⟩, nested, missing⟩
  | directoryNotCanonical path => simp [Issue.Holds]
  | fileNotCanonical path => simp [Issue.Holds]

theorem issues_eq_nil {tree : Tree} : tree.issues = [] ↔ tree.Valid := by
  simp only [List.eq_nil_iff_forall_not_mem, mem_issues]
  constructor
  · intro sound
    have root : tree.hasDirectory "" := Classical.not_not.mp (sound .rootMissing)
    have once := Classical.not_not.mp (sound .duplicateDirectory)
    refine ⟨root, once, fun path isFile isDirectory => sound (.bothKinds path) ⟨isFile, isDirectory⟩,
      ?_, ?_, ?_⟩
    · intro path isFile
      apply Classical.byContradiction
      intro missing
      have nested : Path.parent path ≠ "" := fun top => missing (top ▸ root)
      exact sound (.orphanFile path (Path.parent path)) ⟨isFile, rfl, nested, missing⟩
    · intro path isDirectory
      by_cases top : path = ""
      · exact .inl top
      · right
        apply Classical.byContradiction
        intro odd
        exact sound (.directoryNotCanonical path) ⟨isDirectory, top, odd⟩
    · intro path isFile
      apply Classical.byContradiction
      intro odd
      exact sound (.fileNotCanonical path) ⟨isFile, odd⟩
  · intro valid issue holds
    cases issue with
    | rootMissing => exact holds valid.root
    | duplicateDirectory => exact holds valid.once
    | bothKinds path => exact valid.oneKind path holds.1 holds.2
    | orphanFile path parent =>
      obtain ⟨isFile, rfl, _, missing⟩ := holds
      exact missing (valid.housed path isFile)
    | directoryNotCanonical path =>
      obtain ⟨isDirectory, nested, odd⟩ := holds
      exact odd (Path.isCanonical_of_normal (valid.directoryNormal path isDirectory) nested)
    | fileNotCanonical path => exact holds.2 (valid.fileCanonical path holds.1)

end TreeShell.Tree
