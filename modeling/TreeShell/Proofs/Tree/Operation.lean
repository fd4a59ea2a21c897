import TreeShell.Proofs.Tree.Change

namespace TreeShell.Tree

inductive Operation
  | createDirectory (path : Path)
  | createFile (path : Path) (content : String)
  | writeFile (path : Path) (content : String)
  | removeFile (path : Path)
  | removeDirectory (path : Path) (recursive : Bool)

def NothingBelow (tree : Tree) (path : Path) : Prop :=
  ∀ other, Path.Under other path → other ≠ path → ¬ tree.hasDirectory other ∧ ¬ tree.hasFile other

namespace Operation

def path : Operation → Path
  | createDirectory path | createFile path _ | writeFile path _ | removeFile path
  | removeDirectory path _ => path

def run : Operation → Tree → Bool × Tree
  | createDirectory path, tree => tree.createDirectory path
  | createFile path content, tree => tree.createFile path content
  | writeFile path content, tree => tree.writeFile path content
  | removeFile path, tree => tree.removeFile path
  | removeDirectory path recursive, tree => tree.removeDirectory path recursive

def Allowed (tree : Tree) : Operation → Prop
  | createDirectory path => ¬ tree.hasDirectory path ∧ ¬ tree.hasFile path
  | createFile path _ => ¬ tree.hasFile path ∧ tree.Houses path
  | writeFile path _ => tree.Houses path
  | removeFile path => tree.hasFile path
  | removeDirectory path recursive =>
    path ≠ "" ∧ tree.hasDirectory path ∧ (recursive ∨ tree.NothingBelow path)

/-- The difference that an operation makes where it is done. -/
def Makes (before after : Tree) : Operation → Prop
  | createDirectory path =>
    after.directories = before.directories ++ [path] ∧ after.files = before.files
  | createFile path content =>
    after.directories = before.directories ∧
      after.files.entries = before.files.entries ++ [(path, content)]
  | writeFile path content =>
    after.directories = before.directories ∧
      after.files.keys =
        (if before.hasFile path then before.files.keys else before.files.keys ++ [path]) ∧
      ∀ other, after.content? other = if other = path then some content else before.content? other
  | removeFile path =>
    after.directories = before.directories ∧
      after.files.entries = before.files.entries.filter fun entry => entry.1 ≠ path
  | removeDirectory path _ =>
    after.directories = before.directories.filter (fun directory => ¬ Path.Under directory path) ∧
      after.files.entries = before.files.entries.filter
        fun entry => entry.1 = path ∨ ¬ Path.Under entry.1 path

def runAll (operations : List Operation) (tree : Tree) : Tree :=
  operations.foldl (fun tree operation => (operation.run tree).2) tree

end Operation

variable {tree : Tree} {path : Path}

/-! ## Pruning -/

theorem directories_pruned (nested : path ≠ "") :
    (tree.pruned path).directories =
      tree.directories.filter fun directory => ¬ Path.Under directory path := by
  unfold pruned
  apply List.filter_congr
  intro directory member
  have below : Path.isBelow directory path ↔ Path.Under directory path ∧ directory ≠ path :=
    Path.isBelow_iff_under nested
  have listed : directory ∈ tree.directoriesBelow path ↔ Path.isBelow directory path := by
    rw [mem_directoriesBelow, hasDirectory_iff]
    exact and_iff_right member
  by_cases here : directory = path
  · simp [here, Path.Under.refl]
  · simp [listed, below, here]

theorem entries_pruned (nested : path ≠ "") :
    (tree.pruned path).files.entries =
      tree.files.entries.filter fun entry => entry.1 = path ∨ ¬ Path.Under entry.1 path := by
  rw [pruned, OrderedMap.entries_foldl_erase]
  apply List.filter_congr
  intro entry member
  have isFile : tree.hasFile entry.1 := hasFile_iff.mpr (List.mem_map_of_mem member)
  have below : Path.isBelow entry.1 path ↔ Path.Under entry.1 path ∧ entry.1 ≠ path :=
    Path.isBelow_iff_under nested
  by_cases here : entry.1 = path
  · simp [mem_filesBelow, Path.not_isBelow_self, here]
  · simp [mem_filesBelow, isFile, below, here]

theorem nothingBelow_iff (nested : path ≠ "") :
    tree.NothingBelow path ↔
      (tree.filesBelow path).isEmpty && (tree.directoriesBelow path).isEmpty := by
  simp only [Bool.and_eq_true, List.isEmpty_iff, List.eq_nil_iff_forall_not_mem, mem_filesBelow,
    mem_directoriesBelow, Path.isBelow_iff_under nested]
  constructor
  · intro nothing
    exact ⟨fun other ⟨present, under, apart⟩ => (nothing other under apart).2 present,
      fun other ⟨present, under, apart⟩ => (nothing other under apart).1 present⟩
  · rintro ⟨files, directories⟩ other under apart
    exact ⟨fun present => directories other ⟨present, under, apart⟩,
      fun present => files other ⟨present, under, apart⟩⟩

/-! ## One operation -/

/-- An operation is refused and leaves the tree alone, or it is done and makes its difference. -/
def Operation.Settles (operation : Operation) (tree : Tree) : Prop :=
  (¬ operation.Allowed tree ∧ operation.run tree = (false, tree)) ∨
    operation.Allowed tree ∧ ∃ after, operation.run tree = (true, after) ∧
      operation.Makes tree after

namespace Operation

theorem settles_createDirectory (tree : Tree) (path : Path) :
    (createDirectory path).Settles tree := by
  rcases tree.createDirectory_cases path with ⟨taken, same⟩ | ⟨fresh, free, same⟩
  · left
    rw [has, Bool.or_eq_true] at taken
    exact ⟨fun allowed => taken.elim allowed.2 allowed.1, same⟩
  · exact .inr ⟨⟨fresh, free⟩, _, same, rfl, rfl⟩

theorem makes_writeFile (tree : Tree) (path : Path) (content : String) :
    (writeFile path content).Makes tree { tree with files := tree.files.insert path content } := by
  refine ⟨rfl, ?_, fun other => tree.files.get?_insert path other content⟩
  simp only [hasFile_iff]
  exact OrderedMap.keys_put path content tree.files.entries

theorem settles_writeFile (tree : Tree) (path : Path) (content : String) :
    (writeFile path content).Settles tree := by
  by_cases houses : tree.Houses path
  · exact .inr ⟨houses, _, houses.writeFile content, makes_writeFile tree path content⟩
  · left
    rcases tree.writeFile_cases path content with refused | ⟨⟨filled, ends, free, housed⟩, _⟩
    · exact ⟨houses, refused⟩
    · exact absurd ⟨filled, ends, free, housed⟩ houses

theorem settles_createFile (tree : Tree) (path : Path) (content : String) :
    (createFile path content).Settles tree := by
  by_cases isFile : tree.hasFile path
  · left
    exact ⟨fun allowed => allowed.1 isFile, if_pos isFile⟩
  · have written : (createFile path content).run tree = (writeFile path content).run tree :=
      if_neg isFile
    rcases settles_writeFile tree path content with ⟨refused, same⟩ | ⟨houses, _, _, _⟩
    · left
      rw [written]
      exact ⟨fun allowed => refused allowed.2, same⟩
    · right
      have fresh : path ∉ tree.files.entries.map Prod.fst := fun old => isFile (hasFile_iff.mpr old)
      rw [written]
      exact ⟨⟨isFile, houses⟩, _, houses.writeFile content, rfl,
        OrderedMap.put_of_not_mem content fresh⟩

theorem settles_removeFile (tree : Tree) (path : Path) : (removeFile path).Settles tree := by
  by_cases isFile : tree.hasFile path
  · exact .inr ⟨isFile, _, if_pos isFile, rfl, rfl⟩
  · exact .inl ⟨isFile, if_neg isFile⟩

theorem settles_removeDirectory (tree : Tree) (path : Path) (recursive : Bool) :
    (removeDirectory path recursive).Settles tree := by
  by_cases refused : path = "" ∨ !tree.hasDirectory path
  · left
    refine ⟨?_, if_pos refused⟩
    rintro ⟨nested, present, _⟩
    simp [nested, present] at refused
  · have open_ : path ≠ "" ∧ tree.hasDirectory path := by simpa using refused
    obtain ⟨nested, present⟩ := open_
    have decided : (removeDirectory path recursive).run tree = _ := if_neg refused
    rw [Settles, decided]
    split
    · rename_i asked
      rw [Bool.or_eq_true, ← nothingBelow_iff nested] at asked
      exact .inr ⟨⟨nested, present, asked⟩, _, rfl, directories_pruned nested, entries_pruned nested⟩
    · rename_i denied
      rw [Bool.or_eq_true, ← nothingBelow_iff nested] at denied
      exact .inl ⟨fun allowed => denied allowed.2.2, rfl⟩

theorem settles (operation : Operation) (tree : Tree) : operation.Settles tree := by
  cases operation with
  | createDirectory path => exact settles_createDirectory tree path
  | createFile path content => exact settles_createFile tree path content
  | writeFile path content => exact settles_writeFile tree path content
  | removeFile path => exact settles_removeFile tree path
  | removeDirectory path recursive => exact settles_removeDirectory tree path recursive

/-! ## The root and validity -/

theorem hasDirectory_root {operation : Operation} (present : tree.hasDirectory "") :
    (operation.run tree).2.hasDirectory "" := by
  rcases operation.settles tree with ⟨_, same⟩ | ⟨allowed, after, same, makes⟩
  · rw [same]
    exact present
  · rw [same]
    rw [hasDirectory_iff] at present ⊢
    cases operation with
    | createDirectory path =>
      rw [makes.1]
      exact List.mem_append_left _ present
    | removeDirectory path recursive =>
      rw [makes.1, List.mem_filter]
      exact ⟨present, by simpa using Path.not_under_of_root allowed.1⟩
    | _ =>
      rw [makes.1]
      exact present

theorem valid_run {operation : Operation} (valid : tree.Valid) (normal : Path.Normal operation.path) :
    (operation.run tree).2.Valid := by
  cases operation with
  | createDirectory path =>
    by_cases root : path = ""
    · rw [run, root, valid.createDirectory_root]
      exact valid
    · exact valid.createDirectory (Path.isCanonical_of_normal normal root)
  | createFile path content =>
    rcases tree.createFile_cases path content with same | ⟨_, same⟩
    · rw [run, same]
      exact valid
    · rw [run, same]
      exact valid.writeFile normal.not_absolute content
  | writeFile path content => exact valid.writeFile normal.not_absolute content
  | removeFile path => exact valid.removeFile path
  | removeDirectory path recursive =>
    rcases tree.removeDirectory_cases path recursive with same | ⟨nested, same⟩
    · rw [run, same]
      exact valid
    · rw [run, same]
      exact valid.pruned nested

/-! ## Operations one after the other -/

theorem hasDirectory_root_runAll (present : tree.hasDirectory "") (operations : List Operation) :
    (runAll operations tree).hasDirectory "" := by
  induction operations generalizing tree with
  | nil => exact present
  | cons operation rest ih => exact ih (hasDirectory_root present)

theorem valid_runAll (valid : tree.Valid) {operations : List Operation}
    (normal : ∀ operation ∈ operations, Path.Normal operation.path) :
    (runAll operations tree).Valid := by
  induction operations generalizing tree with
  | nil => exact valid
  | cons operation rest ih =>
    exact ih (valid_run valid (normal operation (List.mem_cons_self ..)))
      fun other member => normal other (List.mem_cons_of_mem _ member)

/-- An operation says that it was done just when it is allowed, it changes nothing where it says that
    it was not, and it makes exactly its difference where it says so. On a valid tree operations on
    normal paths leave a valid tree, and no operations whatever take the root away. -/
theorem run_exact (operation : Operation) (tree : Tree) :
    ((operation.run tree).1 = true ↔ operation.Allowed tree) ∧
      ((operation.run tree).1 = false → (operation.run tree).2 = tree) ∧
      ((operation.run tree).1 = true → operation.Makes tree (operation.run tree).2) ∧
      (tree.issues = [] → Path.Normal operation.path → (operation.run tree).2.issues = []) ∧
      ∀ operations : List Operation,
        (tree.hasDirectory "" → (runAll operations tree).hasDirectory "") ∧
        (tree.issues = [] → (∀ operation ∈ operations, Path.Normal operation.path) →
          (runAll operations tree).issues = []) := by
  simp only [issues_eq_nil]
  refine ⟨?_, ?_, ?_, valid_run, fun operations => ⟨?_, fun valid => valid_runAll valid⟩⟩
  · rcases operation.settles tree with ⟨refused, same⟩ | ⟨allowed, after, same, _⟩
    · simp [same, refused]
    · simp [same, allowed]
  · rcases operation.settles tree with ⟨_, same⟩ | ⟨_, after, same, _⟩
    · simp [same]
    · simp [same]
  · rcases operation.settles tree with ⟨_, same⟩ | ⟨_, after, same, makes⟩
    · simp [same]
    · simp [same, makes]
  · exact fun present => hasDirectory_root_runAll present operations

def neighbours : Tree :=
  ⟨["", "docs", "docs/guides", "docsextra"],
    .ofList [("docs/intro.md", "hi"), ("docsextra/f", "kept"), ("docs/guides/setup.md", "run")]⟩

theorem run_exact_neighbours :
    let removed := (removeDirectory "docs" true).run neighbours
    removed.1 = true ∧ removed.2.directories = ["", "docsextra"] ∧
      removed.2.files.entries = [("docsextra/f", "kept")] ∧ removed.2.issues = [] ∧
      (removeDirectory "docs" false).run neighbours = (false, neighbours) := by
  have some_below : Path.Under "docs/guides" "docs" ∧ neighbours.hasDirectory "docs/guides" := by
    decide
  have crowded : ¬ (removeDirectory "docs" false).Allowed neighbours := by
    rintro ⟨_, _, asked | nothing⟩
    · cases asked
    · exact (nothing "docs/guides" some_below.1 (by decide)).1 some_below.2
  have whole := run_exact (removeDirectory "docs" true) neighbours
  have done := whole.1.mpr ⟨by decide, by decide, .inl rfl⟩
  obtain ⟨directories, entries⟩ := whole.2.2.1 done
  have valid : neighbours.issues = [] := by decide +kernel
  have refused := run_exact (removeDirectory "docs" false) neighbours
  have said := Bool.eq_false_iff.mpr fun said => crowded (refused.1.mp said)
  exact ⟨done, directories.trans (by decide), entries.trans (by decide),
    whole.2.2.2.1 valid (by decide), Prod.ext said (refused.2.1 said)⟩

end Operation

end TreeShell.Tree
