import Mathlib.Logic.Relation
import TreeShell.Proofs.Path.Resolve
import TreeShell.Proofs.Tree.Valid

namespace TreeShell.Tree

inductive Change
  | createDirectory (path : Path)
  | writeFile (path : Path) (content : String)
  | removeFile (path : Path)
  | removeDirectory (path : Path)

namespace Change

def path : Change → Path
  | createDirectory path => path
  | writeFile path _ => path
  | removeFile path => path
  | removeDirectory path => path

def apply : Change → Tree → Tree
  | createDirectory path, tree => (tree.createDirectory path).2
  | writeFile path content, tree => (tree.writeFile path content).2
  | removeFile path, tree => (tree.removeFile path).2
  | removeDirectory path, tree => (tree.removeDirectory path true).2

/-- What a change may do to a tree, whose directories are to stay closed or need not. -/
def Permitted (closed : Prop) (tree : Tree) : Change → Prop
  | createDirectory path =>
    Path.isCanonical path ∧ (closed → tree.hasDirectory (Path.parent path))
  | writeFile path _ => ¬ Path.Absolute path
  | removeFile _ | removeDirectory _ => True

end Change

/-- A valid tree, closed where that is asked for. -/
structure Fit (closed : Prop) (tree : Tree) : Prop where
  valid : tree.Valid
  closed : closed → tree.Closed

theorem Fit.hasDirectory_parent {tree : Tree} (fit : tree.Fit True) {path : Path}
    (present : tree.hasDirectory path) : tree.hasDirectory (Path.parent path) := by
  by_cases root : path = ""
  · rw [root]
    exact fit.valid.root
  · exact fit.closed trivial path root present

def Run (closed : Prop) (kind : Change → Prop) : Tree → Tree → Prop :=
  Relation.ReflTransGen fun before after =>
    ∃ change, change.Permitted closed before ∧ kind change ∧ after = change.apply before

/-! ## What a change keeps -/

theorem hasDirectory_createDirectory (tree : Tree) (path directory : Path) :
    (tree.createDirectory path).2.hasDirectory directory ↔
      tree.hasDirectory directory ∨ directory = path ∧ ¬ tree.hasFile path := by
  rcases tree.createDirectory_cases path with ⟨taken, same⟩ | ⟨_, free, same⟩
  · rw [same]
    constructor
    · exact .inl
    · rintro (present | ⟨rfl, free⟩)
      · exact present
      · rw [has, Bool.or_eq_true] at taken
        exact taken.resolve_left free
  · rw [same]
    simp [hasDirectory_iff, free]

theorem content?_createDirectory (tree : Tree) (path file : Path) :
    (tree.createDirectory path).2.content? file = tree.content? file := by
  rcases tree.createDirectory_cases path with ⟨_, same⟩ | ⟨_, _, same⟩
  · rw [same]
  · rw [same]
    rfl

theorem hasFile_createDirectory (tree : Tree) (path file : Path) :
    (tree.createDirectory path).2.hasFile file = tree.hasFile file :=
  congrArg Option.isSome (content?_createDirectory tree path file)

theorem directories_writeFile (tree : Tree) (path : Path) (content : String) :
    (tree.writeFile path content).2.directories = tree.directories := by
  rcases tree.writeFile_cases path content with same | ⟨_, same⟩ <;> rw [same]

theorem content?_writeFile_of_ne {tree : Tree} {path file : Path} (content : String)
    (other : file ≠ path) : (tree.writeFile path content).2.content? file = tree.content? file := by
  rcases tree.writeFile_cases path content with same | ⟨_, same⟩
  · rw [same]
  · rw [same, content?, OrderedMap.get?_insert, if_neg other]
    rfl

theorem content?_writeFile_cases (tree : Tree) (path file : Path) (content : String) :
    (tree.writeFile path content).2.content? file = tree.content? file ∨
      file = path ∧ path ≠ "" ∧ path.toList.getLast? ≠ some '/' ∧ ¬ tree.hasDirectory path ∧
        tree.hasDirectory (Path.parent path) := by
  by_cases here : file = path
  · rcases tree.writeFile_cases path content with same | ⟨fit, _⟩
    · rw [same]
      exact .inl rfl
    · exact .inr ⟨here, fit⟩
  · exact .inl (content?_writeFile_of_ne content here)

theorem hasFile_writeFile {tree : Tree} {path file : Path} (content : String)
    (present : tree.hasFile file) : (tree.writeFile path content).2.hasFile file := by
  rcases tree.writeFile_cases path content with same | ⟨_, same⟩
  · rw [same]
    exact present
  · rw [same, hasFile_iff_content?, content?, OrderedMap.get?_insert]
    split
    · exact ⟨content, rfl⟩
    · exact hasFile_iff_content?.mp present

/-- A tree has room for a file at a path. -/
structure Houses (tree : Tree) (path : Path) : Prop where
  filled : path ≠ ""
  ends : path.toList.getLast? ≠ some '/'
  free : ¬ tree.hasDirectory path
  housed : tree.hasDirectory (Path.parent path)

theorem Houses.writeFile {tree : Tree} {path : Path} (houses : tree.Houses path)
    (content : String) :
    tree.writeFile path content =
      (true, { tree with files := tree.files.insert path content }) := by
  obtain ⟨filled, ends, free, housed⟩ := houses
  have taken : ¬ (path = "" ∨ path.toList.getLast? = some '/' ∨ tree.hasDirectory path) := by
    simp [filled, ends, free]
  rw [Tree.writeFile, if_neg taken, housed]
  rfl

theorem Houses.content?_writeFile {tree : Tree} {path : Path} (houses : tree.Houses path)
    (content : String) : (tree.writeFile path content).2.content? path = some content := by
  rw [houses.writeFile, content?, OrderedMap.get?_insert, if_pos rfl]

theorem Houses.of_directories {tree after : Tree} {path : Path} (houses : tree.Houses path)
    (directories : after.directories = tree.directories) : after.Houses path := by
  have present (directory : Path) : after.hasDirectory directory = tree.hasDirectory directory := by
    rw [hasDirectory, directories]
    rfl
  refine ⟨houses.filled, houses.ends, ?_, ?_⟩
  · rw [present]
    exact houses.free
  · rw [present]
    exact houses.housed

def Full (tree : Tree) (path : Path) : Prop := tree.hasFile path ∨ ¬ tree.Houses path

theorem full_of_has {tree : Tree} {path : Path} (present : tree.has path) : tree.Full path := by
  rcases Bool.or_eq_true _ _ ▸ present with isFile | isDirectory
  · exact .inl isFile
  · exact .inr fun houses => houses.free isDirectory

theorem Full.createFile {tree : Tree} {path : Path} (full : tree.Full path) (content : String) :
    (tree.createFile path content).2 = tree := by
  rcases tree.createFile_cases path content with same | ⟨absent, same⟩
  · rw [same]
  · have crowded := full.resolve_left absent
    rw [same]
    rcases tree.writeFile_cases path content with refused | ⟨⟨filled, ends, free, housed⟩, _⟩
    · rw [refused]
    · exact absurd ⟨filled, ends, free, housed⟩ crowded

theorem full_createFile (tree : Tree) (path : Path) (content : String) :
    (tree.createFile path content).2.Full path := by
  by_cases full : tree.Full path
  · rwa [full.createFile]
  · rw [Full, not_or, Classical.not_not] at full
    obtain ⟨absent, houses⟩ := full
    left
    rw [Tree.createFile, if_neg absent, hasFile_iff_content?]
    exact ⟨content, houses.content?_writeFile content⟩

theorem directories_createFile (tree : Tree) (path : Path) (content : String) :
    (tree.createFile path content).2.directories = tree.directories := by
  rcases tree.createFile_cases path content with same | ⟨_, same⟩
  · rw [same]
  · rw [same]
    exact tree.directories_writeFile path content

theorem Full.keep {tree : Tree} {path other : Path} (full : tree.Full path) (content : String) :
    (tree.createFile other content).2.Full path := by
  rcases full with present | crowded
  · left
    rcases tree.createFile_cases other content with same | ⟨_, same⟩
    · rwa [same]
    · rw [same]
      exact hasFile_writeFile content present
  · right
    intro houses
    exact crowded (houses.of_directories (tree.directories_createFile other content).symm)

theorem content?_removeFile (tree : Tree) (path file : Path) :
    (tree.removeFile path).2.content? file = tree.content? file ∨
      file = path ∧ (tree.removeFile path).2.content? file = none := by
  rcases tree.removeFile_cases path with same | same
  · rw [same]
    exact .inl rfl
  · rw [same]
    by_cases here : file = path
    · exact .inr ⟨here, by rw [content?, OrderedMap.get?_erase, if_pos here]⟩
    · left
      rw [content?, OrderedMap.get?_erase, if_neg here]
      rfl

theorem content?_removeFile_of_ne {tree : Tree} {path file : Path} (other : file ≠ path) :
    (tree.removeFile path).2.content? file = tree.content? file :=
  (tree.content?_removeFile path file).resolve_right fun gone => other gone.1

theorem directories_removeFile (tree : Tree) (path : Path) :
    (tree.removeFile path).2.directories = tree.directories := by
  rcases tree.removeFile_cases path with same | same <;> rw [same]

/-! ## Validity -/

theorem Valid.createDirectory {tree : Tree} (valid : tree.Valid) {path : Path}
    (canonical : Path.isCanonical path) : (tree.createDirectory path).2.Valid := by
  rcases tree.createDirectory_cases path with ⟨_, same⟩ | ⟨fresh, free, same⟩
  · rw [same]
    exact valid
  · have present (directory : Path) := hasDirectory_createDirectory tree path directory
    have files (file : Path) := hasFile_createDirectory tree path file
    refine ⟨(present "").mpr (.inl valid.root), ?_, ?_, ?_, ?_, ?_⟩
    · rw [same, List.nodup_append]
      refine ⟨valid.once, by simp, ?_⟩
      rintro directory member _ last rfl
      rw [List.mem_singleton] at last
      exact fresh (hasDirectory_iff.mpr (last ▸ member))
    · intro file isFile isDirectory
      rw [files] at isFile
      rcases (present file).mp isDirectory with old | ⟨rfl, _⟩
      · exact valid.oneKind file isFile old
      · exact free isFile
    · intro file isFile
      rw [files] at isFile
      exact (present _).mpr (.inl (valid.housed file isFile))
    · intro directory isDirectory
      rcases (present directory).mp isDirectory with old | ⟨rfl, _⟩
      · exact valid.directoryNormal directory old
      · exact .inr canonical
    · intro file isFile
      rw [files] at isFile
      exact valid.fileCanonical file isFile

theorem Closed.createDirectory {tree : Tree} (closed : tree.Closed) {path : Path}
    (housed : tree.hasDirectory (Path.parent path)) : (tree.createDirectory path).2.Closed := by
  intro directory nested isDirectory
  rw [hasDirectory_createDirectory] at isDirectory ⊢
  rcases isDirectory with old | ⟨rfl, _⟩
  · exact .inl (closed directory nested old)
  · exact .inl housed

theorem Valid.of_files {tree after : Tree} (valid : tree.Valid)
    (directories : after.directories = tree.directories)
    (files : ∀ file, after.hasFile file → tree.hasFile file ∨
      Path.isCanonical file ∧ ¬ tree.hasDirectory file ∧ tree.hasDirectory (Path.parent file)) :
    after.Valid := by
  have present (path : Path) : after.hasDirectory path = tree.hasDirectory path := by
    rw [hasDirectory, directories]
    rfl
  refine ⟨by rw [present]; exact valid.root, by rw [directories]; exact valid.once, ?_, ?_, ?_, ?_⟩
  · intro file isFile
    rw [present]
    rcases files file isFile with old | ⟨_, free, _⟩
    · exact valid.oneKind file old
    · exact free
  · intro file isFile
    rw [present]
    rcases files file isFile with old | ⟨_, _, housed⟩
    · exact valid.housed file old
    · exact housed
  · intro path isDirectory
    rw [present] at isDirectory
    exact valid.directoryNormal path isDirectory
  · intro file isFile
    rcases files file isFile with old | ⟨canonical, _⟩
    · exact valid.fileCanonical file old
    · exact canonical

theorem Closed.of_directories {tree after : Tree} (closed : tree.Closed)
    (directories : after.directories = tree.directories) : after.Closed := by
  intro path nested
  rw [hasDirectory, hasDirectory, directories]
  exact closed path nested

theorem Valid.writeFile {tree : Tree} (valid : tree.Valid) {path : Path}
    (relative : ¬ Path.Absolute path) (content : String) :
    (tree.writeFile path content).2.Valid := by
  apply valid.of_files (tree.directories_writeFile path content)
  intro file isFile
  rcases tree.content?_writeFile_cases path file content with old | ⟨rfl, filled, ends, free, housed⟩
  · left
    rwa [hasFile_iff_content?, old, ← hasFile_iff_content?] at isFile
  · right
    have normal := valid.directoryNormal _ housed
    exact ⟨Path.isCanonical_of_parent filled relative ends normal, free, housed⟩

theorem Valid.removeFile {tree : Tree} (valid : tree.Valid) (path : Path) :
    (tree.removeFile path).2.Valid := by
  apply valid.of_files (tree.directories_removeFile path)
  intro file isFile
  rcases tree.content?_removeFile path file with old | ⟨_, gone⟩
  · left
    rwa [hasFile_iff_content?, old, ← hasFile_iff_content?] at isFile
  · rw [hasFile_iff_content?, gone] at isFile
    simp at isFile

theorem Valid.pruned {tree : Tree} (valid : tree.Valid) {path : Path} (nested : path ≠ "") :
    (tree.pruned path).Valid := by
  have present (directory : Path) := hasDirectory_pruned tree path directory
  have files (file : Path) (isFile : (tree.pruned path).hasFile file) :
      tree.hasFile file ∧ ¬ Path.isBelow file path := by
    rw [hasFile_iff_content?, content?_pruned] at isFile
    split at isFile
    · simp at isFile
    · exact ⟨hasFile_iff_content?.mpr isFile, by assumption⟩
  refine ⟨(present "").mpr ⟨valid.root, nested.symm, Path.not_isBelow_root⟩,
    valid.once.sublist List.filter_sublist, ?_, ?_, ?_, ?_⟩
  · intro file isFile isDirectory
    exact valid.oneKind file (files file isFile).1 ((present file).mp isDirectory).1
  · intro file isFile
    obtain ⟨old, outside⟩ := files file isFile
    have canonical := valid.fileCanonical file old
    refine (present _).mpr ⟨valid.housed file old, ?_,
      fun below => outside (Path.isBelow_of_isBelow_parent below)⟩
    rintro rfl
    exact outside (Path.isBelow_parent (.inr canonical) (Path.ne_empty_of_isCanonical canonical))
  · intro directory isDirectory
    exact valid.directoryNormal directory ((present directory).mp isDirectory).1
  · intro file isFile
    exact valid.fileCanonical file (files file isFile).1

theorem Closed.pruned {tree : Tree} (valid : tree.Valid) (closed : tree.Closed) (path : Path) :
    (tree.pruned path).Closed := by
  intro directory nested isDirectory
  obtain ⟨old, _, outside⟩ := (hasDirectory_pruned tree path directory).mp isDirectory
  refine (hasDirectory_pruned tree path _).mpr ⟨closed directory nested old, ?_,
    fun below => outside (Path.isBelow_of_isBelow_parent below)⟩
  rintro rfl
  exact outside (Path.isBelow_parent (valid.directoryNormal directory old) nested)

theorem Fit.apply {closed : Prop} {tree : Tree} (fit : tree.Fit closed) {change : Change}
    (permitted : change.Permitted closed tree) : (change.apply tree).Fit closed := by
  cases change with
  | createDirectory path =>
    exact ⟨fit.valid.createDirectory permitted.1,
      fun asked => (fit.closed asked).createDirectory (permitted.2 asked)⟩
  | writeFile path content =>
    exact ⟨fit.valid.writeFile permitted content,
      fun asked => (fit.closed asked).of_directories (tree.directories_writeFile path content)⟩
  | removeFile path =>
    exact ⟨fit.valid.removeFile path,
      fun asked => (fit.closed asked).of_directories (tree.directories_removeFile path)⟩
  | removeDirectory path =>
    rcases tree.removeDirectory_cases path true with same | ⟨nested, same⟩
    · rw [Change.apply, same]
      exact fit
    · rw [Change.apply, same]
      exact ⟨fit.valid.pruned nested, fun asked => (fit.closed asked).pruned fit.valid path⟩

theorem Valid.createDirectory_root {tree : Tree} (valid : tree.Valid) :
    tree.createDirectory "" = (false, tree) := by
  rw [Tree.createDirectory, valid.root]
  rfl

theorem Fit.createDirectory {closed : Prop} {tree : Tree} (fit : tree.Fit closed) {path : Path}
    (normal : Path.Normal path) (housed : closed → tree.hasDirectory (Path.parent path)) :
    (tree.createDirectory path).2.Fit closed := by
  by_cases root : path = ""
  · rw [root, fit.valid.createDirectory_root]
    exact fit
  · have permitted : (Change.createDirectory path).Permitted closed tree :=
      ⟨Path.isCanonical_of_normal normal root, housed⟩
    exact fit.apply permitted

/-! ## What a change touches -/

def Change.Touches (change : Change) (path : Path) : Prop :=
  match change with
  | .removeDirectory top => Path.Within path top
  | other => path = other.path

theorem Change.Touches.within {change : Change} {path : Path} (touches : change.Touches path) :
    Path.Within path change.path := by
  cases change with
  | removeDirectory top => exact touches
  | _ =>
    rw [show path = _ from touches]
    exact Path.Within.refl _

theorem node?_eq {tree after : Tree} {path : Path}
    (directory : after.hasDirectory path ↔ tree.hasDirectory path)
    (content : after.content? path = tree.content? path) : after.node? path = tree.node? path := by
  rw [node?, node?, content, Bool.eq_iff_iff.mpr directory]

/-- What stands at a path stays there unless the change touches it. -/
theorem Change.node?_apply {change : Change} {path : Path} (untouched : ¬ change.Touches path)
    (tree : Tree) : (change.apply tree).node? path = tree.node? path := by
  cases change with
  | createDirectory target =>
    have other : path ≠ target := untouched
    apply node?_eq
    · rw [Change.apply, hasDirectory_createDirectory]
      simp [other]
    · exact tree.content?_createDirectory target path
  | writeFile target content =>
    have other : path ≠ target := untouched
    apply node?_eq
    · rw [Change.apply, hasDirectory, directories_writeFile]
      rfl
    · exact content?_writeFile_of_ne content other
  | removeFile target =>
    have other : path ≠ target := untouched
    apply node?_eq
    · rw [Change.apply, hasDirectory, directories_removeFile]
      rfl
    · exact content?_removeFile_of_ne other
  | removeDirectory target =>
    rcases tree.removeDirectory_cases target true with same | ⟨_, same⟩
    · rw [Change.apply, same]
    · have outside : ¬ Path.isBelow path target :=
        fun below => untouched (Path.within_of_isBelow below)
      have other : path ≠ target := by
        rintro rfl
        exact untouched (Path.Within.refl path)
      rw [Change.apply, same]
      apply node?_eq
      · simp [hasDirectory_pruned, outside, other]
      · rw [content?_pruned, if_neg outside]

theorem node?_createDirectory (tree : Tree) (path other : Path) :
    (tree.createDirectory path).2.node? other = tree.node? other ∨
      tree.node? other = none ∧ (tree.createDirectory path).2.node? other = some .directory := by
  by_cases here : other = path
  · rcases tree.createDirectory_cases path with ⟨_, same⟩ | ⟨fresh, free, same⟩
    · rw [same]
      exact .inl rfl
    · right
      rw [Bool.not_eq_true] at fresh free
      constructor
      · simp [node?, here, fresh, hasFile_eq_false.mp free]
      · simp [node?, same, here, hasDirectory]
  · have untouched : ¬ (Change.createDirectory path).Touches other := here
    exact .inl (Change.node?_apply untouched tree)

/-! ## Runs of changes -/

section Runs

variable {closed : Prop} {kind : Change → Prop} {before after : Tree}

theorem Run.single (change : Change) (permitted : change.Permitted closed before)
    (member : kind change) : Run closed kind before (change.apply before) :=
  Relation.ReflTransGen.single ⟨change, permitted, member, rfl⟩

theorem Run.mono {wider : Change → Prop} (run : Run closed kind before after)
    (implies : ∀ change, kind change → wider change) : Run closed wider before after := by
  refine Relation.ReflTransGen.mono ?_ before after run
  rintro tree next ⟨change, permitted, member, result⟩
  exact ⟨change, permitted, implies change member, result⟩

theorem Run.fit (run : Run closed kind before after) (fit : before.Fit closed) :
    after.Fit closed := by
  induction run with
  | refl => exact fit
  | tail _ last ih =>
    obtain ⟨change, permitted, _, rfl⟩ := last
    exact ih.apply permitted

/-- Where a run makes a difference, one of its changes touches the path. -/
theorem Run.exists_touches (run : Run closed kind before after) {path : Path}
    (different : after.node? path ≠ before.node? path) :
    ∃ change, kind change ∧ change.Touches path := by
  induction run with
  | refl => exact absurd rfl different
  | @tail middle _ _ last ih =>
    obtain ⟨change, _, member, rfl⟩ := last
    by_cases touches : change.Touches path
    · exact ⟨change, member, touches⟩
    · rw [change.node?_apply touches middle] at different
      exact ih different

theorem Run.created (run : Run closed kind before after)
    (creates : ∀ change, kind change → ∃ path, change = .createDirectory path) (path : Path) :
    after.node? path = before.node? path ∨
      before.node? path = none ∧ after.node? path = some .directory := by
  induction run with
  | refl => exact .inl rfl
  | @tail middle _ _ last ih =>
    obtain ⟨change, _, member, rfl⟩ := last
    obtain ⟨made, rfl⟩ := creates change member
    rcases middle.node?_createDirectory made path with same | ⟨absent, present⟩
    · rw [Change.apply, same]
      exact ih
    · right
      rcases ih with old | ⟨_, directory⟩
      · exact ⟨old ▸ absent, present⟩
      · rw [directory] at absent
        cases absent

theorem Run.eq_of_none (run : Run closed kind before after) (none : ∀ change, ¬ kind change) :
    after = before := by
  induction run with
  | refl => rfl
  | tail _ last _ =>
    obtain ⟨change, _, member, _⟩ := last
    exact absurd member (none change)

end Runs

end TreeShell.Tree
