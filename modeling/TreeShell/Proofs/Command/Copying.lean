import TreeShell.Proofs.Command.Answers
import TreeShell.Proofs.Command.Parents

namespace TreeShell.Command

variable {tree : Tree} {source target : Path}

namespace Transfer

def withFolders (tree : Tree) (source target : Path) : Tree :=
  createAll tree (target :: (tree.directoriesBelow source).map (Path.image source target))

theorem files_withFolders (tree : Tree) (source target : Path) :
    (withFolders tree source target).files = tree.files := files_createAll tree _

theorem content?_withFolders (tree : Tree) (source target path : Path) :
    (withFolders tree source target).content? path = tree.content? path := by
  rw [Tree.content?, files_withFolders]
  rfl

theorem copyTree_eq (outside : ¬ Path.isBelow target source) :
    copyTree tree source target =
      copyFiles source target (withFolders tree source target) (tree.filesBelow source) := by
  have below : ∀ folder ∈ tree.directoriesBelow source, Path.isBelow folder source :=
    fun folder member => (Tree.mem_directoriesBelow.mp member).2
  have files : (withFolders tree source target).filesBelow source = tree.filesBelow source := by
    rw [Tree.filesBelow, files_withFolders]
    rfl
  rw [← files, copyTree, directoriesBelow_createDirectory outside, copyFolders_eq below]
  rfl

/-- What copying some files of a source leaves of a tree. -/
structure Copied (source target : Path) (files : List Path) (before after : Tree) : Prop where
  directories : after.directories = before.directories
  elsewhere : ∀ path, (∀ file ∈ files, path ≠ Path.image source target file) →
    after.content? path = before.content? path
  images : (∀ file ∈ files, ¬ Path.isBelow (Path.image source target file) source) →
    ∀ file ∈ files, after.content? (Path.image source target file) = before.content? file

theorem Copied.nil (source target : Path) (tree : Tree) : Copied source target [] tree tree :=
  ⟨rfl, fun _ _ => rfl, fun _ _ member => nomatch member⟩

theorem Copied.cons {file : Path} {rest : List Path} {content : String} {after : Tree}
    (below : ∀ other ∈ file :: rest, Path.isBelow other source)
    (stored : tree.content? file = some content)
    (houses : tree.Houses (Path.image source target file))
    (later : Copied source target rest
      (tree.writeFile (Path.image source target file) content).2 after) :
    Copied source target (file :: rest) tree after := by
  have belowFirst := below file (List.mem_cons_self ..)
  refine ⟨later.directories.trans (tree.directories_writeFile _ content), ?_, ?_⟩
  · intro path other
    rw [later.elsewhere path fun later member => other later (List.mem_cons_of_mem _ member)]
    exact Tree.content?_writeFile_of_ne content (other file (List.mem_cons_self ..))
  · intro apart copied member
    have apartLater := fun other inside => apart other (List.mem_cons_of_mem _ inside)
    by_cases again : copied ∈ rest
    · -- The write before it did not touch the file, which lies in the source.
      have other : copied ≠ Path.image source target file := by
        rintro rfl
        exact apart file (List.mem_cons_self ..) (below _ member)
      rw [later.images apartLater copied again]
      exact Tree.content?_writeFile_of_ne content other
    · have first : copied = file := (List.mem_cons.mp member).resolve_right again
      subst first
      rw [later.elsewhere, houses.content?_writeFile, stored]
      intro other inside same
      have equal := Path.image_inj belowFirst (below other (List.mem_cons_of_mem _ inside)) same
      exact again (equal ▸ inside)

theorem copyFiles_complete {files : List Path}
    (listed : ∀ file ∈ files, tree.hasFile file ∧ Path.isBelow file source)
    (room : ∀ file ∈ files, tree.Houses (Path.image source target file)) :
    ∃ after, copyFiles source target tree files = .ok (true, after) ∧
      Copied source target files tree after := by
  induction files generalizing tree with
  | nil => exact ⟨tree, rfl, .nil source target tree⟩
  | cons file rest ih =>
    obtain ⟨present, below⟩ := listed file (List.mem_cons_self ..)
    obtain ⟨content, stored⟩ := Tree.hasFile_iff_content?.mp present
    have houses := room file (List.mem_cons_self ..)
    obtain ⟨after, copied, holds⟩ := @ih (tree.writeFile (Path.image source target file) content).2
      (fun other member => by
        obtain ⟨old, inside⟩ := listed other (List.mem_cons_of_mem _ member)
        exact ⟨Tree.hasFile_writeFile content old, inside⟩)
      (fun other member => (room other (List.mem_cons_of_mem _ member)).of_directories
        (tree.directories_writeFile _ content))
    refine ⟨after, ?_, holds.cons (fun other member => (listed other member).2) stored houses⟩
    rw [houses.writeFile] at copied
    rw [copyFiles, stopAt_landing below, stopAt_lookUp stored]
    simp only [bind, Except.bind, houses.writeFile, copied]
    rfl

theorem Passes.not_hasDirectory_image (passes : Passes tree source target) {file : Path}
    (member : file ∈ tree.filesBelow source) :
    ¬ tree.hasDirectory (Path.image source target file) := by
  exact (conflict?_eq_none_iff.mp passes.clear).2 file member

theorem Passes.hasDirectory_withFolders (passes : Passes tree source target) (path : Path) :
    (withFolders tree source target).hasDirectory path ↔
      tree.hasDirectory path ∨ path = target ∨
        ∃ folder ∈ tree.directoriesBelow source, path = Path.image source target folder := by
  rw [withFolders, hasDirectory_createAll, List.mem_cons, List.mem_map]
  refine or_congr_right ?_
  constructor
  · rintro ⟨here | ⟨folder, member, rfl⟩, _⟩
    · exact .inl here
    · exact .inr ⟨folder, member, rfl⟩
  · rintro (rfl | ⟨folder, member, rfl⟩)
    · exact ⟨.inl rfl, passes.free⟩
    · exact ⟨.inr ⟨folder, member, rfl⟩, (conflict?_eq_none_iff.mp passes.clear).1 folder member⟩

theorem Passes.houses_image (passes : Passes tree source target) (valid : tree.Valid)
    (normal : Path.Normal target) {file : Path} (member : file ∈ tree.filesBelow source) :
    (withFolders tree source target).Houses (Path.image source target file) := by
  obtain ⟨present, below⟩ := Tree.mem_filesBelow.mp member
  have canonical := valid.fileCanonical file present
  have landed := Path.isCanonical_image below canonical normal
  have sourceNormal := valid.directoryNormal source passes.folder
  refine ⟨Path.ne_empty_of_isCanonical landed, Path.Normal.getLast?_ne (.inr landed), ?_, ?_⟩
  · rw [passes.hasDirectory_withFolders]
    rintro (old | top | ⟨folder, listed, same⟩)
    · exact passes.not_hasDirectory_image member old
    · have inside : Path.isBelow (Path.image source target file) target :=
        Path.isBelow_image below canonical
      rw [top] at inside
      exact Path.not_isBelow_self target inside
    · obtain ⟨isDirectory, belowToo⟩ := Tree.mem_directoriesBelow.mp listed
      rw [← Path.image_inj below belowToo same] at isDirectory
      exact valid.oneKind file present isDirectory
  · rw [passes.hasDirectory_withFolders]
    rcases Path.parent_image below canonical sourceNormal normal with top | ⟨above, same⟩
    · exact .inr (.inl top)
    · have listed : Path.parent file ∈ tree.directoriesBelow source :=
        Tree.mem_directoriesBelow.mpr ⟨valid.housed file present, above⟩
      exact .inr (.inr ⟨Path.parent file, listed, same⟩)

/-- Where the source does not lie below the target either, no image lies in the source again. -/
theorem Passes.not_isBelow_image (passes : Passes tree source target) (valid : tree.Valid)
    (normal : Path.Normal target) (apart : ¬ Path.isBelow source target) :
    ∀ file ∈ tree.filesBelow source, ¬ Path.isBelow (Path.image source target file) source := by
  intro file member again
  obtain ⟨present, below⟩ := Tree.mem_filesBelow.mp member
  exact apart (Path.isBelow_of_image below (valid.fileCanonical file present)
    (valid.directoryNormal source passes.folder) normal passes.other passes.outside again)

/-- A copy that passes the checks is complete. -/
theorem Passes.copyTree (passes : Passes tree source target) (valid : tree.Valid)
    (normal : Path.Normal target) :
    ∃ after, copyTree tree source target = .ok (true, after) ∧
      Copied source target (tree.filesBelow source) (withFolders tree source target) after := by
  rw [copyTree_eq passes.outside]
  apply copyFiles_complete
  · intro file member
    obtain ⟨present, below⟩ := Tree.mem_filesBelow.mp member
    refine ⟨?_, below⟩
    rw [Tree.hasFile, files_withFolders]
    exact present
  · intro file member
    exact passes.houses_image valid normal member

end Transfer

end TreeShell.Command
