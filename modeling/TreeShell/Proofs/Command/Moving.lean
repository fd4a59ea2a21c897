import TreeShell.Proofs.Command.Single

namespace TreeShell.Command

variable {ctx : Context} {world : World} {tree after : Tree} {source target : Path}

namespace Transfer

def FileOf (tree : Tree) (source file : Path) : Prop :=
  tree.hasFile file ∧ (file = source ∨ Path.isBelow file source)

/-- Each file of a source is where the source went, with its content. -/
def Brings (tree after : Tree) (source target : Path) : Prop :=
  ∀ file, FileOf tree source file →
    after.content? (Path.brought source target file) = tree.content? file

/-- The files that are neither in a source nor where one of its files went are as they were. -/
def Spares (tree after : Tree) (source target : Path) : Prop :=
  ∀ file, tree.hasFile file → ¬ FileOf tree source file →
    (∀ other, FileOf tree source other → file ≠ Path.brought source target other) →
    after.content? file = tree.content? file

/-- The image of a file below a source lies below it too. -/
def Revisits (tree : Tree) (source target : Path) : Prop :=
  ∃ file ∈ tree.filesBelow source, Path.isBelow (Path.image source target file) source

theorem fileOf_file (fit : tree.Fit True) (present : tree.hasFile source) {file : Path} :
    FileOf tree source file ↔ file = source := by
  constructor
  · rintro ⟨isFile, here | below⟩
    · exact here
    · exact absurd below (fit.not_isBelow_file present isFile)
  · rintro rfl
    exact ⟨present, .inl rfl⟩

theorem fileOf_folder (valid : tree.Valid) (present : tree.hasDirectory source) {file : Path} :
    FileOf tree source file ↔ file ∈ tree.filesBelow source := by
  rw [Tree.mem_filesBelow]
  refine and_congr_right fun isFile => or_iff_right ?_
  rintro rfl
  exact valid.oneKind file isFile present

theorem not_revisits_file (fit : tree.Fit True) (present : tree.hasFile source) :
    ¬ Revisits tree source target := by
  rintro ⟨file, member, _⟩
  obtain ⟨isFile, below⟩ := Tree.mem_filesBelow.mp member
  exact fit.not_isBelow_file present isFile below

theorem Copied.removeDirectory {copied : Tree} (passes : Passes tree source target)
    (holds : Copied source target (tree.filesBelow source) (withFolders tree source target)
      copied) : (copied.removeDirectory source true).2 = copied.pruned source := by
  have present : copied.hasDirectory source := by
    rw [Tree.hasDirectory, holds.directories]
    exact (passes.hasDirectory_withFolders source).mpr (.inl passes.folder)
  rw [Tree.removeDirectory_of_hasDirectory passes.source_ne_root present]

theorem Copied.brings_iff {copied : Tree} (valid : tree.Valid) (passes : Passes tree source target)
    (holds : Copied source target (tree.filesBelow source) (withFolders tree source target)
      copied) :
    Brings tree (copied.pruned source) source target ↔ ¬ Revisits tree source target := by
  constructor
  · rintro brings ⟨file, member, again⟩
    obtain ⟨isFile, below⟩ := Tree.mem_filesBelow.mp member
    obtain ⟨content, stored⟩ := Tree.hasFile_iff_content?.mp isFile
    have brought := brings file ((fileOf_folder valid passes.folder).mpr member)
    rw [Path.brought_of_isBelow below, Tree.content?_pruned, if_pos again, stored] at brought
    cases brought
  · intro apart file member
    have listed := (fileOf_folder valid passes.folder).mp member
    have stays : ∀ other ∈ tree.filesBelow source,
        ¬ Path.isBelow (Path.image source target other) source :=
      fun other inside again => apart ⟨other, inside, again⟩
    rw [Path.brought_of_isBelow (Tree.mem_filesBelow.mp listed).2, Tree.content?_pruned,
      if_neg (stays file listed), holds.images stays file listed, content?_withFolders]

theorem Copied.spares {copied : Tree} (valid : tree.Valid) (passes : Passes tree source target)
    (holds : Copied source target (tree.filesBelow source) (withFolders tree source target)
      copied) : Spares tree (copied.pruned source) source target := by
  intro file isFile outside apart
  have notBelow : ¬ Path.isBelow file source := fun below => outside ⟨isFile, .inr below⟩
  have noImage : ∀ other ∈ tree.filesBelow source, file ≠ Path.image source target other := by
    intro other member
    have free := apart other ((fileOf_folder valid passes.folder).mpr member)
    rwa [Path.brought_of_isBelow (Tree.mem_filesBelow.mp member).2] at free
  rw [Tree.content?_pruned, if_neg notBelow, holds.elsewhere file noImage, content?_withFolders]

theorem Carried.brings_iff (carried : Transfer.move.Carried tree source target after)
    (fit : tree.Fit True) : Brings tree after source target ↔ ¬ Revisits tree source target := by
  cases carried with
  | still present same =>
    refine iff_of_true ?_ (not_revisits_file fit present)
    intro file member
    rw [(fileOf_file fit present).mp member, Path.brought_self, same]
  | file content other stored houses =>
    have present := Tree.hasFile_iff_content?.mpr ⟨content, stored⟩
    refine iff_of_true ?_ (not_revisits_file fit present)
    intro file member
    rw [(fileOf_file fit present).mp member, Path.brought_self, stored, if_pos rfl,
      Tree.content?_removeFile_of_ne other, houses.content?_writeFile]
  | folder copied passes holds =>
    rw [if_pos rfl, holds.removeDirectory passes]
    exact holds.brings_iff fit.valid passes

theorem Carried.spares (carried : Transfer.move.Carried tree source target after)
    (fit : tree.Fit True) : Spares tree after source target := by
  cases carried with
  | still _ _ => exact fun _ _ _ _ => rfl
  | file content other stored houses =>
    have present := Tree.hasFile_iff_content?.mpr ⟨content, stored⟩
    intro file isFile outside apart
    have notSource : file ≠ source := fun here => outside ((fileOf_file fit present).mpr here)
    have notTarget : file ≠ target := by
      have free := apart source ((fileOf_file fit present).mpr rfl)
      rwa [Path.brought_self] at free
    rw [if_pos rfl, Tree.content?_removeFile_of_ne notSource,
      Tree.content?_writeFile_of_ne content notTarget]
  | folder copied passes holds =>
    rw [if_pos rfl, holds.removeDirectory passes]
    exact holds.spares fit.valid passes

theorem Carried.not_revisits {transfer : Transfer}
    (carried : transfer.Carried tree source target after) (fit : tree.Fit True)
    (targetNormal : source ≠ "" → Path.Normal target) (apart : ¬ Path.isBelow source target) :
    ¬ Revisits tree source target := by
  cases carried with
  | still present _ => exact not_revisits_file fit present
  | file content _ stored _ =>
    exact not_revisits_file fit (Tree.hasFile_iff_content?.mpr ⟨content, stored⟩)
  | folder copied passes _ =>
    have stays := passes.not_isBelow_image fit.valid (targetNormal passes.source_ne_root) apart
    rintro ⟨file, member, again⟩
    exact stays file member again

theorem carried_of_silent {word destination : String} {transfer : Transfer} {reply : Reply}
    (valid : world.tree.Valid) (normal : Path.Normal ctx.cwd)
    (operands : ctx.operands = [word, destination])
    (answered : (transfer.run ctx world).1 = .ok reply) (silent : reply.output = "") :
    transfer.Carried world.tree (ctx.resolve word)
      ((Destination.ofWord ctx world.tree destination).target (ctx.resolve word))
      (transfer.run ctx world).2.tree := by
  rw [run_pair transfer operands] at answered ⊢
  rcases carried_one transfer (transfer = .move || ctx.hasFlag ["-r", "-R"])
    (.ofWord ctx world.tree destination) valid word
    (Destination.normal_target normal world.tree destination) with
    ⟨complaint, said, refused⟩ | ⟨after, done, carried⟩
  · rw [editing_report (congrArg report refused)] at answered
    cases answered
    exact absurd silent said
  · rw [editing_report (congrArg report done)]
    exact carried

end Transfer

/-- A quiet move of one source brings all its files along exactly when none of them lands in the
    source again, which only a move to a directory above the source makes possible; the other files
    are as they were in either case. -/
theorem mv_brings_iff {word destination : String} {reply : Reply}
    (valid : world.tree.issues = []) (closed : world.tree.Closed) (normal : Path.Normal ctx.cwd)
    (operands : ctx.operands = [word, destination]) (answered : (mv ctx world).1 = .ok reply)
    (silent : reply.output = "") :
    let source := ctx.resolve word
    let target := (Transfer.Destination.ofWord ctx world.tree destination).target source
    (Transfer.Brings world.tree (mv ctx world).2.tree source target ↔
        ¬ Transfer.Revisits world.tree source target) ∧
      (¬ Path.isBelow source target → ¬ Transfer.Revisits world.tree source target) ∧
      Transfer.Spares world.tree (mv ctx world).2.tree source target := by
  have fit : world.tree.Fit True := ⟨Tree.issues_eq_nil.mp valid, fun _ => closed⟩
  have carried := Transfer.carried_of_silent fit.valid normal operands answered silent
  refine ⟨carried.brings_iff fit, carried.not_revisits fit ?_, carried.spares fit⟩
  exact Transfer.Destination.normal_target normal world.tree destination

def merging : World where
  tree := ⟨["", "docs", "docs/guides", "src", "src/docs"],
    .ofList [("docs/guides/setup.md", "run"), ("src/docs/intro.md", "hi")]⟩
  clock := placeAndTime.clock
  sizes := ⟨#[], 0⟩

theorem mv_brings_merging :
    Transfer.Brings merging.tree (mv (rootContext "mv" ["docs", "src"]) merging).2.tree "docs"
        "src/docs" ∧
      Transfer.Spares merging.tree (mv (rootContext "mv" ["docs", "src"]) merging).2.tree "docs"
        "src/docs" := by
  have said : (mv (rootContext "mv" ["docs", "src"]) merging).1.toOption.map Reply.output =
      some "" := by decide +kernel
  have valid : merging.tree.issues = [] := by decide +kernel
  have closed : merging.tree.Closed := Tree.closed_iff.mpr (by decide +kernel)
  rcases answered : (mv (rootContext "mv" ["docs", "src"]) merging).1 with fault | reply
  · rw [answered] at said
    cases said
  · rw [answered] at said
    obtain ⟨brings, apart, spares⟩ := @mv_brings_iff (rootContext "mv" ["docs", "src"]) merging
      "docs" "src" reply valid closed (.inl rfl) (by decide) answered (Option.some.inj said)
    exact ⟨brings.mpr (apart (by decide)), spares⟩

def nested : World where
  tree := ⟨["", "a", "a/b", "a/b/a", "a/b/a/b", "a/b/a/b/a"], .ofList [("a/b/a/b/a/x", "1")]⟩
  clock := placeAndTime.clock
  sizes := ⟨#[], 0⟩

/-- The file lands in `a/b/a`, which is the source, and goes away with it. -/
theorem mv_loses_nested :
    nested.tree.issues = [] ∧ nested.tree.Closed ∧
      (mv (rootContext "mv" ["a/b/a", "/"]) nested).1.toOption.map Reply.output = some "" ∧
      (Transfer.Destination.ofWord (rootContext "mv" ["a/b/a", "/"]) nested.tree "/").target
        "a/b/a" = "a" ∧
      Transfer.FileOf nested.tree "a/b/a" "a/b/a/b/a/x" ∧
      nested.tree.content? "a/b/a/b/a/x" = some "1" ∧
      Path.brought "a/b/a" "a" "a/b/a/b/a/x" = "a/b/a/x" ∧
      (mv (rootContext "mv" ["a/b/a", "/"]) nested).2.tree.files.entries = [] := by
  refine ⟨by decide +kernel, Tree.closed_iff.mpr (by decide +kernel), by decide +kernel,
    by decide +kernel, ⟨by decide +kernel, .inr (by decide +kernel)⟩, by decide +kernel,
    by decide +kernel, by decide +kernel⟩

end TreeShell.Command
