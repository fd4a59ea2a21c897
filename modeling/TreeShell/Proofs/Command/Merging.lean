import TreeShell.Proofs.Command.Single

namespace TreeShell.Command

variable {ctx : Context} {world : World} {tree : Tree} {source target : Path} {word : String}

namespace Transfer

/-- A subtree can be copied to a place: the place is no file and its directory is there, and what is
    there already is of the same kind as what comes. -/
structure Clear (tree : Tree) (source target : Path) : Prop where
  free : ¬ tree.hasFile target
  housed : tree.hasDirectory (Path.parent target)
  folders : ∀ rest, tree.hasDirectory (Path.join source rest) →
    ¬ tree.hasFile (Path.join target rest)
  files : ∀ rest, tree.hasFile (Path.join source rest) →
    ¬ tree.hasDirectory (Path.join target rest)

/-- All that lies below a source has been copied to a place, and there is no other change. -/
structure Merged (before after : Tree) (source target : Path) : Prop where
  once : after.directories.Nodup
  directories : ∀ path, after.hasDirectory path ↔ before.hasDirectory path ∨ path = target ∨
    ∃ rest, before.hasDirectory (Path.join source rest) ∧ path = Path.join target rest
  images : ∀ rest, before.hasFile (Path.join source rest) →
    after.content? (Path.join target rest) = before.content? (Path.join source rest)
  others : ∀ path, (∀ rest, before.hasFile (Path.join source rest) → path ≠ Path.join target rest) →
    after.content? path = before.content? path
  kept : ∀ path, Path.isBelow path source → after.content? path = before.content? path

theorem conflict?_eq_none_iff_join (tree : Tree) (nested : source ≠ "") (target : Path) :
    conflict? tree source target = .ok none ↔
      (∀ rest, tree.hasDirectory (Path.join source rest) →
        ¬ tree.hasFile (Path.join target rest)) ∧
      ∀ rest, tree.hasFile (Path.join source rest) →
        ¬ tree.hasDirectory (Path.join target rest) := by
  simp only [conflict?_eq_none_iff, Tree.mem_directoriesBelow, Tree.mem_filesBelow]
  exact and_congr
    (Path.forall_image_iff nested target (tree.hasDirectory · = true) (¬ tree.hasFile · = true))
    (Path.forall_image_iff nested target (tree.hasFile · = true) (¬ tree.hasDirectory · = true))

theorem passes_iff_clear (folder : tree.hasDirectory source) (nested : source ≠ "")
    (other : target ≠ source) (outside : ¬ Path.isBelow target source) :
    Passes tree source target ↔ Clear tree source target := by
  have checked := conflict?_eq_none_iff_join tree nested target
  constructor
  · intro passes
    obtain ⟨folders, files⟩ := checked.mp passes.clear
    exact ⟨passes.free, passes.housed, folders, files⟩
  · intro clear
    exact ⟨folder, other, outside, clear.free, clear.housed,
      checked.mpr ⟨clear.folders, clear.files⟩⟩

theorem Passes.hasDirectory_withFolders_join (passes : Passes tree source target) (path : Path) :
    (withFolders tree source target).hasDirectory path ↔
      tree.hasDirectory path ∨ path = target ∨
        ∃ rest, tree.hasDirectory (Path.join source rest) ∧ path = Path.join target rest := by
  rw [passes.hasDirectory_withFolders]
  refine or_congr_right (or_congr_right ?_)
  simp only [Tree.mem_directoriesBelow, Path.isBelow_iff_join passes.source_ne_root]
  constructor
  · rintro ⟨_, ⟨present, rest, rfl⟩, same⟩
    exact ⟨rest, present, same.trans (Path.image_join source target rest)⟩
  · rintro ⟨rest, present, same⟩
    exact ⟨_, ⟨present, rest, rfl⟩, same.trans (Path.image_join source target rest).symm⟩

theorem Copied.merged {copied : Tree} (valid : tree.Valid) (passes : Passes tree source target)
    (normal : Path.Normal target) (apart : ¬ Path.isBelow source target)
    (once : copied.directories.Nodup)
    (holds : Copied source target (tree.filesBelow source) (withFolders tree source target)
      copied) : Merged tree copied source target := by
  have stays := passes.not_isBelow_image valid normal apart
  have nested := passes.source_ne_root
  have elsewhere (path : Path)
      (free : ∀ file ∈ tree.filesBelow source, path ≠ Path.image source target file) :
      copied.content? path = tree.content? path := by
    rw [holds.elsewhere path free, content?_withFolders]
  refine ⟨once, ?_, ?_, ?_, ?_⟩
  · intro path
    rw [Tree.hasDirectory, holds.directories]
    exact passes.hasDirectory_withFolders_join path
  · intro rest present
    have member : Path.join source rest ∈ tree.filesBelow source :=
      Tree.mem_filesBelow.mpr ⟨present, (Path.isBelow_iff_join nested).mpr ⟨rest, rfl⟩⟩
    have landed := holds.images stays _ member
    rwa [Path.image_join, content?_withFolders] at landed
  · intro path free
    apply elsewhere
    intro file member
    obtain ⟨present, below⟩ := Tree.mem_filesBelow.mp member
    obtain ⟨rest, rfl⟩ := (Path.isBelow_iff_join nested).mp below
    rw [Path.image_join]
    exact free rest present
  · intro path below
    apply elsewhere
    rintro file member rfl
    exact stays file member below

theorem Passes.copyTree_merged (passes : Passes tree source target) (valid : tree.Valid)
    (normal : Path.Normal target) (apart : ¬ Path.isBelow source target) :
    ∃ after, Transfer.copyTree tree source target = .ok (true, after) ∧
      Merged tree after source target := by
  obtain ⟨after, copied, holds⟩ := passes.copyTree valid normal
  have filled : target ≠ "" := by
    rintro rfl
    exact apart ((Path.isBelow_root source).mpr passes.source_ne_root)
  have fit : tree.Fit False := ⟨valid, False.elim⟩
  have run := copyTree_run fit (valid.directoryNormal source passes.folder)
    (Path.isCanonical_of_normal normal filled) passes.outside passes.housed passes.free passes.clear
    copied
  exact ⟨after, copied, holds.merged valid passes normal apart (run.fit fit).valid.once⟩

theorem one_of_hasDirectory (transfer : Transfer) (destination : Destination) (valid : tree.Valid)
    (present : tree.hasDirectory (ctx.resolve word)) :
    transfer.one ctx true destination tree word =
      transfer.folder ctx.name destination tree word (ctx.resolve word)
        (destination.target (ctx.resolve word)) := by
  have noFile : ¬ tree.hasFile (ctx.resolve word) :=
    fun isFile => valid.oneKind _ isFile present
  unfold one
  dsimp only
  rw [if_neg noFile, if_pos present, if_pos rfl]

end Transfer

/-- A recursive copy of a directory, to a place that is neither the directory nor above or below it,
    is quiet exactly when nothing is in its way. Then it has merged the directory into the place. -/
theorem cp_merges_exactly {destination : String} (valid : world.tree.issues = [])
    (normal : Path.Normal ctx.cwd) (operands : ctx.operands = [word, destination])
    (recursive : ctx.hasFlag ["-r", "-R"]) (sourced : ctx.resolve word = source)
    (folder : world.tree.hasDirectory source)
    (aimed : (Transfer.Destination.ofWord ctx world.tree destination).target source = target)
    (other : target ≠ source) (outside : ¬ Path.isBelow target source)
    (apart : ¬ Path.isBelow source target) :
    ∃ reply, (cp ctx world).1 = .ok reply ∧
      (reply.output = "" ↔ Transfer.Clear world.tree source target) ∧
      (reply.output = "" → Transfer.Merged world.tree (cp ctx world).2.tree source target) := by
  have sound := Tree.issues_eq_nil.mp valid
  have nested : source ≠ "" := by
    rintro rfl
    exact outside ((Path.isBelow_root target).mpr other)
  have landing : Path.Normal target := by
    rw [← aimed, ← sourced]
    exact Transfer.Destination.normal_target normal world.tree destination (by rwa [sourced])
  have clear := Transfer.passes_iff_clear folder nested other outside
  have one : Transfer.copy.one ctx (ctx.hasFlag ["-r", "-R"])
      (.ofWord ctx world.tree destination) world.tree word =
      Transfer.copy.folder ctx.name (.ofWord ctx world.tree destination) world.tree word source
        target := by
    rw [recursive, Transfer.one_of_hasDirectory .copy _ sound (by rwa [sourced]), sourced, aimed]
  have run : cp ctx world = Handler.editing (fun ctx tree => report (Transfer.copy.one ctx
      (ctx.hasFlag ["-r", "-R"]) (.ofWord ctx tree destination) tree word)) ctx world :=
    Transfer.run_pair .copy operands world
  rw [run, ← clear]
  by_cases passes : Transfer.Passes world.tree source target
  · obtain ⟨after, copied, merged⟩ := passes.copyTree_merged sound landing apart
    rw [passes.folder_eq, copied] at one
    rw [editing_report (congrArg report one)]
    exact ⟨_, rfl, iff_of_true rfl passes, fun _ => merged⟩
  · obtain ⟨complaint, said, refused⟩ := Transfer.refused_folder .copy ctx.name
      (.ofWord ctx world.tree destination) word folder passes
    rw [refused] at one
    rw [editing_report (congrArg report one)]
    exact ⟨_, rfl, iff_of_false said passes, fun silent => absurd silent said⟩

def overlaid : World where
  tree := ⟨["", "docs", "docs/guides", "src", "src/docs", "src/docs/guides"],
    .ofList [("docs/intro.md", "new"), ("docs/guides/setup.md", "run"),
      ("src/docs/intro.md", "old"), ("src/docs/guides/style.md", "hi")]⟩
  clock := placeAndTime.clock
  sizes := ⟨#[], 0⟩

theorem cp_merges_exactly_overlaid :
    Transfer.Clear overlaid.tree "docs" "src/docs" ∧
      Transfer.Merged overlaid.tree (cp (rootContext "cp" ["-r", "docs", "src"]) overlaid).2.tree
        "docs" "src/docs" := by
  have said : (cp (rootContext "cp" ["-r", "docs", "src"]) overlaid).1.toOption.map Reply.output =
      some "" := by decide +kernel
  obtain ⟨reply, answered, silent, merged⟩ := @cp_merges_exactly
    (rootContext "cp" ["-r", "docs", "src"]) overlaid "docs" "src/docs" "docs" "src"
    (by decide +kernel) (.inl rfl) (by decide) (by decide) (by decide +kernel) (by decide +kernel)
    (by decide +kernel) (by decide) (by decide) (by decide)
  rw [answered] at said
  have quiet : reply.output = "" := Option.some.inj said
  exact ⟨silent.mp quiet, merged quiet⟩

end TreeShell.Command
