import TreeShell.Command.Transfer
import TreeShell.Proofs.Command.Edit
import TreeShell.Proofs.Sorting

namespace TreeShell.Command.Transfer

open TreeShell.Tree (Change Run)

variable {closed : Prop} {ctx : Context} {tree : Tree} {source target : Path}

/-! ## Landing -/

theorem landing_of_isBelow {path : Path} (below : Path.isBelow path source) :
    landing source target path = .ok (Path.image source target path) := by
  simp only [landing, Path.relativeTo, below, if_true]
  rfl

theorem stopAt_landing {path : Path} (below : Path.isBelow path source) (tree : Tree) :
    stopAt tree (landing source target path) = .ok (Path.image source target path) := by
  rw [landing_of_isBelow below]
  rfl

theorem stopAt_lookUp {path : Path} {content : String} (stored : tree.content? path = some content) :
    stopAt tree (tree.lookUp path) = .ok content := by
  rw [Tree.lookUp, stored]
  rfl

theorem firstTaken_eq {taken : Path → Bool} {paths : List Path}
    (below : ∀ path ∈ paths, Path.isBelow path source) :
    firstTaken source target taken paths =
      .ok ((paths.map (Path.image source target)).find? taken) := by
  induction paths with
  | nil => rfl
  | cons path rest ih =>
    have others := ih fun other member => below other (List.mem_cons_of_mem _ member)
    rw [firstTaken, landing_of_isBelow (below path (List.mem_cons_self ..)), List.map_cons,
      List.find?_cons]
    dsimp only [bind, Except.bind]
    cases taken (Path.image source target path) with
    | true => rfl
    | false => exact others

theorem conflict?_eq (tree : Tree) (source target : Path) :
    conflict? tree source target = .ok
      (((tree.directoriesBelow source).map (Path.image source target)).find? tree.hasFile <|>
        ((tree.filesBelow source).map (Path.image source target)).find? tree.hasDirectory) := by
  rw [conflict?, firstTaken_eq fun path member => (Tree.mem_directoriesBelow.mp member).2,
    firstTaken_eq fun path member => (Tree.mem_filesBelow.mp member).2]
  dsimp only [bind, Except.bind]
  cases ((tree.directoriesBelow source).map (Path.image source target)).find? tree.hasFile <;> rfl

theorem conflict?_eq_none_iff : conflict? tree source target = .ok none ↔
    (∀ folder ∈ tree.directoriesBelow source, ¬ tree.hasFile (Path.image source target folder)) ∧
      ∀ file ∈ tree.filesBelow source, ¬ tree.hasDirectory (Path.image source target file) := by
  rw [conflict?_eq, Except.ok.injEq, Option.orElse_eq_orElse, Option.orElse_eq_or,
    Option.or_eq_none_iff, List.find?_eq_none, List.find?_eq_none, List.forall_mem_map,
    List.forall_mem_map]

/-! ## Directories -/

theorem copyFolders_eq {folders : List Path}
    (below : ∀ folder ∈ folders, Path.isBelow folder source) :
    copyFolders source target tree folders =
      .ok (createAll tree (folders.map (Path.image source target))) := by
  induction folders generalizing tree with
  | nil => rfl
  | cons folder rest ih =>
    rw [copyFolders, stopAt_landing (below folder (List.mem_cons_self ..))]
    exact ih fun other member => below other (List.mem_cons_of_mem _ member)

theorem directoriesBelow_createDirectory (outside : ¬ Path.isBelow target source) :
    (tree.createDirectory target).2.directoriesBelow source = tree.directoriesBelow source := by
  rcases tree.createDirectory_cases target with ⟨_, same⟩ | ⟨_, _, same⟩
  · rw [same]
  · simp [same, Tree.directoriesBelow, List.filter_append, outside]

theorem directoriesBelow_pairwise (tree : Tree) (path : Path) :
    (tree.directoriesBelow path).Pairwise fun a b => decide (Path.depth a ≤ Path.depth b) := by
  apply Sorting.pairwise_sort
  · intro a b
    simpa using Nat.le_total (Path.depth a) (Path.depth b)
  · intro a b c first second
    simp only [decide_eq_true_eq] at first second ⊢
    omega

/-- The directory of each directory to copy lands before it, or is where the source lands. -/
theorem images_housed (fit : tree.Fit closed) (asked : closed) (sourceNormal : Path.Normal source)
    (targetNormal : Path.Normal target) {before after : List Path} {path : Path}
    (split : (tree.directoriesBelow source).map (Path.image source target) =
      before ++ path :: after) :
    Path.parent path = target ∨ Path.parent path ∈ before := by
  obtain ⟨early, late, whole, rfl, landed⟩ := List.map_eq_append_iff.mp split
  obtain ⟨folder, rest, rfl, rfl, _⟩ := List.map_eq_cons_iff.mp landed
  have member : folder ∈ tree.directoriesBelow source := by
    rw [whole]
    exact List.mem_append_right _ (List.mem_cons_self ..)
  obtain ⟨isDirectory, below⟩ := Tree.mem_directoriesBelow.mp member
  have nested := Path.ne_empty_of_isBelow below
  have normal := fit.valid.directoryNormal folder isDirectory
  rcases Path.parent_image below (Path.isCanonical_of_normal normal nested) sourceNormal
    targetNormal with top | ⟨above, same⟩
  · exact .inl top
  · right
    have filled := Path.ne_empty_of_isBelow above
    -- The copy goes from the top down, so what is less deep comes first.
    have shallower := Path.depth_parent_lt normal filled
    have listed : Path.parent folder ∈ tree.directoriesBelow source :=
      Tree.mem_directoriesBelow.mpr ⟨fit.closed asked folder nested isDirectory, above⟩
    rw [same]
    apply List.mem_map_of_mem
    apply Sorting.mem_of_not_le (directoriesBelow_pairwise tree source) whole listed
    · simp only [decide_eq_true_eq]
      omega
    · intro equal
      rw [equal] at shallower
      omega

/-! ## Copying -/

def AtOrBelow (top : Path) (change : Change) : Prop := Path.Within change.path top

theorem within_image {path : Path} : Path.Within (Path.image source target path) target :=
  Path.within_join _ _

theorem copyFiles_cons {file : Path} {rest : List Path} (below : Path.isBelow file source)
    {result : Bool × Tree} (copied : copyFiles source target tree (file :: rest) = .ok result) :
    ∃ content others, tree.content? file = some content ∧
      copyFiles source target (tree.writeFile (Path.image source target file) content).2 rest =
        .ok others ∧
      result = ((tree.writeFile (Path.image source target file) content).1 && others.1,
        others.2) := by
  rw [copyFiles, stopAt_landing below] at copied
  obtain ⟨_, ⟨rfl⟩, copied⟩ := bind_eq_ok.mp copied
  obtain ⟨content, found, copied⟩ := bind_eq_ok.mp copied
  have stored : tree.content? file = some content := by
    unfold stopAt Tree.lookUp at found
    cases there : tree.content? file with
    | none =>
      rw [there] at found
      cases found
    | some old =>
      rw [there] at found
      cases found
      rfl
  rcases tree.writeFile (Path.image source target file) content with ⟨written, after⟩
  obtain ⟨others, copiedRest, ⟨rfl⟩⟩ := bind_eq_ok.mp copied
  exact ⟨content, others, stored, copiedRest, rfl⟩

theorem copyFiles_run (canonical : Path.isCanonical target) {files : List Path}
    (below : ∀ file ∈ files, Path.isBelow file source) {result : Bool × Tree}
    (copied : copyFiles source target tree files = .ok result) :
    Run closed (AtOrBelow target) tree result.2 := by
  induction files generalizing tree result with
  | nil =>
    cases copied
    exact .refl
  | cons file rest ih =>
    obtain ⟨content, others, _, copiedRest, rfl⟩ :=
      copyFiles_cons (below file (List.mem_cons_self ..)) copied
    have filled := Path.ne_empty_of_isCanonical canonical
    have relative : ¬ Path.Absolute (Path.image source target file) := by
      rw [Path.image, Path.join_of_ne_empty filled, String.append_assoc,
        Path.absolute_append filled]
      exact Path.Normal.not_absolute (.inr canonical)
    have first : Run closed (AtOrBelow target) tree
        (tree.writeFile (Path.image source target file) content).2 :=
      Run.single (.writeFile (Path.image source target file) content) relative within_image
    have later : Run closed (AtOrBelow target) _ others.2 :=
      ih (fun other member => below other (List.mem_cons_of_mem _ member)) copiedRest
    exact first.trans later

theorem copyTree_run (fit : tree.Fit closed) (sourceNormal : Path.Normal source)
    (canonical : Path.isCanonical target) (outside : ¬ Path.isBelow target source)
    (housed : tree.hasDirectory (Path.parent target)) (free : ¬ tree.hasFile target)
    (clear : conflict? tree source target = .ok none) {result : Bool × Tree}
    (copied : copyTree tree source target = .ok result) :
    Run closed (AtOrBelow target) tree result.2 := by
  have first : Run closed (AtOrBelow target) tree (tree.createDirectory target).2 :=
    Run.single (.createDirectory target) ⟨canonical, fun _ => housed⟩ (Path.Within.refl target)
  have below : ∀ folder ∈ tree.directoriesBelow source, Path.isBelow folder source :=
    fun folder member => (Tree.mem_directoriesBelow.mp member).2
  rw [copyTree, directoriesBelow_createDirectory outside, copyFolders_eq below] at copied
  obtain ⟨_, ⟨rfl⟩, copied⟩ := bind_eq_ok.mp copied
  have folders : Run closed (AtOrBelow target) (tree.createDirectory target).2
      (createAll (tree.createDirectory target).2
        ((tree.directoriesBelow source).map (Path.image source target))) := by
    apply createAll_run
    · intro path member
      obtain ⟨folder, listed, rfl⟩ := List.mem_map.mp member
      obtain ⟨isDirectory, inside⟩ := Tree.mem_directoriesBelow.mp listed
      have nested := Path.ne_empty_of_isBelow inside
      exact Path.isCanonical_image inside
        (Path.isCanonical_of_normal (fit.valid.directoryNormal folder isDirectory) nested)
        (.inr canonical)
    · intro path member
      obtain ⟨folder, _, rfl⟩ := List.mem_map.mp member
      exact within_image
    · intro _ path member
      obtain ⟨folder, listed, rfl⟩ := List.mem_map.mp member
      rw [Tree.hasFile_createDirectory]
      exact (conflict?_eq_none_iff.mp clear).1 folder listed
    · intro asked before path after split
      rw [Tree.hasDirectory_createDirectory]
      rcases images_housed fit asked sourceNormal (.inr canonical) split with top | earlier
      · exact .inl (.inr ⟨top, free⟩)
      · exact .inr earlier
  exact (first.trans folders).trans (copyFiles_run canonical
    (fun file member => (Tree.mem_filesBelow.mp member).2) copied)

/-! ## One source -/

structure Destination.Meant (destination : Destination) (ctx : Context) : Prop where
  member : destination.word ∈ ctx.args
  path : destination.path = ctx.resolve destination.word
  normal : destination.isDirectory → Path.Normal destination.path
  nested : ¬ destination.isDirectory → destination.path ≠ ""

theorem Destination.meant (valid : tree.Valid) {word : String} (member : word ∈ ctx.args) :
    Destination.Meant ⟨word, ctx.resolve word, tree.hasDirectory (ctx.resolve word)⟩ ctx := by
  exact ⟨member, rfl, fun isDirectory => valid.directoryNormal _ isDirectory, valid.ne_root⟩

theorem Destination.Meant.reaches_target {destination : Destination} (meant : destination.Meant ctx)
    (source : Path) : ctx.Reaches (destination.target source) := by
  have named : ctx.Reaches destination.path := by
    rw [meant.path]
    exact Context.reaches_resolve meant.member
  unfold Destination.target
  split
  · exact named.of_within (Path.within_join _ _)
  · exact named

theorem Destination.Meant.not_absolute_target {destination : Destination}
    (meant : destination.Meant ctx) (typed : ctx.Typed) (canonical : Path.isCanonical source) :
    ¬ Path.Absolute (destination.target source) := by
  unfold Destination.target
  split
  · rename_i into
    have name := Path.Normal.isName_baseName (.inr canonical) (Path.ne_empty_of_isCanonical canonical)
    exact Path.Normal.not_absolute
      (.inr (Path.isCanonical_join (meant.normal into) (Path.isCanonical_of_isName name)))
  · rw [meant.path]
    exact Path.not_absolute_resolve typed.relative _

theorem Destination.Meant.isCanonical_target {destination : Destination}
    (meant : destination.Meant ctx) (typed : ctx.Typed) (canonical : Path.isCanonical source)
    (normal : Path.Normal (Path.parent (destination.target source))) :
    Path.isCanonical (destination.target source) := by
  unfold Destination.target at normal ⊢
  split at normal
  · rename_i into
    have name := Path.Normal.isName_baseName (.inr canonical) (Path.ne_empty_of_isCanonical canonical)
    rw [if_pos into]
    exact Path.isCanonical_join (meant.normal into) (Path.isCanonical_of_isName name)
  · rename_i alone
    have nested := meant.nested alone
    rw [if_neg alone]
    rw [meant.path] at nested normal ⊢
    exact Path.isCanonical_resolve (typed.filled _ meant.member) typed.relative nested normal

theorem file_cases (transfer : Transfer) (command : String) (destination : Destination)
    (present : tree.hasFile source) (target : Path) :
    Refused tree (transfer.file command destination tree source target) ∨
      target = source ∧ transfer.file command destination tree source target = .ok (tree, none) ∨
      ∃ content, target ≠ source ∧ tree.content? source = some content ∧ tree.Houses target ∧
        transfer.file command destination tree source target =
          .ok (if transfer = .move then ((tree.writeFile target content).2.removeFile source).2
            else (tree.writeFile target content).2, none) := by
  obtain ⟨content, stored⟩ := Tree.hasFile_iff_content?.mp present
  unfold Transfer.file
  split
  · exact .inl (refused_saying (by decide) _ _)
  split
  · rename_i same
    exact .inr (.inl ⟨same, rfl⟩)
  rename_i other
  rw [stopAt_lookUp stored]
  dsimp only [bind, Except.bind]
  rcases tree.writeFile_cases target content with refused | ⟨⟨filled, ends, free, housed⟩, written⟩
  · rw [refused]
    exact .inl (refused_saying (by decide) _ _)
  · refine .inr (.inr ⟨content, other, stored, ⟨filled, ends, free, housed⟩, ?_⟩)
    rw [written]
    rfl

/-- A subtree passes the checks that come before it is copied to a place. -/
structure Passes (tree : Tree) (source target : Path) : Prop where
  folder : tree.hasDirectory source
  other : target ≠ source
  outside : ¬ Path.isBelow target source
  free : ¬ tree.hasFile target
  housed : tree.hasDirectory (Path.parent target)
  clear : conflict? tree source target = .ok none

theorem Passes.source_ne_root (passes : Passes tree source target) : source ≠ "" := by
  rintro rfl
  exact passes.outside ((Path.isBelow_root target).mpr passes.other)

theorem intoItself_ne_empty (transfer : Transfer) (word target : String) :
    transfer.intoItself word target ≠ "" := by
  cases transfer <;> exact append_ne_empty (by decide) _

def finished (transfer : Transfer) (command : String) (destination : Destination) (word : String)
    (source : Path) : Bool × Tree → OperandResult
  | (false, tree) =>
    (tree, some s!"{command}: cannot copy directory '{word}' to '{destination.word}'")
  | (true, tree) => (if transfer = .move then (tree.removeDirectory source true).2 else tree, none)

theorem Passes.folder_eq (passes : Passes tree source target) (transfer : Transfer)
    (command : String) (destination : Destination) (word : String) :
    transfer.folder command destination tree word source target =
      (copyTree tree source target).map (transfer.finished command destination word source) := by
  have apart : ¬ (target = source ∨ Path.isBelow target source) := by
    simp [passes.other, passes.outside]
  have housed : ¬ (!tree.hasDirectory (Path.parent target)) := by simp [passes.housed]
  unfold Transfer.folder
  rw [if_neg apart, if_neg passes.free, if_neg housed, passes.clear]
  dsimp only [stopAt, Except.mapError, bind, Except.bind]
  cases copyTree tree source target with
  | error fault => rfl
  | ok outcome =>
    obtain ⟨complete, after⟩ := outcome
    cases complete <;> rfl

theorem refused_folder (transfer : Transfer) (command : String) (destination : Destination)
    (word : String) (present : tree.hasDirectory source) (stuck : ¬ Passes tree source target) :
    Refused tree (transfer.folder command destination tree word source target) := by
  unfold Transfer.folder
  split
  · exact ⟨_, intoItself_ne_empty transfer word destination.word, rfl⟩
  rename_i outside
  rw [not_or] at outside
  split
  · exact refused_saying (by decide) _ _
  rename_i free
  split
  · exact refused_saying (by decide) _ _
  rename_i housed
  rw [Bool.not_eq_true', Bool.not_eq_false] at housed
  obtain ⟨found, checked⟩ : ∃ found, conflict? tree source target = .ok found :=
    ⟨_, conflict?_eq tree source target⟩
  rw [checked]
  dsimp only [stopAt, Except.mapError, bind, Except.bind]
  cases found with
  | some conflict =>
    dsimp only
    split
    · exact refused_saying (by decide) _ _
    · exact refused_saying (by decide) _ _
  | none => exact absurd ⟨present, outside.1, outside.2, free, housed, checked⟩ stuck

theorem folder_cases (transfer : Transfer) (command : String) (destination : Destination)
    (word : String) (present : tree.hasDirectory source) (target : Path) :
    Refused tree (transfer.folder command destination tree word source target) ∨
      Passes tree source target ∧
        transfer.folder command destination tree word source target =
          (copyTree tree source target).map
            (transfer.finished command destination word source) := by
  by_cases passes : Passes tree source target
  · exact .inr ⟨passes, passes.folder_eq transfer command destination word⟩
  · exact .inl (refused_folder transfer command destination word present passes)

theorem file_run {transfer : Transfer} {command : String} {destination : Destination}
    (present : tree.hasFile source) (relative : ¬ Path.Absolute target)
    (reachesTarget : ctx.Reaches target) (reachesSource : ctx.Reaches source)
    {result : OperandResult}
    (transferred : transfer.file command destination tree source target = .ok result) :
    Run closed (ctx.Reaches ·.path) tree result.1 := by
  rcases file_cases transfer command destination present target with
    ⟨_, _, same⟩ | ⟨_, same⟩ | ⟨content, _, _, _, same⟩
  · rw [same] at transferred
    cases transferred
    exact .refl
  · rw [same] at transferred
    cases transferred
    exact .refl
  · have first : Run closed (ctx.Reaches ·.path) tree (tree.writeFile target content).2 :=
      Run.single (.writeFile target content) relative reachesTarget
    rw [same] at transferred
    cases transferred
    dsimp only
    split
    · exact first.trans (Run.single (.removeFile source) trivial reachesSource)
    · exact first

theorem folder_run {transfer : Transfer} {command : String} {destination : Destination}
    {word : String} (fit : tree.Fit closed) (present : tree.hasDirectory source)
    (canonical : Path.Normal (Path.parent target) → source ≠ "" → Path.isCanonical target)
    (reachesTarget : ctx.Reaches target) (reachesSource : ctx.Reaches source)
    {result : OperandResult}
    (transferred : transfer.folder command destination tree word source target = .ok result) :
    Run closed (ctx.Reaches ·.path) tree result.1 := by
  rcases folder_cases transfer command destination word present target with
    ⟨_, _, same⟩ | ⟨passes, same⟩
  · rw [same] at transferred
    cases transferred
    exact .refl
  rw [same] at transferred
  cases copied : copyTree tree source target with
  | error fault =>
    rw [copied] at transferred
    cases transferred
  | ok outcome =>
    obtain ⟨complete, after⟩ := outcome
    have copy := copyTree_run fit (fit.valid.directoryNormal _ present)
      (canonical (fit.valid.directoryNormal _ passes.housed) passes.source_ne_root) passes.outside
      passes.housed passes.free passes.clear copied
    have wide : Run closed (ctx.Reaches ·.path) tree after :=
      copy.mono fun change inside => reachesTarget.of_within inside
    rw [copied] at transferred
    cases transferred
    cases complete with
    | false => exact wide
    | true =>
      dsimp only [finished]
      split
      · exact wide.trans (Run.single (.removeDirectory source) trivial reachesSource)
      · exact wide

theorem one_run {transfer : Transfer} {recursive : Bool} {destination : Destination}
    (typed : ctx.Typed) (meant : destination.Meant ctx) (fit : tree.Fit closed) {word : String}
    (member : word ∈ ctx.args) {result : OperandResult}
    (transferred : transfer.one ctx recursive destination tree word = .ok result) :
    Run closed (ctx.Reaches ·.path) tree result.1 := by
  have reachesTarget := meant.reaches_target (ctx.resolve word)
  have reachesSource := Context.reaches_resolve member
  unfold Transfer.one at transferred
  dsimp only at transferred
  by_cases isFile : tree.hasFile (ctx.resolve word)
  · rw [if_pos isFile] at transferred
    exact file_run isFile (meant.not_absolute_target typed (fit.valid.fileCanonical _ isFile))
      reachesTarget reachesSource transferred
  rw [if_neg isFile] at transferred
  by_cases isDirectory : tree.hasDirectory (ctx.resolve word)
  · rw [if_pos isDirectory] at transferred
    have normal := fit.valid.directoryNormal _ isDirectory
    split at transferred
    · exact folder_run fit isDirectory
        (fun above nested => meant.isCanonical_target typed
          (Path.isCanonical_of_normal normal nested) above)
        reachesTarget reachesSource transferred
    · cases transferred
      exact .refl
  · rw [if_neg isDirectory] at transferred
    cases transferred
    exact .refl

/-! ## The command -/

theorem answered_copyFiles {source target : Path} {tree : Tree} {files : List Path}
    (listed : ∀ file ∈ files, tree.hasFile file ∧ Path.isBelow file source) :
    Answered (copyFiles source target tree files) := by
  induction files generalizing tree with
  | nil => exact answered_ok _
  | cons file rest ih =>
    obtain ⟨present, below⟩ := listed file (List.mem_cons_self ..)
    obtain ⟨content, stored⟩ := Tree.hasFile_iff_content?.mp present
    rw [copyFiles, stopAt_landing below, stopAt_lookUp stored]
    refine (answered_ok _).bind fun image => (answered_ok _).bind fun content => ?_
    -- Files that are still to be copied stay while others are written.
    have others : Answered (copyFiles source target (tree.writeFile image content).2 rest) := by
      apply ih
      intro other member
      obtain ⟨stored, inside⟩ := listed other (List.mem_cons_of_mem _ member)
      exact ⟨Tree.hasFile_writeFile content stored, inside⟩
    exact others.bind fun _ => answered_ok _

theorem answered_copyTree (tree : Tree) (source target : Path) :
    Answered (copyTree tree source target) := by
  have below : ∀ folder ∈ (tree.createDirectory target).2.directoriesBelow source,
      Path.isBelow folder source := fun folder member => (Tree.mem_directoriesBelow.mp member).2
  rw [copyTree, copyFolders_eq below]
  refine (answered_ok _).bind fun copied => ?_
  exact answered_copyFiles fun file member => Tree.mem_filesBelow.mp member

theorem answered_file {transfer : Transfer} {command : String} {destination : Destination}
    {tree : Tree} {source target : Path} (present : tree.hasFile source) :
    Answered (transfer.file command destination tree source target) := by
  rcases file_cases transfer command destination present target with
    refused | ⟨_, same⟩ | ⟨_, _, _, _, same⟩
  · exact refused.answered
  · exact ⟨_, same⟩
  · exact ⟨_, same⟩

theorem answered_folder {transfer : Transfer} {command : String} {destination : Destination}
    {tree : Tree} {word : String} {source target : Path} (present : tree.hasDirectory source) :
    Answered (transfer.folder command destination tree word source target) := by
  rcases folder_cases transfer command destination word present target with refused | ⟨_, same⟩
  · exact refused.answered
  · rw [same]
    exact (answered_copyTree tree source target).map _

theorem answered_one (transfer : Transfer) (ctx : Context) (recursive : Bool)
    (destination : Destination) (tree : Tree) (word : String) :
    Answered (transfer.one ctx recursive destination tree word) := by
  unfold one
  dsimp only
  split
  · rename_i present
    exact answered_file present
  split
  · rename_i present
    split
    · exact answered_folder present
    · exact answered_ok _
  · exact answered_ok _

theorem answered_edit (transfer : Transfer) (ctx : Context) (tree : Tree) :
    Answered (transfer.edit ctx tree) := by
  unfold edit
  split
  · exact answered_ok _
  · exact answered_ok _
  · exact answered_operands (answered_eachOperand (answered_one transfer ctx _ _) ..)

theorem run_run {transfer : Transfer} (typed : ctx.Typed) {world : World}
    (fit : world.tree.Fit closed) :
    Run closed (ctx.Reaches ·.path) world.tree (transfer.run ctx world).2.tree := by
  refine editing_run (answered_edit transfer ctx world.tree) ?_
  intro after reply handled
  unfold edit at handled
  split at handled
  · cases handled
    exact .refl
  · cases handled
    exact .refl
  rename_i first second rest operands
  dsimp only at handled
  split at handled
  · cases handled
    exact .refl
  obtain ⟨complaint, handled⟩ := report_eq_ok handled
  have inArgs {word : String} (member : word ∈ first :: second :: rest) : word ∈ ctx.args :=
    Context.mem_args_of_mem_operands (operands ▸ member)
  have last : (first :: second :: rest).getLastD "" ∈ first :: second :: rest := by
    have filled : first :: second :: rest ≠ [] := List.cons_ne_nil _ _
    rw [List.getLastD_eq_getLast?, List.getLast?_eq_some_getLast filled]
    exact List.getLast_mem filled
  have meant := Destination.meant fit.valid (inArgs last)
  refine eachOperand_run ?_ fit handled
  intro word member middle result middleFit transferred
  exact one_run typed meant middleFit (inArgs (List.dropLast_subset _ member)) transferred

end TreeShell.Command.Transfer
