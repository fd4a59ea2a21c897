import TreeShell.Proofs.Command.Edit

namespace TreeShell

def Tree.Marred (tree : Tree) : Prop := ∃ path, tree.hasDirectory path ∧ ¬ Path.Normal path

theorem Tree.Marred.not_valid {tree : Tree} (marred : tree.Marred) : ¬ tree.Valid := by
  obtain ⟨path, present, odd⟩ := marred
  exact fun valid => odd (valid.directoryNormal path present)

/-! ## Directories above -/

theorem Tree.Fit.hasDirectory_take {tree : Tree} (fit : tree.Fit True) {path : Path}
    {count : Nat} (bounded : count ≤ (Path.names path).length)
    (present : tree.hasDirectory (Path.ofSegments ((Path.names path).take count))) {fewer : Nat}
    (le : fewer ≤ count) : tree.hasDirectory (Path.ofSegments ((Path.names path).take fewer)) := by
  induction le with
  | refl => exact present
  | @step middle _ ih =>
    have nested : Path.ofSegments ((Path.names path).take (middle + 1)) ≠ "" := by
      intro root
      have listed := congrArg List.length (Path.names_take path (middle + 1))
      rw [root, Path.names_empty, List.length_nil, List.length_take] at listed
      omega
    have above := fit.closed trivial _ nested present
    rw [Path.parent_take (by omega)] at above
    exact ih (by omega) above

theorem Tree.Fit.hasDirectory_ancestors {tree : Tree} (fit : tree.Fit True) {path : Path}
    (normal : Path.Normal path) (housed : tree.hasDirectory (Path.parent path)) :
    ∀ ancestor ∈ Path.ancestors path, tree.hasDirectory ancestor := by
  intro ancestor member
  obtain ⟨count, _, bounded, rfl⟩ := Path.mem_ancestors member
  have whole := Path.Normal.ofSegments_names (Path.normal_parent normal)
  rw [Path.names_parent normal, List.dropLast_eq_take] at whole
  rw [← whole] at housed
  exact fit.hasDirectory_take (Nat.sub_le _ _) housed (by omega)

theorem Tree.Fit.hasDirectory_of_within {tree : Tree} (fit : tree.Fit True) {path top : Path}
    (present : tree.hasDirectory path) (normal : Path.Normal top) (within : Path.Within path top) :
    tree.hasDirectory top := by
  have whole := Path.Normal.ofSegments_names (fit.valid.directoryNormal path present)
  have taken : (Path.names path).take (Path.names top).length = Path.names top :=
    (List.prefix_iff_eq_take.mp within).symm
  rw [← whole, ← List.take_length (l := Path.names path)] at present
  have above := fit.hasDirectory_take (Nat.le_refl _) present within.length_le
  rwa [taken, Path.Normal.ofSegments_names normal] at above

theorem Tree.Fit.not_isBelow_file {tree : Tree} (fit : tree.Fit True) {file other : Path}
    (isFile : tree.hasFile file) (present : tree.hasFile other) : ¬ Path.isBelow other file := by
  intro below
  have normal : Path.Normal file := .inr (fit.valid.fileCanonical file isFile)
  have otherNormal : Path.Normal other := .inr (fit.valid.fileCanonical other present)
  have within := (Path.within_parent_iff otherNormal normal (Path.ne_empty_of_isBelow below)).mpr below
  exact fit.valid.oneKind file isFile
    (fit.hasDirectory_of_within (fit.valid.housed other present) normal within)

namespace Command

open TreeShell.Tree (Run)

variable {ctx : Context} {tree : Tree} {word : String}

/-! ## Files and directories that stay -/

theorem files_createAll (tree : Tree) (paths : List Path) :
    (createAll tree paths).files = tree.files := by
  induction paths generalizing tree with
  | nil => rfl
  | cons path rest ih =>
    rw [createAll, List.foldl_cons, ← createAll, ih]
    rcases tree.createDirectory_cases path with ⟨_, same⟩ | ⟨_, _, same⟩ <;> rw [same]

theorem hasFile_createAll (tree : Tree) (paths : List Path) (file : Path) :
    (createAll tree paths).hasFile file = tree.hasFile file := by
  rw [Tree.hasFile, files_createAll]
  rfl

theorem hasDirectory_createAll (tree : Tree) (paths : List Path) (directory : Path) :
    (createAll tree paths).hasDirectory directory ↔
      tree.hasDirectory directory ∨ directory ∈ paths ∧ ¬ tree.hasFile directory := by
  induction paths generalizing tree with
  | nil => simp [createAll]
  | cons path rest ih =>
    rw [createAll, List.foldl_cons, ← createAll, ih, Tree.hasDirectory_createDirectory,
      Tree.hasFile_createDirectory, List.mem_cons]
    constructor
    · rintro ((old | ⟨rfl, free⟩) | ⟨later, free⟩)
      · exact .inl old
      · exact .inr ⟨.inl rfl, free⟩
      · exact .inr ⟨.inr later, free⟩
    · rintro (old | ⟨rfl | later, free⟩)
      · exact .inl (.inl old)
      · exact .inl (.inr ⟨rfl, free⟩)
      · exact .inr ⟨later, free⟩

theorem hasFile_mkdirOne (ctx : Context) (parents : Bool) (tree : Tree) (word : String)
    (file : Path) : (mkdirOne ctx parents tree word).1.hasFile file = tree.hasFile file := by
  rcases mkdirOne_cases ctx parents tree word with ⟨⟨_, same⟩, _⟩ | ⟨_, _, same⟩ |
    ⟨_, _, _, same⟩ | ⟨_, _, _, same⟩ <;> rw [same]
  · rw [Tree.hasFile_createDirectory]
  · rw [hasFile_createAll]

theorem hasDirectory_mkdirOne {parents : Bool} {directory : Path}
    (present : tree.hasDirectory directory) :
    (mkdirOne ctx parents tree word).1.hasDirectory directory := by
  rcases mkdirOne_cases ctx parents tree word with ⟨⟨_, same⟩, _⟩ | ⟨_, _, same⟩ |
    ⟨_, _, _, same⟩ | ⟨_, _, _, same⟩ <;> rw [same]
  · exact present
  · exact present
  · rw [Tree.hasDirectory_createDirectory]
    exact .inl present
  · rw [hasDirectory_createAll]
    exact .inl present

theorem hasDirectory_of_mkdirOne {parents : Bool}
    (quiet : (mkdirOne ctx parents tree word).2 = none) :
    (mkdirOne ctx parents tree word).1.hasDirectory (ctx.resolve word) := by
  rcases mkdirOne_cases ctx parents tree word with ⟨⟨_, same⟩, _⟩ | ⟨_, present, same⟩ |
    ⟨_, isFile, _, same⟩ | ⟨_, _, free, same⟩ <;> rw [same] at quiet ⊢
  · cases quiet
  · exact present
  · rw [Tree.hasDirectory_createDirectory]
    exact .inr ⟨rfl, isFile⟩
  · have last := ctx.resolve_mem_way word
    rw [hasDirectory_createAll]
    exact .inr ⟨last, free _ last⟩

/-! ## One operand -/

theorem Context.Typed.normal_resolve (typed : ctx.Typed) (member : word ∈ ctx.args)
    (above : Path.Normal (Path.parent (ctx.resolve word))) : Path.Normal (ctx.resolve word) := by
  by_cases root : ctx.resolve word = ""
  · exact .inl root
  · exact .inr (Path.isCanonical_resolve (typed.filled word member) typed.relative root above)

theorem mkdirOne_quiet_iff (fit : tree.Fit True)
    (sane : Path.Normal (Path.parent (ctx.resolve word)) → Path.Normal (ctx.resolve word)) :
    (mkdirOne ctx true tree word).2 = none ↔ ctx.Free tree word := by
  have free (normal : Path.Normal (ctx.resolve word)) (isFile : ¬ tree.hasFile (ctx.resolve word))
      (housed : tree.hasDirectory (Path.parent (ctx.resolve word))) : ctx.Free tree word := by
    intro step inside
    rcases List.mem_append.mp inside with ancestor | last
    · intro blocked
      exact fit.valid.oneKind step blocked (fit.hasDirectory_ancestors normal housed step ancestor)
    · rw [List.mem_singleton.mp last]
      exact isFile
  rcases mkdirOne_cases ctx true tree word with ⟨⟨_, same⟩, refused⟩ | ⟨_, present, same⟩ |
    ⟨_, isFile, above, same⟩ | ⟨_, _, open_, same⟩ <;> rw [same]
  · constructor
    · intro quiet
      cases quiet
    · intro free
      exact absurd free (refused rfl)
  · have normal := fit.valid.directoryNormal _ present
    exact iff_of_true rfl (free normal (fun isFile => fit.valid.oneKind _ isFile present)
      (fit.hasDirectory_parent present))
  · have housed := fit.valid.hasDirectory_of_root_or above
    have normal := sane (fit.valid.directoryNormal _ housed)
    exact iff_of_true rfl (free normal isFile housed)
  · exact iff_of_true rfl open_

theorem mkdirOne_refused (refused : (mkdirOne ctx true tree word).2 ≠ none) :
    (mkdirOne ctx true tree word).1 = tree := by
  rcases mkdirOne_cases ctx true tree word with ⟨⟨_, same⟩, _⟩ | ⟨_, _, same⟩ |
    ⟨_, _, _, same⟩ | ⟨_, _, _, same⟩ <;> rw [same] at refused ⊢
  · exact absurd rfl refused
  · exact absurd rfl refused

/-! ## All operands -/

/-- Operands of `mkdir -p` of which a relative one is reached, with no file in its way or in that of
    the ones before it. -/
def Context.Reaching (ctx : Context) (tree : Tree) : List String → Prop
  | [] => False
  | word :: rest => ctx.Free tree word ∧ (¬ Path.Absolute word ∨ ctx.Reaching tree rest)

theorem Context.free_congr {other : Tree} (files : ∀ file, other.hasFile file = tree.hasFile file) :
    ctx.Free other word ↔ ctx.Free tree word := by
  simp only [Context.Free, files]

theorem Context.reaching_congr {other : Tree}
    (files : ∀ file, other.hasFile file = tree.hasFile file) (words : List String) :
    ctx.Reaching other words ↔ ctx.Reaching tree words := by
  induction words with
  | nil => exact Iff.rfl
  | cons word rest ih => simp only [Context.Reaching, Context.free_congr files, ih]

/-- In a directory that is not normal `mkdir -p` mars a fit tree just when it reaches a relative
    operand; otherwise the tree stays fit. -/
theorem mkdir_parents_mars (typed : ctx.Typed) (odd : ¬ Path.Normal ctx.cwd) (fit : tree.Fit True)
    (flag : "-p" ∈ ctx.args) {words : List String} (operands : ∀ word ∈ words, word ∈ ctx.operands)
    {result : OperandResult}
    (handled : eachOperand (fun tree word => .ok (mkdirOne ctx true tree word)) tree words =
      .ok result) :
    (ctx.Reaching tree words → result.1.Marred) ∧
      (¬ ctx.Reaching tree words → result.1.Fit True) := by
  induction words generalizing tree with
  | nil =>
    cases handled
    exact ⟨False.elim, fun _ => fit⟩
  | cons word rest ih =>
    have member := operands word (List.mem_cons_self ..)
    have inArgs := Context.mem_args_of_mem_operands member
    have quiet := mkdirOne_quiet_iff fit (typed.normal_resolve inArgs)
    have files (file : Path) := hasFile_mkdirOne ctx true tree word file
    rcases made : mkdirOne ctx true tree word with ⟨middle, complaint⟩
    simp only [eachOperand, made] at handled
    cases complaint with
    | some text =>
      have refused : (mkdirOne ctx true tree word).2 ≠ none := by simp [made]
      have same := mkdirOne_refused refused
      cases handled
      rw [made] at same
      have stuck : ¬ ctx.Reaching tree (word :: rest) := fun reaching =>
        refused (quiet.mpr reaching.1)
      exact ⟨fun reaching => absurd reaching stuck, fun _ => same ▸ fit⟩
    | none =>
      have silent : (mkdirOne ctx true tree word).2 = none := by simp [made]
      have free := quiet.mp silent
      -- An absolute operand goes as in any directory; a relative one decides.
      by_cases absolute : Path.Absolute word
      · have normal : Path.Normal (ctx.resolve word) :=
          (Path.normal_resolve_iff (typed.filled word inArgs) odd).mpr absolute
        have run : Run True (Makes ctx) tree (mkdirOne ctx true tree word).1 :=
          mkdirOne_run typed fit (fun _ => flag) member fun _ => normal
        have middleFit := run.fit fit
        rw [made] at middleFit files
        have later := ih middleFit (fun other inside => operands other (List.mem_cons_of_mem _ inside))
          handled
        rw [Context.reaching_congr files] at later
        have step : ctx.Reaching tree (word :: rest) ↔ ctx.Reaching tree rest := by
          simp [Context.Reaching, free, absolute]
        rw [step]
        exact later
      · have reaching : ctx.Reaching tree (word :: rest) := ⟨free, .inl absolute⟩
        refine ⟨fun _ => ?_, fun stuck => absurd reaching stuck⟩
        have present := hasDirectory_of_mkdirOne silent
        rw [made] at present
        let holds (tree : Tree) : Prop := tree.hasDirectory (ctx.resolve word)
        have here : holds middle := present
        have kept : holds result.1 := by
          refine eachOperand_keeps ?_ here handled
          rintro other _ before after there ⟨rfl⟩
          exact hasDirectory_mkdirOne there
        exact ⟨_, kept, fun normal =>
          absolute ((Path.normal_resolve_iff (typed.filled word inArgs) odd).mp normal)⟩

theorem mkdir_mars (typed : ctx.Typed) (odd : ¬ Path.Normal ctx.cwd) (flag : "-p" ∈ ctx.args)
    {world : World} (fit : world.tree.Fit True) :
    (ctx.Reaching world.tree ctx.operands → (mkdir ctx world).2.tree.Marred) ∧
      (¬ ctx.Reaching world.tree ctx.operands → (mkdir ctx world).2.tree.Fit True) := by
  have parents : ctx.hasFlag ["-p"] = true := hasFlag_parents.mpr flag
  unfold mkdir Handler.editing
  by_cases empty : ctx.operands.isEmpty
  · have none := List.isEmpty_iff.mp empty
    simp only [none, List.isEmpty_nil, if_true]
    exact ⟨False.elim, fun _ => fit⟩
  · simp only [if_neg empty, parents]
    obtain ⟨result, handled⟩ := answered_eachOperand
      (fun tree word => answered_ok (mkdirOne ctx true tree word)) world.tree ctx.operands
    rw [handled]
    exact mkdir_parents_mars typed odd fit flag (fun _ => id) handled

end Command

end TreeShell
