import TreeShell.Command.Edit
import TreeShell.Proofs.Command.Operands

namespace TreeShell.Command

open TreeShell.Tree (Change Run)

variable {closed : Prop} {ctx : Context} {tree : Tree}

theorem touchOne_run (typed : ctx.Typed) {word : String} (member : word ∈ ctx.args) :
    Run closed (ctx.Reaches ·.path) tree (touchOne ctx tree word).1 := by
  unfold touchOne
  dsimp only
  split
  · exact .refl
  · split
    · exact .refl
    · rcases tree.createFile_cases (ctx.resolve word) "" with same | ⟨_, same⟩
      · rw [same]
        exact .refl
      · rw [same]
        exact Run.single (.writeFile (ctx.resolve word) "")
          (Path.not_absolute_resolve typed.relative word) (Context.reaches_resolve member)

theorem touch_run (typed : ctx.Typed) {world : World} (fit : world.tree.Fit closed) :
    Run closed (ctx.Reaches ·.path) world.tree (touch ctx world).2.tree := by
  apply editing_run
    (answered_operands (answered_eachOperand (fun _ _ => answered_ok _) world.tree _))
  intro after reply handled
  split at handled
  · cases handled
    exact .refl
  · obtain ⟨complaint, handled⟩ := report_eq_ok handled
    refine eachOperand_run ?_ fit handled
    rintro word member middle result _ ⟨rfl⟩
    exact touchOne_run typed member

theorem createAll_run {kind : Change → Prop} {paths : List Path}
    (canonical : ∀ path ∈ paths, Path.isCanonical path)
    (member : ∀ path ∈ paths, kind (.createDirectory path))
    (free : closed → ∀ path ∈ paths, ¬ tree.hasFile path)
    (housed : closed → ∀ before path after, paths = before ++ path :: after →
      tree.hasDirectory (Path.parent path) ∨ Path.parent path ∈ before) :
    Run closed kind tree (createAll tree paths) := by
  induction paths generalizing tree with
  | nil => exact .refl
  | cons path rest ih =>
    have first : Run closed kind tree (tree.createDirectory path).2 := by
      refine Run.single (.createDirectory path)
        ⟨canonical path (List.mem_cons_self ..), ?_⟩ (member path (List.mem_cons_self ..))
      intro asked
      rcases housed asked [] path rest rfl with above | above
      · exact above
      · cases above
    refine first.trans (ih (fun other inside => canonical other (List.mem_cons_of_mem _ inside))
      (fun other inside => member other (List.mem_cons_of_mem _ inside)) ?_ ?_)
    · intro asked other inside
      rw [Tree.hasFile_createDirectory]
      exact free asked other (List.mem_cons_of_mem _ inside)
    · intro asked before other after split
      rw [Tree.hasDirectory_createDirectory]
      rcases housed asked (path :: before) other after (by rw [split]; rfl) with above | above
      · exact .inl (.inl above)
      · rcases List.mem_cons.mp above with same | above
        · rw [same]
          exact .inl (.inr ⟨rfl, free asked path (List.mem_cons_self ..)⟩)
        · exact .inr above

def Makes (ctx : Context) (change : Change) : Prop :=
  ∃ path, change = .createDirectory path ∧
    (ctx.Reaches path ∨ "-p" ∈ ctx.args ∧ ctx.ReachesAbove path)

theorem hasFlag_parents : ctx.hasFlag ["-p"] ↔ "-p" ∈ ctx.args := by simp [Context.hasFlag]

def Context.way (ctx : Context) (word : String) : List Path :=
  Path.ancestors (ctx.resolve word) ++ [ctx.resolve word]

theorem Context.resolve_mem_way (ctx : Context) (word : String) :
    ctx.resolve word ∈ ctx.way word := List.mem_append_right _ (List.mem_cons_self ..)

/-- Whether no file stands in the way to what an operand names. -/
def Context.Free (ctx : Context) (tree : Tree) (word : String) : Prop :=
  ∀ step ∈ ctx.way word, ¬ tree.hasFile step

theorem mkdirOne_cases (ctx : Context) (parents : Bool) (tree : Tree) (word : String) :
    (∃ complaint, mkdirOne ctx parents tree word = (tree, some complaint)) ∧
        (parents → ¬ ctx.Free tree word) ∨
      parents ∧ tree.hasDirectory (ctx.resolve word) ∧ mkdirOne ctx parents tree word = (tree, none) ∨
      ¬ tree.hasDirectory (ctx.resolve word) ∧ ¬ tree.hasFile (ctx.resolve word) ∧
        (Path.parent (ctx.resolve word) = "" ∨
          tree.hasDirectory (Path.parent (ctx.resolve word))) ∧
        mkdirOne ctx parents tree word = ((tree.createDirectory (ctx.resolve word)).2, none) ∨
      parents ∧ ¬ tree.hasDirectory (ctx.resolve word) ∧ ctx.Free tree word ∧
        mkdirOne ctx parents tree word = (createAll tree (ctx.way word), none) := by
  unfold mkdirOne
  dsimp only
  by_cases isDirectory : tree.hasDirectory (ctx.resolve word)
  · rw [if_pos isDirectory]
    cases parents with
    | true => exact .inr (.inl ⟨rfl, isDirectory, rfl⟩)
    | false => exact .inl ⟨⟨_, rfl⟩, nofun⟩
  rw [if_neg isDirectory]
  by_cases isFile : tree.hasFile (ctx.resolve word)
  · rw [if_pos isFile]
    exact .inl ⟨⟨_, rfl⟩, fun _ free => free _ (ctx.resolve_mem_way word) isFile⟩
  rw [if_neg isFile]
  by_cases above : Path.parent (ctx.resolve word) = "" ∨
      tree.hasDirectory (Path.parent (ctx.resolve word))
  · rw [if_pos above]
    exact .inr (.inr (.inl ⟨isDirectory, isFile, above, rfl⟩))
  rw [if_neg above]
  cases parents with
  | false => exact .inl ⟨⟨_, rfl⟩, nofun⟩
  | true =>
    by_cases blocked : (Path.ancestors (ctx.resolve word) ++ [ctx.resolve word]).any tree.hasFile
    · simp only [Bool.not_true, Bool.false_eq_true, if_false, if_pos blocked]
      obtain ⟨step, inside, isFile⟩ := List.any_eq_true.mp blocked
      exact .inl ⟨⟨_, rfl⟩, fun _ free => free step inside isFile⟩
    · simp only [Bool.not_true, Bool.false_eq_true, if_false, if_neg blocked]
      have free : ctx.Free tree word :=
        fun step inside isFile => blocked (List.any_eq_true.mpr ⟨step, inside, isFile⟩)
      exact .inr (.inr (.inr ⟨trivial, isDirectory, free, rfl⟩))

theorem mkdirOne_run (typed : ctx.Typed) (fit : tree.Fit closed) {parents : Bool}
    (flag : parents → "-p" ∈ ctx.args) {word : String} (member : word ∈ ctx.operands)
    (normal : parents → Path.Normal (ctx.resolve word)) :
    Run closed (Makes ctx) tree (mkdirOne ctx parents tree word).1 := by
  have inArgs := Context.mem_args_of_mem_operands member
  have reached := Context.reaches_resolve inArgs
  rcases mkdirOne_cases ctx parents tree word with ⟨⟨_, same⟩, _⟩ | ⟨_, _, same⟩ |
    ⟨isDirectory, _, above, same⟩ | ⟨asked, isDirectory, free, same⟩
  · rw [same]
    exact .refl
  · rw [same]
    exact .refl
  · have housed := fit.valid.hasDirectory_of_root_or above
    have canonical := Path.isCanonical_resolve (typed.filled word inArgs) typed.relative
      (fit.valid.ne_root isDirectory) (fit.valid.directoryNormal _ housed)
    rw [same]
    exact Run.single (.createDirectory (ctx.resolve word)) ⟨canonical, fun _ => housed⟩
      ⟨_, rfl, .inl reached⟩
  · have canonical := Path.isCanonical_of_normal (normal asked) (fit.valid.ne_root isDirectory)
    rw [same]
    apply createAll_run
    · intro step inside
      rcases List.mem_append.mp inside with ancestor | last
      · exact Path.isCanonical_of_mem_ancestors ancestor
      · rw [List.mem_singleton.mp last]
        exact canonical
    · intro step inside
      refine ⟨step, rfl, ?_⟩
      rcases List.mem_append.mp inside with ancestor | last
      · exact .inr ⟨flag asked, word, member, ancestor⟩
      · rw [List.mem_singleton.mp last]
        exact .inl reached
    · intro _ step inside
      exact free step inside
    · intro _ before step after way
      rcases Path.parent_mem_of_ancestors canonical way with top | earlier
      · left
        rw [top]
        exact fit.valid.root
      · exact .inr earlier

theorem mkdir_run (typed : ctx.Typed) {world : World} (fit : world.tree.Fit closed)
    (normal : "-p" ∈ ctx.args → ∀ word ∈ ctx.operands, Path.Normal (ctx.resolve word)) :
    Run closed (Makes ctx) world.tree (mkdir ctx world).2.tree := by
  apply editing_run
    (answered_operands (answered_eachOperand (fun _ _ => answered_ok _) world.tree _))
  intro after reply handled
  split at handled
  · cases handled
    exact .refl
  · obtain ⟨complaint, handled⟩ := report_eq_ok handled
    refine eachOperand_run ?_ fit handled
    rintro word member middle result fit ⟨rfl⟩
    exact mkdirOne_run typed fit hasFlag_parents.mp member
      fun parents => normal (hasFlag_parents.mp parents) word member

theorem rmOne_run {recursive force : Bool} {word : String} (member : word ∈ ctx.operands) :
    Run closed (ctx.Reaches ·.path) tree (rmOne ctx recursive force tree word).1 := by
  have reached := Context.reaches_resolve (Context.mem_args_of_mem_operands member)
  unfold rmOne
  dsimp only
  by_cases isFile : tree.hasFile (ctx.resolve word)
  · rw [if_pos isFile]
    exact Run.single (.removeFile (ctx.resolve word)) trivial reached
  rw [if_neg isFile]
  by_cases isDirectory : tree.hasDirectory (ctx.resolve word)
  · rw [if_pos isDirectory]
    split
    · exact .refl
    · split
      · exact .refl
      · exact Run.single (.removeDirectory (ctx.resolve word)) trivial reached
  · rw [if_neg isDirectory]
    split <;> exact .refl

theorem rm_run {world : World} (fit : world.tree.Fit closed) :
    Run closed (ctx.Reaches ·.path) world.tree (rm ctx world).2.tree := by
  apply editing_run
    (answered_operands (answered_eachOperand (fun _ _ => answered_ok _) world.tree _))
  intro after reply handled
  split at handled
  · cases handled
    exact .refl
  · obtain ⟨complaint, handled⟩ := report_eq_ok handled
    refine eachOperand_run ?_ fit handled
    rintro word member middle result _ ⟨rfl⟩
    exact rmOne_run member

end TreeShell.Command
