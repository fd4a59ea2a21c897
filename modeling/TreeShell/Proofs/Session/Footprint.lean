import TreeShell.Proofs.Session.Sound

namespace TreeShell

open Command (Context)
open TreeShell.Tree (Change Run)

namespace Builtin

def editors : List Builtin := [touch, mkdir, rm, cp, mv]

def editorNames : List String := editors.map Builtin.name

theorem mem_editors_of_edits {builtin : Builtin} {ctx : Context} {change : Change}
    (edits : builtin.Edits ctx change) : builtin ∈ editors := by
  cases builtin <;> first | decide | exact absurd edits id

theorem edits_cases {builtin : Builtin} {ctx : Context} {change : Change}
    (edits : builtin.Edits ctx change) :
    ctx.Reaches change.path ∨
      builtin = mkdir ∧ "-p" ∈ ctx.args ∧ ctx.ReachesAbove change.path ∧ ¬ ctx.Reaches change.path ∧
        change = .createDirectory change.path := by
  cases builtin with
  | mkdir =>
    obtain ⟨path, rfl, reached | ⟨flag, above⟩⟩ := edits
    · exact .inl reached
    · by_cases reached : ctx.Reaches path
      · exact .inl reached
      · exact .inr ⟨rfl, flag, above, reached, rfl⟩
  | touch => exact .inl edits
  | rm => exact .inl edits
  | cp => exact .inl edits
  | mv => exact .inl edits
  | _ => exact absurd edits id

theorem creates_of_edits {ctx : Context} {change : Change} (edits : mkdir.Edits ctx change) :
    ∃ path, change = .createDirectory path := by
  obtain ⟨path, same, _⟩ := edits
  exact ⟨path, same⟩

end Builtin

namespace Session

def Targets (session : Session) (line : String) (directory : Option Path) (path : Path) : Prop :=
  ∃ redirection, (Invocation.parse line).redirection = some redirection ∧
    path = Path.resolve redirection.target (session.place directory)

variable {session : Session} {line : String} {directory : Option Path} {path : Path}

theorem node?_execute (untargeted : ¬ session.Targets line directory path) :
    (session.execute line directory).2.tree.node? path =
      (session.afterCommand line directory).tree.node? path := by
  rcases session.execute_tree line directory with same | ⟨redirection, content, redirected, same⟩
  · rw [same]
  · have untouched : ¬ (Change.writeFile (Path.resolve redirection.target
        (session.place directory)) content).Touches path := by
      intro target
      exact untargeted ⟨redirection, redirected, target⟩
    rw [same]
    exact Change.node?_apply untouched _

theorem afterCommand_footprint (stocked : session.registry = Builtin.registry Builtin.run)
    (valid : session.tree.Valid) (normal : Path.Normal (session.place directory))
    (different : (session.afterCommand line directory).tree.node? path ≠ session.tree.node? path) :
    (Invocation.parse line).name ∈ Builtin.editorNames ∧
        (session.lineContext line directory).Reaches path ∨
      (Invocation.parse line).name = Builtin.mkdir.name ∧
        "-p" ∈ (session.lineContext line directory).args ∧
        (session.lineContext line directory).ReachesAbove path ∧ session.tree.node? path = none ∧
        (session.afterCommand line directory).tree.node? path = some .directory := by
  -- Nothing is assumed about the directories above other directories.
  have fit : session.tree.Fit False := ⟨valid, False.elim⟩
  have run := afterCommand_run stocked fit normal.not_absolute (tame_of_normal normal line)
  obtain ⟨change, ⟨builtin, named, edits⟩, touches⟩ := run.exists_touches different
  have listed : (Invocation.parse line).name ∈ Builtin.editorNames := by
    rw [named]
    exact List.mem_map_of_mem (Builtin.mem_editors_of_edits edits)
  rcases Builtin.edits_cases edits with reached | ⟨rfl, flag, above, outside, creates⟩
  · exact .inl ⟨listed, reached.of_within touches.within⟩
  · right
    rw [creates] at touches
    have same : path = change.path := touches
    have only : ∀ other, session.CommandEdits line directory other →
        ∃ path, other = .createDirectory path := by
      rintro other ⟨builtin, again, edits⟩
      have mkdir : Builtin.mkdir = builtin := by
        have found := Builtin.ofName?_eq_some.mpr again
        rw [Builtin.ofName?_eq_some.mpr named] at found
        exact Option.some.inj found
      exact Builtin.creates_of_edits (mkdir ▸ edits)
    have made := (run.created only path).resolve_left different
    exact ⟨named, flag, same ▸ above, made.1, made.2⟩

/-- On a valid tree and in a normal directory, a line makes a difference only to the target of its
    redirection, to what lies at or below an argument of an editing command, and with `mkdir -p`
    above an operand, where a directory is new. A line of another command leaves all directories and
    all files but the target as they are. -/
theorem execute_footprint (stocked : session.registry = Builtin.registry Builtin.run)
    (valid : session.tree.issues = []) (normal : Path.Normal (session.place directory)) :
    (∀ path, (session.execute line directory).2.tree.node? path ≠ session.tree.node? path →
      session.Targets line directory path ∨
        (Invocation.parse line).name ∈ ["touch", "mkdir", "rm", "cp", "mv"] ∧
          (session.lineContext line directory).Reaches path ∨
        (Invocation.parse line).name = "mkdir" ∧
          "-p" ∈ (session.lineContext line directory).args ∧
          (session.lineContext line directory).ReachesAbove path ∧
          session.tree.node? path = none ∧
          (session.execute line directory).2.tree.node? path = some .directory) ∧
      ((Invocation.parse line).name ∉ ["touch", "mkdir", "rm", "cp", "mv"] →
        (session.execute line directory).2.tree.directories = session.tree.directories ∧
          ∀ path, ¬ session.Targets line directory path →
            (session.execute line directory).2.tree.content? path = session.tree.content? path) := by
  have tree := Tree.issues_eq_nil.mp valid
  constructor
  · intro path different
    by_cases target : session.Targets line directory path
    · exact .inl target
    right
    rw [node?_execute target] at different ⊢
    exact afterCommand_footprint stocked tree normal different
  · intro other
    have fit : session.tree.Fit False := ⟨tree, False.elim⟩
    have kept : (session.afterCommand line directory).tree = session.tree := by
      apply (afterCommand_run stocked fit normal.not_absolute (tame_of_normal normal line)).eq_of_none
      rintro change ⟨builtin, named, edits⟩
      apply other
      rw [named]
      exact List.mem_map_of_mem (Builtin.mem_editors_of_edits edits)
    rcases session.execute_tree line directory with same | ⟨redirection, content, redirected, same⟩
    · rw [same, kept]
      exact ⟨rfl, fun _ _ => rfl⟩
    · rw [same, kept]
      refine ⟨Tree.directories_writeFile _ _ _, ?_⟩
      intro path untargeted
      apply Tree.content?_writeFile_of_ne
      intro target
      exact untargeted ⟨redirection, redirected, target⟩

theorem execute_footprint_parents :
    seeded.Targets "mkdir -p a/b" none "a" ∨
      (Invocation.parse "mkdir -p a/b").name ∈ ["touch", "mkdir", "rm", "cp", "mv"] ∧
        (seeded.lineContext "mkdir -p a/b" none).Reaches "a" ∨
      (Invocation.parse "mkdir -p a/b").name = "mkdir" ∧
        "-p" ∈ (seeded.lineContext "mkdir -p a/b" none).args ∧
        (seeded.lineContext "mkdir -p a/b" none).ReachesAbove "a" ∧
        seeded.tree.node? "a" = none ∧
        (seeded.execute "mkdir -p a/b" none).2.tree.node? "a" = some .directory :=
  (execute_footprint rfl (by decide +kernel) (.inl rfl)).1 "a" (by decide +kernel)

example : ¬ Path.Within "docsextra/f" "docs" := by decide

end Session

end TreeShell
