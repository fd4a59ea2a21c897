import TreeShell.Proofs.Session.Footprint
import TreeShell.Proofs.Session.History

namespace TreeShell

namespace Tree

structure Gains (before after : Tree) : Prop where
  directories : after.directories = before.directories
  files : ∀ path, before.hasFile path → after.hasFile path

theorem Gains.refl (tree : Tree) : tree.Gains tree := ⟨rfl, fun _ present => present⟩

theorem Gains.trans {first second third : Tree} (early : first.Gains second)
    (late : second.Gains third) : first.Gains third :=
  ⟨late.directories.trans early.directories,
    fun path present => late.files path (early.files path present)⟩

theorem gains_writeFile (tree : Tree) (path : Path) (content : String) :
    tree.Gains (tree.writeFile path content).2 :=
  ⟨tree.directories_writeFile path content, fun _ present => hasFile_writeFile content present⟩

theorem Gains.hasDirectory {before after : Tree} (gains : before.Gains after) (path : Path) :
    after.hasDirectory path = before.hasDirectory path := by
  rw [Tree.hasDirectory, Tree.hasDirectory, gains.directories]

theorem Gains.issues {before after : Tree} (gains : before.Gains after) :
    before.issues ⊆ after.issues := by
  intro issue reported
  rw [mem_issues] at reported ⊢
  cases issue with
  | rootMissing =>
    intro present
    exact reported (gains.hasDirectory "" ▸ present)
  | duplicateDirectory =>
    intro once
    exact reported (gains.directories ▸ once)
  | bothKinds path =>
    obtain ⟨isFile, isDirectory⟩ := reported
    exact ⟨gains.files path isFile, (gains.hasDirectory path).symm ▸ isDirectory⟩
  | orphanFile path parent =>
    obtain ⟨isFile, above, nested, missing⟩ := reported
    exact ⟨gains.files path isFile, above, nested, (gains.hasDirectory parent).symm ▸ missing⟩
  | directoryNotCanonical path =>
    obtain ⟨isDirectory, nested, odd⟩ := reported
    exact ⟨(gains.hasDirectory path).symm ▸ isDirectory, nested, odd⟩
  | fileNotCanonical path =>
    obtain ⟨isFile, odd⟩ := reported
    exact ⟨gains.files path isFile, odd⟩

theorem Gains.broken {before after : Tree} (gains : before.Gains after)
    (broken : before.issues ≠ []) : after.issues ≠ [] := by
  intro none
  exact broken (List.subset_nil.mp (none ▸ gains.issues))

end Tree

namespace Session

variable {session : Session}

/-- A line whose command does not run: it leaves the directory it ran in, clears nothing and changes
    no more than a redirection can. -/
structure Refused (session : Session) (line : String) (directory : Option Path) : Prop where
  reply : session.dispatch (Invocation.parse line) (session.place directory) =
    (session.refusal (Invocation.parse line).name (session.place directory), session)
  shown : (session.execute line directory).1.clearScreen = false ∧
    (session.execute line directory).1.newDirectory = session.place directory
  cwd : (session.execute line directory).2.cwd = session.place directory
  history : (session.execute line directory).2.history =
    if Text.trim line = "" then session.history
    else record session.history session.maxHistory
      ⟨Text.trim line, session.place directory, (session.execute line directory).1.output⟩

theorem refusal_still (session : Session) (name : String) (cwd : Path) :
    (session.refusal name cwd).newDirectory = none ∧
      (session.refusal name cwd).clearScreen = false := by
  unfold refusal unknownCommand
  split
  · exact ⟨rfl, rfl⟩
  split
  · exact ⟨rfl, rfl⟩
  split <;> exact ⟨rfl, rfl⟩

theorem refused_of_broken (broken : session.tree.issues ≠ []) (line : String)
    (directory : Option Path) : session.Refused line directory := by
  have dispatched := dispatch_of_broken broken (Invocation.parse line) (session.place directory)
  obtain ⟨still, shows⟩ := session.refusal_still (Invocation.parse line).name
    (session.place directory)
  have replied : session.replyTo line directory =
      session.refusal (Invocation.parse line).name (session.place directory) := by
    rw [replyTo, dispatched]
  have unchanged : session.afterCommand line directory = session := by
    rw [afterCommand, dispatched]
  have cwd : (session.execute line directory).2.cwd = session.place directory := by
    rw [execute_cwd, dispatched]
    dsimp only
    rw [still]
    rfl
  obtain ⟨clears, moves⟩ := session.execute_shows line directory
  refine ⟨dispatched, ⟨?_, moves.trans cwd⟩, cwd, ?_⟩
  · rw [clears, replied, shows]
  · have quiet : ¬ (session.replyTo line directory).clearScreen := by
      rw [replied, shows]
      decide
    have history := execute_of_not_clear quiet
    rw [unchanged] at history
    exact history

theorem execute_gains (broken : session.tree.issues ≠ []) (line : String)
    (directory : Option Path) :
    session.tree.Gains (session.execute line directory).2.tree ∧
      ∀ path, (session.execute line directory).2.tree.content? path ≠ session.tree.content? path →
        session.Targets line directory path := by
  have unchanged : session.afterCommand line directory = session := by
    rw [afterCommand, dispatch_of_broken broken]
  rcases session.execute_tree line directory with same | ⟨redirection, content, redirected, same⟩
  · rw [same, unchanged]
    exact ⟨.refl _, fun _ different => absurd rfl different⟩
  · rw [same, unchanged]
    refine ⟨Tree.gains_writeFile _ _ _, ?_⟩
    intro path different
    have written : path = Path.resolve redirection.target (session.place directory) := by
      apply Classical.byContradiction
      intro other
      exact different (Tree.content?_writeFile_of_ne content other)
    exact ⟨redirection, redirected, written⟩

def RunTargets (session : Session) (turns : List Turn) (path : Path) : Prop :=
  ∃ before commands line directory later,
    turns = before ++ ⟨commands, .execute line directory⟩ :: later ∧
      (session.played before).Targets line directory path

theorem RunTargets.append {turns : List Turn} {path : Path} (targets : session.RunTargets turns path)
    (further : List Turn) : session.RunTargets (turns ++ further) path := by
  obtain ⟨before, commands, line, directory, later, rfl, target⟩ := targets
  exact ⟨before, commands, line, directory, later ++ further, by simp, target⟩

theorem played_gains (broken : session.tree.issues ≠ []) {turns : List Turn}
    (lines : ∀ turn ∈ turns, turn.step ≠ .reset) :
    session.tree.Gains (session.played turns).tree ∧
      ∀ path, (session.played turns).tree.content? path ≠ session.tree.content? path →
        session.RunTargets turns path := by
  -- The tree is still broken before the last turn, so its command does not run either.
  induction turns using List.reverseRecOn with
  | nil => exact ⟨.refl _, fun _ different => absurd rfl different⟩
  | append_singleton turns turn ih =>
    obtain ⟨gains, written⟩ := ih fun other member => lines other (List.mem_append_left _ member)
    have last := lines turn (List.mem_append_right _ (List.mem_singleton_self turn))
    obtain ⟨commands, step⟩ := turn
    rw [played_append_singleton]
    cases step with
    | reset => exact absurd rfl last
    | execute line directory =>
      have brokenNow : (Turn.equip (session.played turns)
          ⟨commands, .execute line directory⟩).tree.issues ≠ [] := gains.broken broken
      obtain ⟨gainsLast, target⟩ := execute_gains brokenNow line directory
      refine ⟨gains.trans gainsLast, ?_⟩
      intro path different
      by_cases before : (session.played turns).tree.content? path = session.tree.content? path
      · rw [← before] at different
        exact ⟨turns, commands, line, directory, [], rfl, target path different⟩
      · exact (written path before).append _

/-- While lines run in a session whose tree is broken, whatever commands are registered at each of
    them, every issue stays: no directory comes or goes, no file goes, and only a target of a
    redirection is written. No next line gets its command run, clears anything or leaves its
    directory. A reset mends the tree. -/
theorem quarantined_until_reset (broken : session.tree.issues ≠ []) {turns : List Turn}
    (lines : ∀ turn ∈ turns, turn.step ≠ .reset) :
    session.tree.issues ⊆ (session.played turns).tree.issues ∧
      (session.played turns).tree.issues ≠ [] ∧
      (session.played turns).tree.directories = session.tree.directories ∧
      (∀ path, session.tree.hasFile path → (session.played turns).tree.hasFile path) ∧
      (∀ path, (session.played turns).tree.content? path ≠ session.tree.content? path →
        session.RunTargets turns path) ∧
      (∀ commands line directory,
        (Turn.equip (session.played turns) ⟨commands, .execute line directory⟩).Refused line
          directory) ∧
      (session.played turns).reset.tree.issues = [] := by
  obtain ⟨gains, written⟩ := played_gains broken lines
  have brokenNow := gains.broken broken
  refine ⟨gains.issues, brokenNow, gains.directories, gains.files, written, ?_,
    Tree.issues_eq_nil.mpr (seed_fit True).valid⟩
  intro commands line directory
  apply refused_of_broken
  exact brokenNow

def doubled : Session :=
  { seeded with tree := { seeded.tree with directories := seeded.tree.directories ++ ["src"] } }

theorem quarantined_until_reset_doubled :
    let lines := ["echo x > src/note", "clear", "cd src", "rm -rf src"]
    let turns : List Turn := lines.map fun line => ⟨doubled.registry, .execute line none⟩
    let now := doubled.played turns
    .duplicateDirectory ∈ now.tree.issues ∧ now.tree.content? "src/note" ≠ none ∧
      doubled.RunTargets turns "src/note" ∧ now.history.length = 4 ∧
      (now.execute "clear" none).2.cwd = "" ∧ now.reset.tree.issues = [] := by
  intro lines turns now
  have facts : doubled.tree.issues = [.duplicateDirectory] ∧ now.tree.content? "src/note" ≠ none ∧
      doubled.tree.content? "src/note" = none ∧ now.history.length = 4 ∧ now.cwd = "" := by
    decide +kernel
  obtain ⟨issues, written, absent, length, cwd⟩ := facts
  have broken : doubled.tree.issues ≠ [] := by simp [issues]
  have noReset : ∀ turn ∈ turns, turn.step ≠ .reset := by simp [turns, lines]
  obtain ⟨kept, _, _, _, targets, refused, mended⟩ := quarantined_until_reset broken noReset
  refine ⟨kept (by simp [issues]), written, targets _ ?_, length, ?_, mended⟩
  · rw [absent]
    exact written
  · exact (refused now.registry "clear" none).cwd.trans cwd

end Session

end TreeShell
