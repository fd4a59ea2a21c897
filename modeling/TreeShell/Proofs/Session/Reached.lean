import TreeShell.Proofs.Session.History
import TreeShell.Proofs.Tree.Walk

namespace TreeShell

theorem Command.cd_cases (ctx : Command.Context) (world : World) :
    (∃ target, Command.cd ctx world = (.ok { newDirectory := some target }, world) ∧
      (target = "" ∨ target = Path.parent ctx.cwd ∨ target = ctx.cwd ∨
        world.tree.hasDirectory target)) ∨
      ∃ word : String, Command.cd ctx world =
        (.ok { output := s!"cd: {word}: No such file or directory", newDirectory := some ctx.cwd },
          world) := by
  unfold Command.cd Handler.asking
  dsimp only
  split
  · exact .inl ⟨"", rfl, .inl rfl⟩
  · rename_i word rest args
    split
    · rename_i free
      refine .inl ⟨_, rfl, .inr ?_⟩
      by_cases up : word = Path.above
      · left
        rw [Path.resolveMove, if_pos up]
      by_cases stay : word = Path.here
      · right
        left
        rw [Path.resolveMove, if_neg up, if_pos stay]
      · right
        right
        exact (free.resolve_left up).resolve_left stay
    · exact .inr ⟨word, rfl⟩

namespace Session

variable {session : Session} {line : String} {directory : Option Path}

theorem execute_of_silent (silent : (session.replyTo line directory).output = "") :
    (session.execute line directory).2.tree = (session.afterCommand line directory).tree := by
  rw [execute_eq]
  dsimp only
  split
  · rfl
  · rw [silent, served]
    split <;> rfl

theorem newDirectory_dispatch (stocked : session.registry = Builtin.registry Builtin.run)
    {invocation : Invocation} (other : invocation.name ≠ Builtin.cd.name) (cwd : Path) :
    (session.dispatch invocation cwd).1.newDirectory = none := by
  rcases dispatch_cases stocked invocation cwd with ⟨builtin, named, _, same⟩ | ⟨still, _⟩
  · have still : builtin ≠ .cd := by
      rintro rfl
      exact other named
    rw [same]
    cases outcome : (builtin.run (session.context invocation cwd) session.world).1 with
    | error fault => rfl
    | ok reply => exact Builtin.newDirectory_eq_none still outcome
  · exact still

theorem dispatch_cd (sound : session.Sound) {invocation : Invocation}
    (named : invocation.name = Builtin.cd.name) (cwd : Path) :
    (∃ target, session.dispatch invocation cwd = ({ newDirectory := some target }, session) ∧
      (session.tree.hasDirectory cwd → session.tree.hasDirectory target)) ∨
      (session.dispatch invocation cwd).1.newDirectory = some cwd := by
  have fit := sound.fit
  have dispatched := dispatch_builtin sound.stocked named (Tree.issues_eq_nil.mpr fit.valid) cwd
  rw [dispatched, Builtin.run]
  rcases Command.cd_cases (session.context invocation cwd) session.world with
    ⟨target, ran, reached⟩ | ⟨word, ran⟩
  · rw [ran]
    refine .inl ⟨target, rfl, fun present => ?_⟩
    rcases reached with root | up | stay | found
    · exact root ▸ fit.valid.root
    · exact up ▸ fit.hasDirectory_parent present
    · exact stay ▸ present
    · exact found
  · rw [ran]
    exact .inr rfl

/-- A line that leaves the directory it ran in is a silent `cd`, and it changes no tree. -/
theorem execute_moves (sound : session.Sound) (line : String) (directory : Option Path)
    (moved : (session.execute line directory).2.cwd ≠ session.place directory) :
    (Invocation.parse line).name = Builtin.cd.name ∧
      (session.replyTo line directory).output = "" ∧
      (session.execute line directory).2.tree = session.tree ∧
      (session.tree.hasDirectory (session.place directory) →
        session.tree.hasDirectory (session.execute line directory).2.cwd) := by
  rw [execute_cwd] at moved ⊢
  have named : (Invocation.parse line).name = Builtin.cd.name := by
    apply Classical.byContradiction
    intro other
    rw [newDirectory_dispatch sound.stocked other] at moved
    exact moved rfl
  rcases dispatch_cd sound named (session.place directory) with ⟨target, ran, inside⟩ | stays
  · have silent : (session.replyTo line directory).output = "" := by rw [replyTo, ran]
    have kept : (session.execute line directory).2.tree = session.tree := by
      rw [execute_of_silent silent, afterCommand, ran]
    rw [ran]
    exact ⟨named, silent, kept, inside⟩
  · rw [stays] at moved
    exact absurd rfl moved

def seededAfter (id : String) (environment : Environment) (fresh : Twister) (maxHistory : Nat)
    (lines : List String) : Session :=
  (start id Seed.tree environment fresh "" maxHistory).after (lines.map (.execute · none))

theorem sound_seededAfter (id : String) (environment : Environment) (fresh : Twister)
    (maxHistory : Nat) (lines : List String) :
    (seededAfter id environment fresh maxHistory lines).Sound := by
  apply (sound_start id environment fresh maxHistory).after
  intro step member
  obtain ⟨line, _, rfl⟩ := List.mem_map.mp member
  trivial

/-- Whatever lines have been run since the start on the seed project, the next one moves the working
    directory only if it is a `cd` that shows nothing, and from a directory of the tree only to
    another one; a `cd` that complains moves nothing. -/
theorem cwd_moves_by_cd (id : String) (environment : Environment) (fresh : Twister)
    (maxHistory : Nat) (lines : List String) {session : Session}
    (reached : session = seededAfter id environment fresh maxHistory lines) (line : String) :
    ((session.execute line none).2.cwd ≠ session.cwd →
      (Invocation.parse line).name = "cd" ∧ (session.replyTo line none).output = "" ∧
        (session.tree.hasDirectory session.cwd →
          (session.execute line none).2.tree.hasDirectory (session.execute line none).2.cwd)) ∧
      ((Invocation.parse line).name = "cd" → (session.replyTo line none).output ≠ "" →
        (session.execute line none).2.cwd = session.cwd) := by
  have sound : session.Sound := reached ▸ sound_seededAfter id environment fresh maxHistory lines
  have moves := execute_moves sound line none
  constructor
  · intro moved
    obtain ⟨named, silent, kept, inside⟩ := moves moved
    refine ⟨named, silent, ?_⟩
    rw [kept]
    exact inside
  · intro _ complains
    apply Classical.byContradiction
    intro moved
    exact complains (moves moved).2.1

theorem cwd_moves_by_cd_up :
    let session := seeded.after [.execute "cd src/components" none]
    (session.execute "cd .. > log" none).2.cwd = "src" ∧
      (Invocation.parse "cd .. > log").name = "cd" ∧
      (session.replyTo "cd .. > log" none).output = "" ∧
      (session.execute "cd .. > log" none).2.tree.hasDirectory "src" ∧
      (session.execute "cd nowhere" none).2.cwd = session.cwd := by
  intro session
  have reached : session = seededAfter "seeded" seeded.environment ⟨#[], 0⟩ defaultMaxHistory
    ["cd src/components"] := rfl
  have facts : (session.execute "cd .. > log" none).2.cwd = "src" ∧
      session.cwd = "src/components" ∧ session.tree.hasDirectory session.cwd ∧
      (Invocation.parse "cd nowhere").name = "cd" ∧
      (session.replyTo "cd nowhere" none).output ≠ "" := by decide +kernel
  obtain ⟨up, here, present, cd, complains⟩ := facts
  have moved : (session.execute "cd .. > log" none).2.cwd ≠ session.cwd := by
    rw [up, here]
    decide
  obtain ⟨named, silent, inside⟩ := (cwd_moves_by_cd "seeded" _ _ _ _ reached "cd .. > log").1 moved
  have stays := (cwd_moves_by_cd "seeded" _ _ _ _ reached "cd nowhere").2 cd complains
  exact ⟨up, named, silent, up ▸ inside present, stays⟩

/-- In a tree that lines have led to from the seed project, any walk by listings from one of its
    directories comes to an end, whatever is listed next, and nothing that is to be listed cannot
    be. At the end it has seen what lies below its start, directories as folders and files as files,
    each path once; each entry has the last name of its path, which leads to it from the directory
    listed. Below the root lies all but the root. -/
theorem walk_sees_all (id : String) (environment : Environment) (fresh : Twister)
    (maxHistory : Nat) (lines : List String) {tree : Tree}
    (reached : tree = (seededAfter id environment fresh maxHistory lines).tree) {top : Path}
    (present : tree.hasDirectory top) {walk : Walk} (run : Walk.From tree top walk) :
    Acc (fun next walk => Walk.Step tree walk next) walk ∧
      (∀ place ∈ walk.pending, ∃ next, walk.visit tree place = .ok next) ∧
      (walk.pending = [] →
        (walk.seen.map Prod.snd).Perm
            ((tree.directoriesBelow top).map (.ofPath .folder) ++
              (tree.filesBelow top).map (.ofPath .file)) ∧
          (walk.seen.map fun shown => shown.2.path).Nodup) ∧
      (∀ place entry, (place, entry) ∈ walk.seen →
        entry.name = Path.baseName entry.path ∧ Path.join place entry.name = entry.path) ∧
      (tree.directoriesBelow "").Perm (tree.directories.filter (· ≠ "")) ∧
      tree.filesBelow "" = tree.files.keys := by
  have fit : tree.Fit True :=
    reached ▸ (sound_seededAfter id environment fresh maxHistory lines).fit
  have valid := fit.valid
  have normal := valid.directoryNormal top present
  have orderly := Walk.orderly_of_from valid present run
  refine ⟨orderly.ends valid normal, ?_, ?_, ?_, ?_, ?_⟩
  · intro place member
    exact ⟨_, orderly.visit valid member⟩
  · intro done
    have seen := (orderly.seen_perm fit normal done).trans (tree.entriesBelow_perm top).symm
    have paths := (seen.map Entry.path).nodup_iff
    simp only [List.map_append, List.map_map, Function.comp_def, Entry.ofPath, List.map_id'] at paths
    exact ⟨seen, paths.mpr (valid.nodup_below top)⟩
  · intro place entry member
    exact (orderly.of_mem_seen fit member).2
  · exact tree.directoriesBelow_root
  · exact valid.filesBelow_root

theorem walk_sees_all_made :
    let tree := (seededAfter "seeded" seeded.environment ⟨#[], 0⟩ defaultMaxHistory
      ["mkdir -p a/b", "touch a/b/g a/f"]).tree
    let walk : Walk := ⟨[], ["a", "a/b"], [("a", ⟨"b", .folder, "a/b"⟩), ("a", ⟨"f", .file, "a/f"⟩),
      ("a/b", ⟨"g", .file, "a/b/g"⟩)]⟩
    tree.hasDirectory "a" ∧ Walk.From tree "a" walk ∧
      (walk.seen.map Prod.snd).Perm
        ((tree.directoriesBelow "a").map (.ofPath .folder) ++
          (tree.filesBelow "a").map (.ofPath .file)) := by
  intro tree walk
  have facts : tree.hasDirectory "a" ∧
      (Walk.start "a").visit tree "a" = .ok ⟨["a/b"], ["a"], walk.seen.take 2⟩ ∧
      Walk.visit ⟨["a/b"], ["a"], walk.seen.take 2⟩ tree "a/b" = .ok walk := by decide +kernel
  obtain ⟨present, first, second⟩ := facts
  have run : Walk.From tree "a" walk :=
    .tail (.single ⟨"a", by decide, first⟩) ⟨"a/b", by decide, second⟩
  exact ⟨present, run, ((walk_sees_all "seeded" _ _ _ _ rfl present run).2.2.1 rfl).1⟩

end Session

end TreeShell
