import TreeShell.Proofs.Command.Builtin
import TreeShell.Session

namespace TreeShell.Session

open Command (Context)
open TreeShell.Tree (Change Run)

variable {closed : Prop} {session : Session}

def shownReply : Except Fault Reply → Reply
  | .ok reply => reply
  | .error fault => faultReply fault

theorem context_args (session : Session) (invocation : Invocation) (cwd : Path) :
    (session.context invocation cwd).args = invocation.args := rfl

theorem typed_context (session : Session) (line : String) {cwd : Path}
    (relative : ¬ Path.Absolute cwd) : (session.context (Invocation.parse line) cwd).Typed := by
  refine ⟨relative, ?_⟩
  intro word member
  rw [context_args] at member
  exact Invocation.ne_empty_of_mem_args member

theorem tree_withWorld (session : Session) (world : World) :
    (session.withWorld world).tree = world.tree := rfl

/-! ## Commands -/

section Dispatch

variable {invocation : Invocation} {builtin : Builtin}

theorem registry_builtin (stocked : session.registry = Builtin.registry Builtin.run)
    (named : invocation.name = builtin.name) :
    invocation.name ≠ "" ∧ session.registry.get? invocation.name = some builtin.run := by
  constructor
  · rw [named]
    cases builtin <;> decide
  · rw [stocked, Builtin.registry_get?_name, Builtin.ofName?_eq_some.mpr named]
    rfl

theorem dispatch_found {handler : Command.Handler} (filled : invocation.name ≠ "")
    (found : session.registry.get? invocation.name = some handler)
    (sound : session.tree.issues = []) (cwd : Path) :
    session.dispatch invocation cwd =
      (shownReply (handler (session.context invocation cwd) session.world).1,
        session.withWorld (handler (session.context invocation cwd) session.world).2) := by
  simp only [dispatch, if_neg filled, found, if_pos sound]
  rcases handler (session.context invocation cwd) session.world with ⟨outcome, world⟩
  cases outcome <;> rfl

theorem dispatch_builtin (stocked : session.registry = Builtin.registry Builtin.run)
    (named : invocation.name = builtin.name) (sound : session.tree.issues = []) (cwd : Path) :
    session.dispatch invocation cwd =
      (shownReply (builtin.run (session.context invocation cwd) session.world).1,
        session.withWorld (builtin.run (session.context invocation cwd) session.world).2) := by
  obtain ⟨filled, found⟩ := registry_builtin stocked named
  exact dispatch_found filled found sound cwd

def refusal (session : Session) (name : String) (cwd : Path) : Reply :=
  if name = "" then {}
  else if session.registry.contains name then faultReply (.brokenTree session.tree.issues)
  else session.unknownCommand name cwd

theorem dispatch_of_broken (broken : session.tree.issues ≠ []) (invocation : Invocation)
    (cwd : Path) :
    session.dispatch invocation cwd = (session.refusal invocation.name cwd, session) := by
  have known : session.registry.contains invocation.name =
      (session.registry.get? invocation.name).isSome := by
    rw [Registry.contains, Registry.get?, Option.isSome_map, OrderedMap.contains]
  simp only [dispatch, refusal, known, if_neg broken]
  split
  · rfl
  · cases session.registry.get? invocation.name <;> rfl

theorem dispatch_broken (stocked : session.registry = Builtin.registry Builtin.run)
    (named : invocation.name = builtin.name) (broken : session.tree.issues ≠ []) (cwd : Path) :
    session.dispatch invocation cwd =
      (faultReply (.brokenTree session.tree.issues), session) := by
  obtain ⟨filled, found⟩ := registry_builtin stocked named
  simp only [dispatch, if_neg filled, found, if_neg broken]

theorem dispatch_other (stocked : session.registry = Builtin.registry Builtin.run)
    (unknown : Builtin.ofName? invocation.name = none) (cwd : Path) :
    (session.dispatch invocation cwd).1.newDirectory = none ∧
      (session.dispatch invocation cwd).2 = session := by
  have absent : session.registry.get? invocation.name = none := by
    rw [stocked, Builtin.registry_get?_name, unknown]
    rfl
  unfold dispatch
  rw [absent]
  split
  · exact ⟨rfl, rfl⟩
  · dsimp only
    unfold unknownCommand
    split <;> exact ⟨rfl, rfl⟩

/-- A line names a built-in command, which runs or meets a broken tree, or it leaves the session
    as it is. -/
theorem dispatch_cases (stocked : session.registry = Builtin.registry Builtin.run)
    (invocation : Invocation) (cwd : Path) :
    (∃ builtin : Builtin, invocation.name = builtin.name ∧ session.tree.issues = [] ∧
      session.dispatch invocation cwd =
        (shownReply (builtin.run (session.context invocation cwd) session.world).1,
          session.withWorld (builtin.run (session.context invocation cwd) session.world).2)) ∨
      (session.dispatch invocation cwd).1.newDirectory = none ∧
        (session.dispatch invocation cwd).2 = session := by
  cases named : Builtin.ofName? invocation.name with
  | none => exact .inr (dispatch_other stocked named cwd)
  | some builtin =>
    have same := Builtin.name_of_ofName? named
    by_cases sound : session.tree.issues = []
    · exact .inl ⟨builtin, same, sound, dispatch_builtin stocked same sound cwd⟩
    · right
      rw [dispatch_broken stocked same sound cwd]
      exact ⟨rfl, rfl⟩

theorem registry_dispatch (stocked : session.registry = Builtin.registry Builtin.run)
    (invocation : Invocation) (cwd : Path) :
    (session.dispatch invocation cwd).2.registry = Builtin.registry Builtin.run := by
  rcases dispatch_cases stocked invocation cwd with ⟨_, _, _, same⟩ | ⟨_, same⟩
  · rw [same]
    exact stocked
  · rw [same]
    exact stocked

theorem exists_resolveMove_dispatch (stocked : session.registry = Builtin.registry Builtin.run)
    {cwd path : Path} (moved : (session.dispatch invocation cwd).1.newDirectory = some path) :
    ∃ word, path = Path.resolveMove word cwd := by
  rcases dispatch_cases stocked invocation cwd with ⟨builtin, _, _, same⟩ | ⟨still, _⟩
  · rw [same] at moved
    cases outcome : (builtin.run (session.context invocation cwd) session.world).1 with
    | error fault =>
      rw [outcome] at moved
      cases moved
    | ok reply =>
      rw [outcome] at moved
      exact Builtin.exists_resolveMove outcome moved
  · rw [still] at moved
    cases moved

end Dispatch

/-! ## Whole lines -/

def place (session : Session) (directory : Option Path) : Path := directory.getD session.cwd

theorem place_eq {session after : Session} {directory : Option Path}
    (stays : after.cwd = session.place directory) :
    after.place directory = session.place directory := by
  cases directory with
  | none => exact stays
  | some _ => rfl

def lineContext (session : Session) (line : String) (directory : Option Path) : Context :=
  session.context (Invocation.parse line) (session.place directory)

def replyTo (session : Session) (line : String) (directory : Option Path) : Reply :=
  (session.dispatch (Invocation.parse line) (session.place directory)).1

def afterCommand (session : Session) (line : String) (directory : Option Path) : Session :=
  (session.dispatch (Invocation.parse line) (session.place directory)).2

theorem afterCommand_builtin (stocked : session.registry = Builtin.registry Builtin.run)
    {line : String} {builtin : Builtin} (named : (Invocation.parse line).name = builtin.name)
    (sound : session.tree.issues = []) (directory : Option Path) :
    session.afterCommand line directory =
      session.withWorld (builtin.run (session.lineContext line directory) session.world).2 := by
  rw [afterCommand, lineContext, dispatch_builtin stocked named sound]

theorem redirect_tree (tree : Tree) (name : String) (redirection : Redirection) (output : String)
    (cwd : Path) :
    (redirect tree name redirection output cwd).2 = tree ∨
      ∃ content, (redirect tree name redirection output cwd).2 =
        (tree.writeFile (Path.resolve redirection.target cwd) content).2 := by
  unfold redirect
  dsimp only
  split
  · exact .inl rfl
  · exact .inr ⟨_, rfl⟩

theorem raw_parse (line : String) : (Invocation.parse line).raw = Text.trim line := by
  rw [Invocation.parse]

def served (tree : Tree) (invocation : Invocation) (output : String) (cwd : Path) : String × Tree :=
  match invocation.redirection with
  | some redirection =>
    if output = "" then (output, tree) else redirect tree invocation.name redirection output cwd
  | none => (output, tree)

theorem served_tree (tree : Tree) (invocation : Invocation) (output : String) (cwd : Path) :
    (served tree invocation output cwd).2 = tree ∨
      ∃ redirection content, invocation.redirection = some redirection ∧
        (served tree invocation output cwd).2 =
          (tree.writeFile (Path.resolve redirection.target cwd) content).2 := by
  unfold served
  cases invocation.redirection with
  | none => exact .inl rfl
  | some redirection =>
    dsimp only
    split
    · exact .inl rfl
    · rcases redirect_tree tree invocation.name redirection output cwd with same | ⟨content, same⟩
      · exact .inl same
      · exact .inr ⟨redirection, content, rfl, same⟩

theorem execute_eq (session : Session) (line : String) (directory : Option Path) :
    session.execute line directory =
      let cwd := session.place directory
      let reply := session.replyTo line directory
      let after := session.afterCommand line directory
      let newDirectory := reply.newDirectory.getD cwd
      let served := served after.tree (Invocation.parse line) reply.output cwd
      if reply.clearScreen then
        (⟨"", newDirectory, true⟩, { after with cwd := newDirectory, history := [] })
      else
        (⟨served.1, newDirectory, false⟩, { after with
          tree := served.2
          cwd := newDirectory
          history := if Text.trim line = "" then after.history
            else record after.history after.maxHistory ⟨Text.trim line, cwd, served.1⟩ }) := by
  rw [← raw_parse]
  rfl

theorem execute_tree (session : Session) (line : String) (directory : Option Path) :
    (session.execute line directory).2.tree = (session.afterCommand line directory).tree ∨
      ∃ redirection content, (Invocation.parse line).redirection = some redirection ∧
        (session.execute line directory).2.tree =
          ((session.afterCommand line directory).tree.writeFile
            (Path.resolve redirection.target (session.place directory)) content).2 := by
  rw [execute_eq]
  dsimp only
  split
  · exact .inl rfl
  · exact served_tree ..

theorem execute_shows (session : Session) (line : String) (directory : Option Path) :
    (session.execute line directory).1.clearScreen =
        (session.replyTo line directory).clearScreen ∧
      (session.execute line directory).1.newDirectory = (session.execute line directory).2.cwd := by
  rw [execute_eq]
  dsimp only
  cases (session.replyTo line directory).clearScreen <;> exact ⟨rfl, rfl⟩

theorem execute_cwd (session : Session) (line : String) (directory : Option Path) :
    (session.execute line directory).2.cwd =
      (session.dispatch (Invocation.parse line) (session.place directory)).1.newDirectory.getD
        (session.place directory) := by
  rw [execute_eq]
  dsimp only
  split <;> rfl

theorem execute_registry (stocked : session.registry = Builtin.registry Builtin.run) (line : String)
    (directory : Option Path) :
    (session.execute line directory).2.registry = Builtin.registry Builtin.run := by
  have kept : (session.afterCommand line directory).registry = Builtin.registry Builtin.run :=
    registry_dispatch stocked (Invocation.parse line) (session.place directory)
  rw [execute_eq]
  dsimp only
  split <;> exact kept

theorem exists_resolveMove_execute (stocked : session.registry = Builtin.registry Builtin.run)
    (line : String) (directory : Option Path) :
    ∃ word, (session.execute line directory).2.cwd =
      Path.resolveMove word (session.place directory) := by
  rw [execute_cwd]
  cases moved : (session.dispatch (Invocation.parse line)
      (session.place directory)).1.newDirectory with
  | none => exact ⟨Path.here, rfl⟩
  | some path => exact exists_resolveMove_dispatch stocked moved

/-! ## Changes -/

def CommandEdits (session : Session) (line : String) (directory : Option Path)
    (change : Change) : Prop :=
  ∃ builtin : Builtin, (Invocation.parse line).name = builtin.name ∧
    builtin.Edits (session.lineContext line directory) change

/-- A line does not ask `mkdir -p` for a path that no tree may hold. -/
def Tame (session : Session) (line : String) (directory : Option Path) : Prop :=
  (Invocation.parse line).name = Builtin.mkdir.name →
    "-p" ∈ (session.lineContext line directory).args →
      ∀ word ∈ (session.lineContext line directory).operands,
        Path.Normal ((session.lineContext line directory).resolve word)

theorem tame_of_normal {directory : Option Path} (normal : Path.Normal (session.place directory))
    (line : String) : session.Tame line directory :=
  fun _ _ word _ => Path.normal_resolve normal word

theorem afterCommand_run {line : String} {directory : Option Path}
    (stocked : session.registry = Builtin.registry Builtin.run) (fit : session.tree.Fit closed)
    (relative : ¬ Path.Absolute (session.place directory)) (tame : session.Tame line directory) :
    Run closed (session.CommandEdits line directory) session.tree
      (session.afterCommand line directory).tree := by
  unfold afterCommand
  rcases dispatch_cases stocked (Invocation.parse line) (session.place directory) with
    ⟨builtin, named, _, same⟩ | ⟨_, same⟩
  · rw [same]
    have worldFit : session.world.tree.Fit closed := fit
    have run := Builtin.run_run (session.typed_context line relative) worldFit builtin
      fun mkdir => tame (mkdir ▸ named)
    exact run.mono fun change edits => ⟨builtin, named, edits⟩
  · rw [same]
    exact .refl

theorem execute_fit_of {line : String} {directory : Option Path}
    (relative : ¬ Path.Absolute (session.place directory))
    (fit : (session.afterCommand line directory).tree.Fit closed) :
    (session.execute line directory).2.tree.Fit closed := by
  rcases session.execute_tree line directory with same | ⟨redirection, content, _, same⟩
  · rw [same]
    exact fit
  · have permitted : (Change.writeFile (Path.resolve redirection.target (session.place directory))
        content).Permitted closed (session.afterCommand line directory).tree :=
      Path.not_absolute_resolve relative redirection.target
    rw [same]
    exact fit.apply permitted

theorem execute_fit {line : String} {directory : Option Path}
    (stocked : session.registry = Builtin.registry Builtin.run) (fit : session.tree.Fit closed)
    (relative : ¬ Path.Absolute (session.place directory)) (tame : session.Tame line directory) :
    (session.execute line directory).2.tree.Fit closed :=
  execute_fit_of relative ((afterCommand_run stocked fit relative tame).fit fit)

theorem execute_directories (session : Session) (line : String) (directory : Option Path) :
    (session.execute line directory).2.tree.directories =
      (session.afterCommand line directory).tree.directories := by
  rcases session.execute_tree line directory with same | ⟨_, _, _, same⟩
  · rw [same]
  · rw [same]
    exact Tree.directories_writeFile _ _ _

end TreeShell.Session
