import Mathlib.Data.List.Induction
import TreeShell.Proofs.Command.Parents
import TreeShell.Proofs.Session.Sound

namespace TreeShell.Session

open Command (Context)

/-- A line whose `mkdir -p` makes a directory that no valid tree holds: it runs in a directory that
    is not normal, and reaches a relative operand. -/
def Breaches (session : Session) (line : String) (directory : Option Path) : Prop :=
  ¬ Path.Normal (session.place directory) ∧ (Invocation.parse line).name = "mkdir" ∧
    "-p" ∈ (session.lineContext line directory).args ∧
      (session.lineContext line directory).Reaching session.tree
        (session.lineContext line directory).operands

variable {session : Session} {line : String} {directory : Option Path}

theorem tame_of_not_parents (other : ¬ ((Invocation.parse line).name = "mkdir" ∧
    "-p" ∈ (session.lineContext line directory).args)) : session.Tame line directory :=
  fun named flag => absurd ⟨named, flag⟩ other

theorem execute_breach (stocked : session.registry = Builtin.registry Builtin.run)
    (fit : session.tree.Fit True) (relative : ¬ Path.Absolute (session.place directory)) :
    (session.Breaches line directory → (session.execute line directory).2.tree.Marred) ∧
      (¬ session.Breaches line directory → (session.execute line directory).2.tree.Fit True) := by
  by_cases normal : Path.Normal (session.place directory)
  · exact ⟨fun breach => absurd normal breach.1,
      fun _ => execute_fit stocked fit relative (tame_of_normal normal line)⟩
  by_cases parents : (Invocation.parse line).name = "mkdir" ∧
      "-p" ∈ (session.lineContext line directory).args
  · have sound : session.tree.issues = [] := Tree.issues_eq_nil.mpr fit.valid
    have named : (Invocation.parse line).name = Builtin.mkdir.name := parents.1
    have same : (session.afterCommand line directory).tree =
        (Command.mkdir (session.lineContext line directory) session.world).2.tree := by
      rw [afterCommand_builtin stocked named sound, tree_withWorld, Builtin.run]
    have typed : (session.lineContext line directory).Typed := session.typed_context line relative
    have odd : ¬ Path.Normal (session.lineContext line directory).cwd := normal
    have worldFit : session.world.tree.Fit True := fit
    have mars := Command.mkdir_mars typed odd parents.2 worldFit
    constructor
    · intro breach
      obtain ⟨path, present, odd⟩ := mars.1 breach.2.2.2
      refine ⟨path, ?_, odd⟩
      rw [Tree.hasDirectory, execute_directories, same]
      exact present
    · intro calm
      apply execute_fit_of relative
      rw [same]
      exact mars.2 fun reaching => calm ⟨normal, parents.1, parents.2, reaching⟩
  · exact ⟨fun breach => absurd ⟨breach.2.1, breach.2.2.1⟩ parents,
      fun _ => execute_fit stocked fit relative (tame_of_not_parents parents)⟩

theorem execute_marred (stocked : session.registry = Builtin.registry Builtin.run)
    (marred : session.tree.Marred) (line : String) (directory : Option Path) :
    (session.execute line directory).2.tree.Marred := by
  have kept : (session.afterCommand line directory).tree = session.tree := by
    unfold afterCommand
    rcases dispatch_cases stocked (Invocation.parse line) (session.place directory) with
      ⟨_, _, sound, _⟩ | ⟨_, same⟩
    · exact absurd (Tree.issues_eq_nil.mp sound) marred.not_valid
    · rw [same]
  obtain ⟨path, present, odd⟩ := marred
  refine ⟨path, ?_, odd⟩
  rw [Tree.hasDirectory, execute_directories, kept]
  exact present

def BreachedBy (session : Session) : Step → Prop
  | .execute line directory => session.Breaches line directory
  | .reset => False

/-- Whether after every step that breaches the tree there comes a reset. -/
def Mended (session : Session) (steps : List Step) : Prop :=
  ∀ before step later, steps = before ++ step :: later →
    (session.after before).BreachedBy step → .reset ∈ later

def Step.Relative : Step → Prop
  | .execute _ (some directory) => ¬ Path.Absolute directory
  | .execute _ none | .reset => True

/-- A session as clients can leave it: its tree is fit, or marred by a directory. -/
structure Shared (session : Session) (fit : Prop) : Prop where
  stocked : session.registry = Builtin.registry Builtin.run
  relative : ¬ Path.Absolute session.cwd
  whole : fit → session.tree.Fit True
  broken : ¬ fit → session.tree.Marred

theorem Shared.issues_eq_nil_iff {fit : Prop} (shared : session.Shared fit) :
    session.tree.issues = [] ↔ fit := by
  rw [Tree.issues_eq_nil]
  constructor
  · intro valid
    apply Classical.byContradiction
    intro broken
    exact (shared.broken broken).not_valid valid
  · intro whole
    exact (shared.whole whole).valid

theorem after_append_singleton (session : Session) (steps : List Step) (step : Step) :
    session.after (steps ++ [step]) = step.apply (session.after steps) := by
  rw [after, List.foldl_append]
  rfl

theorem mended_append_reset (session : Session) (steps : List Step) :
    session.Mended (steps ++ [.reset]) := by
  intro before step later split breach
  rcases List.eq_nil_or_concat later with rfl | ⟨front, last, rfl⟩
  · have same := (List.append_inj' split rfl).2
    rw [List.singleton_inj] at same
    rw [← same] at breach
    exact False.elim breach
  · have same : (before ++ step :: front) ++ [last] = steps ++ [.reset] := by simp [split]
    rw [List.concat_eq_append, (List.append_singleton_inj.mp same).2]
    exact List.mem_append_right _ (List.mem_cons_self ..)

theorem mended_append_execute (session : Session) (steps : List Step) :
    session.Mended (steps ++ [.execute line directory]) ↔
      session.Mended steps ∧ ¬ (session.after steps).Breaches line directory := by
  constructor
  · intro mended
    constructor
    · intro before step later split breach
      have listed := mended before step (later ++ [.execute line directory]) (by simp [split]) breach
      simpa using listed
    · intro breach
      cases mended steps (.execute line directory) [] rfl breach
  · rintro ⟨mended, calm⟩ before step later split breach
    rcases List.eq_nil_or_concat later with rfl | ⟨front, last, rfl⟩
    · obtain ⟨rfl, same⟩ := List.append_singleton_inj.mp split
      rw [← same] at breach
      exact absurd breach calm
    · have same : (before ++ step :: front) ++ [last] = steps ++ [.execute line directory] := by
        simp [split]
      have earlier := mended before step front (List.append_singleton_inj.mp same).1.symm breach
      rw [List.concat_eq_append]
      exact List.mem_append_left _ earlier

theorem Shared.place {fit : Prop} (shared : session.Shared fit)
    (proper : (Step.execute line directory).Relative) :
    ¬ Path.Absolute (session.place directory) := by
  cases directory with
  | none => exact shared.relative
  | some path => exact proper

/-- Whatever the lines are, the tree is fit as long as every breach has been followed by a reset,
    and broken otherwise. -/
theorem Shared.after {start : Session} (shared : start.Shared True) {steps : List Step}
    (relative : ∀ step ∈ steps, step.Relative) :
    (start.after steps).Shared (start.Mended steps) := by
  -- The last step tells: a reset mends, and a line keeps what is broken or breaks what was fit.
  induction steps using List.reverseRecOn with
  | nil =>
    have mended : start.Mended [] := by
      intro before step later split
      simp at split
    exact ⟨shared.stocked, shared.relative, fun _ => shared.whole trivial,
      fun broken => absurd mended broken⟩
  | append_singleton front last ih =>
    have earlier := ih fun step member => relative step (List.mem_append_left _ member)
    have here := relative last (List.mem_append_right _ (List.mem_cons_self ..))
    rw [after_append_singleton]
    cases last with
    | reset =>
      exact ⟨earlier.stocked, Path.Normal.not_absolute (.inl rfl), fun _ => seed_fit True,
        fun broken => absurd (start.mended_append_reset front) broken⟩
    | execute line directory =>
      have place := earlier.place here
      have cwd : ¬ Path.Absolute ((start.after front).execute line directory).2.cwd := by
        obtain ⟨word, moved⟩ := exists_resolveMove_execute earlier.stocked line directory
        rw [moved]
        exact Path.not_absolute_resolveMove place word
      rw [Step.apply, mended_append_execute]
      refine ⟨execute_registry earlier.stocked line directory, cwd, ?_, ?_⟩
      · rintro ⟨mended, calm⟩
        exact (execute_breach earlier.stocked (earlier.whole mended) place).2 calm
      · intro broken
        by_cases mended : start.Mended front
        · have breach : (start.after front).Breaches line directory := by
            apply Classical.byContradiction
            intro calm
            exact broken ⟨mended, calm⟩
          exact (execute_breach earlier.stocked (earlier.whole mended) place).1 breach
        · exact execute_marred earlier.stocked (earlier.broken mended) line directory

end TreeShell.Session
