import TreeShell.Proofs.Session.Line

namespace TreeShell.Session

inductive Step
  | execute (line : String) (directory : Option Path)
  | reset

namespace Step

def apply (session : Session) : Step → Session
  | execute line directory => (session.execute line directory).2
  | reset => session.reset

def Proper : Step → Prop
  | execute _ (some directory) => Path.Normal directory
  | execute _ none | reset => True

instance : (step : Step) → Decidable step.Proper
  | execute _ (some directory) => inferInstanceAs (Decidable (Path.Normal directory))
  | execute _ none | reset => isTrue trivial

end Step

def after (session : Session) (steps : List Step) : Session := steps.foldl Step.apply session

structure Sound (session : Session) : Prop where
  stocked : session.registry = Builtin.registry Builtin.run
  fit : session.tree.Fit True
  cwd : Path.Normal session.cwd

theorem seed_fit (closed : Prop) : Seed.tree.Fit closed := by
  have sound : Seed.tree.issues = [] ∧ Seed.tree.Closed := by decide +kernel
  exact ⟨Tree.issues_eq_nil.mp sound.1, fun _ => sound.2⟩

theorem sound_start (id : String) (environment : Environment) (fresh : Twister)
    (maxHistory : Nat) : (start id Seed.tree environment fresh "" maxHistory).Sound :=
  ⟨rfl, seed_fit True, .inl rfl⟩

def seeded : Session :=
  start "seeded" Seed.tree ⟨Environment.defaultUsername, none, .still ⟨2025, 3, 7, 14, 5, 9, .unknown⟩⟩
    ⟨#[], 0⟩ "" defaultMaxHistory

theorem normal_place {session : Session} (sound : session.Sound) {line : String}
    {directory : Option Path} (proper : (Step.execute line directory).Proper) :
    Path.Normal (session.place directory) := by
  cases directory with
  | none => exact sound.cwd
  | some path => exact proper

theorem Sound.step {session : Session} (sound : session.Sound) {step : Step}
    (proper : step.Proper) : (step.apply session).Sound := by
  cases step with
  | execute line directory =>
    have normal := normal_place sound proper
    have cwd : Path.Normal (session.execute line directory).2.cwd := by
      obtain ⟨word, moved⟩ := exists_resolveMove_execute sound.stocked line directory
      rw [moved]
      exact Path.normal_resolveMove normal word
    rw [Step.apply]
    exact ⟨execute_registry sound.stocked line directory,
      execute_fit sound.stocked sound.fit normal.not_absolute (tame_of_normal normal line), cwd⟩
  | reset => exact ⟨sound.stocked, seed_fit True, .inl rfl⟩

theorem Sound.after {session : Session} (sound : session.Sound) {steps : List Step}
    (proper : ∀ step ∈ steps, step.Proper) : (session.after steps).Sound := by
  induction steps generalizing session with
  | nil => exact sound
  | cons step rest ih =>
    have first := sound.step (proper step (List.mem_cons_self ..))
    exact ih first fun other member => proper other (List.mem_cons_of_mem _ member)

/-- Whatever lines and resets come, after each of them the tree has no issues, every directory lies
    in a directory of the tree, and the working directory is canonical or the root. -/
theorem intact_after {session : Session}
    (stocked : session.registry = Builtin.registry Builtin.run) (valid : session.tree.issues = [])
    (closed : ∀ path, path ≠ "" → session.tree.hasDirectory path →
      session.tree.hasDirectory (Path.parent path))
    (cwd : session.cwd = "" ∨ Path.isCanonical session.cwd) {steps done : List Step}
    (proper : ∀ step ∈ steps, step.Proper) (reached : done <+: steps) :
    (session.after done).tree.issues = [] ∧
      (∀ path, path ≠ "" → (session.after done).tree.hasDirectory path →
        (session.after done).tree.hasDirectory (Path.parent path)) ∧
      ((session.after done).cwd = "" ∨ Path.isCanonical (session.after done).cwd) := by
  have sound : session.Sound := ⟨stocked, ⟨Tree.issues_eq_nil.mp valid, fun _ => closed⟩, cwd⟩
  have kept := sound.after fun step member => proper step (reached.subset member)
  exact ⟨Tree.issues_eq_nil.mpr kept.fit.valid, kept.fit.closed trivial, kept.cwd⟩

theorem intact_after_mkdir_mv_reset :
    let steps : List Step :=
      [.execute "mkdir -p a/b" none, .execute "mv ../src /a/b > log" (some "public"), .reset]
    (seeded.after steps).tree.issues = [] ∧
      (∀ path, path ≠ "" → (seeded.after steps).tree.hasDirectory path →
        (seeded.after steps).tree.hasDirectory (Path.parent path)) ∧
      ((seeded.after steps).cwd = "" ∨ Path.isCanonical (seeded.after steps).cwd) := by
  have fit : seeded.tree.Fit True := seed_fit True
  intro steps
  have proper : ∀ step ∈ steps, step.Proper := by decide
  exact intact_after rfl (Tree.issues_eq_nil.mpr fit.valid) (fit.closed trivial) (.inl rfl) proper
    List.prefix_rfl

end TreeShell.Session
