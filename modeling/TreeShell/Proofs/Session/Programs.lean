import TreeShell.Proofs.Invocation.Quotes
import TreeShell.Proofs.Session.Redirect

namespace TreeShell.Session

variable {session : Session} {name : String}

theorem dispatch_unknown {invocation : Invocation} {args : List String}
    (filled : name ≠ "") (unknown : session.registry.contains name = false)
    (said : invocation.words = name :: args) (cwd : Path) :
    session.dispatch invocation cwd = (session.unknownCommand (Text.lower name) cwd, session) := by
  have named : invocation.name = Text.lower name := by rw [Invocation.name, said]
  have absent : session.registry.get? (Text.lower name) = none := by
    rw [Registry.contains, OrderedMap.contains, Option.isSome_eq_false_iff,
      Option.isNone_iff_eq_none] at unknown
    rw [Registry.get?, Text.lower_lower, unknown]
    rfl
  simp only [dispatch, named, if_neg (Text.lower_ne_empty filled), absent]

theorem unknownCommand_eq (session : Session) (name : String) (cwd : Path) :
    session.unknownCommand name cwd =
      .text (if session.tree.hasFile (Path.join cwd name) then "Simulated execution of " ++ name
        else "Command not found: " ++ name ++ "\nType 'help' to see available commands.") := by
  unfold unknownCommand
  split <;> rfl

theorem notFound_ne_simulated (name other : String) :
    "Command not found: " ++ name ++ "\nType 'help' to see available commands." ≠
      "Simulated execution of " ++ other := by
  intro same
  have first := congrArg (·.toList.head?) same
  simp at first

/-- Some line has the name alone as its first word, and a line that has it changes nothing. The name
    runs just the file of that name, and is not found without one, when it has no capitals or when
    neither it nor its lower-case form is a file. -/
theorem run_by_name_iff (filled : name ≠ "") (free : '>' ∉ name.toList)
    (unknown : session.registry.contains name = false) (directory : Option Path) :
    (∃ line, Invocation.parse line = ⟨line, [name], none⟩) ∧
      ∀ line args, (Invocation.parse line).words = name :: args →
        (Invocation.parse line).redirection = none →
          let shown := (session.execute line directory).1
          let after := (session.execute line directory).2
          let isFile (name : String) :=
            session.tree.hasFile (Path.join (session.place directory) name)
          after.tree = session.tree ∧ after.cwd = session.place directory ∧
            shown.newDirectory = session.place directory ∧
            (((shown.output = "Simulated execution of " ++ name ↔ isFile name) ∧
                (¬ isFile name → shown.output =
                  "Command not found: " ++ Text.lower name ++
                    "\nType 'help' to see available commands.")) ↔
              Text.lower name = name ∨ ¬ isFile name ∧ ¬ isFile (Text.lower name)) := by
  refine ⟨Invocation.exists_line filled free, ?_⟩
  intro line args said stays shown after isFile
  have replied := dispatch_unknown filled unknown said (session.place directory)
  rw [unknownCommand_eq] at replied
  obtain ⟨history, executed⟩ := execute_shown replied stays
  have output : shown.output =
      if isFile (Text.lower name) then "Simulated execution of " ++ Text.lower name
      else "Command not found: " ++ Text.lower name ++
        "\nType 'help' to see available commands." := congrArg (·.1.output) executed
  refine ⟨congrArg (·.2.tree) executed, congrArg (·.2.cwd) executed,
    congrArg (·.1.newDirectory) executed, ?_⟩
  rw [output]
  by_cases small : Text.lower name = name
  · rw [small]
    refine iff_of_true ⟨?_, ?_⟩ (.inl rfl)
    · by_cases present : isFile name <;> simp [present, notFound_ne_simulated]
    · intro absent
      rw [if_neg absent]
  · rw [or_iff_right small]
    by_cases other : isFile (Text.lower name)
    · by_cases present : isFile name <;>
        simp [other, present, small, (notFound_ne_simulated _ _).symm]
    · by_cases present : isFile name <;> simp [other, present, notFound_ne_simulated]

theorem run_by_name_iff_seeded :
    (seeded.execute "package.json" none).1.output = "Simulated execution of package.json" ∧
      (seeded.execute "'no such' -v" none).1.output =
        "Command not found: no such\nType 'help' to see available commands." := by
  obtain ⟨_, runs⟩ := run_by_name_iff (by decide) (by decide)
    (by decide +kernel : seeded.registry.contains "package.json" = false) none
  obtain ⟨_, misses⟩ := run_by_name_iff (by decide) (by decide)
    (by decide +kernel : seeded.registry.contains "no such" = false) none
  obtain ⟨_, _, _, ran⟩ := runs "package.json" [] (by decide +kernel) (by decide +kernel)
  obtain ⟨_, _, _, missed⟩ := misses "'no such' -v" ["-v"] (by decide +kernel) (by decide +kernel)
  exact ⟨(ran.mpr (.inl (by decide))).1.mpr (by decide +kernel),
    (missed.mpr (.inl (by decide))).2 (by decide +kernel)⟩

theorem capital_name_not_run :
    seeded.tree.issues = [] ∧ Path.Normal (seeded.place none) ∧ Path.IsName "README.md" ∧
      '>' ∉ "README.md".toList ∧ seeded.registry.contains "README.md" = false ∧
      Invocation.parse "README.md" = ⟨"README.md", ["README.md"], none⟩ ∧
      seeded.tree.hasFile (Path.join (seeded.place none) "README.md") ∧
      (seeded.execute "README.md" none).1.output =
        "Command not found: readme.md\nType 'help' to see available commands." := by
  refine ⟨by decide +kernel, .inl rfl, ⟨by decide, by decide⟩, by decide, ?_⟩
  decide +kernel

end TreeShell.Session
