import TreeShell.Proofs.Invocation.Quotes
import TreeShell.Proofs.Session.Redirect

namespace TreeShell

theorem Invocation.parse_echo {word text : String} (bare : Bare word) (filled : text ≠ "")
    (trimmed : Text.trim text = text) (free : '>' ∉ text.toList) :
    parse ("echo " ++ word ++ " > " ++ text) =
      ⟨"echo " ++ word ++ " > " ++ text, ["echo", word], some ⟨text, false⟩⟩ := by
  have line : "echo " ++ word ++ " > " ++ text =
      "echo" ++ " " ++ word ++ " " ++ Redirection.arrow false ++ (" " ++ text) := by
    simp [← String.toList_inj, Redirection.arrow]
  have echo : Bare "echo" := .of_forall (by decide) (by decide)
  have whole : Text.trim ("echo" ++ " " ++ word) = "echo" ++ " " ++ word :=
    Text.trim_append rfl (by decide : ¬ Text.isBlank 'e') bare.trim bare.filled
  have front : '>' ∉ ("echo" ++ " " ++ word).toList := by simp [bare.not_mem_arrow]
  have parsed := parse_arrow (by simp) whole front filled trimmed free false
  rw [line, parsed, echo.ofText_append, bare.ofText]

theorem Command.catText_eq_iff {shown : String} (plain : ' ' ∉ shown.toList) (tree : Tree)
    (word : String) (path : Path) :
    catText tree word path = shown ↔ tree.content? path = some shown := by
  unfold catText
  cases tree.content? path with
  | some content => simp
  | none =>
    have blank : ' ' ∈ (toString "cat: ").toList := by decide
    refine iff_of_false ?_ (by simp)
    intro same
    apply plain
    rw [← same]
    dsimp only
    split <;> simp [blank]

namespace Session

theorem sameBut_redirect (tree : Tree) (name : String) (redirection : Redirection)
    (output : String) (cwd : Path) :
    SameBut (Path.resolve redirection.target cwd) tree
      (redirect tree name redirection output cwd).2 := by
  rcases redirect_tree tree name redirection output cwd with same | ⟨content, same⟩
  · rw [same]
    exact ⟨rfl, fun _ _ => rfl⟩
  · rw [same]
    exact ⟨Tree.directories_writeFile tree _ content,
      fun other elsewhere => Tree.content?_writeFile_of_ne content elsewhere⟩

theorem valid_redirect {tree : Tree} (valid : tree.Valid) {cwd : Path} (normal : Path.Normal cwd)
    (name : String) (redirection : Redirection) (output : String) :
    (redirect tree name redirection output cwd).2.Valid := by
  have relative : ¬ Path.Absolute (Path.resolve redirection.target cwd) :=
    (Path.normal_resolve normal redirection.target).not_absolute
  rcases redirect_tree tree name redirection output cwd with same | ⟨content, same⟩
  · rw [same]
    exact valid
  · rw [same]
    exact valid.writeFile relative content

theorem content?_redirect {tree : Tree} (valid : tree.Valid) {cwd : Path}
    (normal : Path.Normal cwd) {target : String}
    (vacant : ¬ tree.hasDirectory (Path.resolve target cwd))
    (housed : tree.hasDirectory (Path.parent (Path.resolve target cwd))) (name output : String) :
    (redirect tree name ⟨target, false⟩ output cwd).2.content? (Path.resolve target cwd) =
      some output := by
  have other : Path.resolve target cwd ≠ "" := by
    intro root
    rw [root] at vacant
    exact vacant valid.root
  have houses : tree.Houses (Path.resolve target cwd) :=
    ⟨other, (Path.normal_resolve normal target).getLast?_ne, vacant, housed⟩
  rw [redirect_of_houses houses, Tree.content?, OrderedMap.get?_insert, if_pos rfl]
  rfl

variable {session : Session} {text name word : String}

theorem execute_echo (echoes : session.registry.get? "echo" = some Builtin.echo.run)
    (valid : session.tree.issues = []) (filled : text ≠ "") (trimmed : Text.trim text = text)
    (free : '>' ∉ text.toList) (bare : Bare word) (directory : Option Path) :
    (session.execute ("echo " ++ word ++ " > " ++ text) directory).2.registry = session.registry ∧
      (session.execute ("echo " ++ word ++ " > " ++ text) directory).2.place directory =
        session.place directory ∧
      (session.execute ("echo " ++ word ++ " > " ++ text) directory).2.tree =
        (redirect session.tree "echo" ⟨text, false⟩ word (session.place directory)).2 := by
  have parsed := Invocation.parse_echo bare filled trimmed free
  have said : (Invocation.parse ("echo " ++ word ++ " > " ++ text)).words = ["echo", word] := by
    rw [parsed]
  have named : (Invocation.parse ("echo " ++ word ++ " > " ++ text)).name = "echo" := by
    rw [Invocation.name, said]
    exact (by decide : Text.lower "echo" = "echo")
  have goes : (Invocation.parse ("echo " ++ word ++ " > " ++ text)).redirection =
      some ⟨text, false⟩ := by rw [parsed]
  have replied := dispatch_echo echoes valid said (session.place directory)
  rw [Text.join] at replied
  obtain ⟨history, executed⟩ := execute_redirected replied goes bare.filled
  simp only [executed, named, true_and, and_true]
  exact place_eq rfl

theorem execute_cat (shows : session.registry.get? "cat" = some Builtin.cat.run)
    (valid : session.tree.issues = []) (filled : text ≠ "") (trimmed : Text.trim text = text)
    (free : '>' ∉ text.toList) (one : Words.ofText text = [name]) (directory : Option Path) :
    (session.execute ("cat " ++ text) directory).1.output =
      Command.catText session.tree name (Path.resolve name (session.place directory)) := by
  have cat : Bare "cat" := .of_forall (by decide) (by decide)
  have parsed := Invocation.parse_operands cat filled trimmed free
  rw [one] at parsed
  have said : (Invocation.parse ("cat" ++ " " ++ text)).words = ["cat", name] := by rw [parsed]
  have stays : (Invocation.parse ("cat" ++ " " ++ text)).redirection = none := by rw [parsed]
  have replied := dispatch_cat shows valid said (session.place directory)
  obtain ⟨history, executed⟩ := execute_shown replied stays
  exact congrArg (·.1.output) executed

/-- Output goes to the path that the target names as typed, and nothing else changes. It is the path
    that the target names as an operand, from where `cat` shows the output, exactly when the target
    holds no quotes. -/
theorem redirect_as_typed (echoes : session.registry.get? "echo" = some Builtin.echo.run)
    (shows : session.registry.get? "cat" = some Builtin.cat.run)
    (valid : session.tree.issues = []) {directory : Option Path}
    (normal : Path.Normal (session.place directory)) (free : '>' ∉ text.toList)
    (trimmed : Text.trim text = text) (one : Words.ofText text = [name]) (bare : Bare word)
    (vacant : ¬ session.tree.hasDirectory (Path.resolve name (session.place directory)))
    (housed : session.tree.hasDirectory
      (Path.parent (Path.resolve name (session.place directory)))) :
    let typed := Path.resolve text (session.place directory)
    let meant := Path.resolve name (session.place directory)
    let written := (session.execute ("echo " ++ word ++ " > " ++ text) directory).2
    (typed = meant ↔ ∀ c ∈ text.toList, ¬ Words.isQuote c) ∧
      SameBut typed session.tree written.tree ∧
      (¬ session.tree.hasDirectory typed → session.tree.hasDirectory (Path.parent typed) →
        written.tree.content? typed = some word) ∧
      ((written.execute ("cat " ++ text) directory).1.output = word ↔
        (∀ c ∈ text.toList, ¬ Words.isQuote c) ∨ session.tree.content? meant = some word) := by
  intro typed meant written
  have filled : text ≠ "" := by
    intro empty
    simp [empty, Words.ofText, Words.scan, Words.finish] at one
  have spelled : typed = meant ↔ ∀ c ∈ text.toList, ¬ Words.isQuote c :=
    Path.resolve_text_iff trimmed one (session.place directory)
  obtain ⟨registry, place, tree⟩ :=
    execute_echo echoes valid filled trimmed free bare directory
  have same : SameBut typed session.tree written.tree := by
    rw [tree]
    exact sameBut_redirect session.tree "echo" ⟨text, false⟩ word (session.place directory)
  have stored (vacant : ¬ session.tree.hasDirectory typed)
      (housed : session.tree.hasDirectory (Path.parent typed)) :
      written.tree.content? typed = some word := by
    rw [tree]
    exact content?_redirect (Tree.issues_eq_nil.mp valid) normal vacant housed "echo" word
  refine ⟨spelled, same, stored, ?_⟩
  have sound : written.tree.issues = [] := by
    rw [tree]
    exact Tree.issues_eq_nil.mpr (valid_redirect (Tree.issues_eq_nil.mp valid) normal ..)
  rw [← registry] at shows
  have shown := execute_cat shows sound filled trimmed free one directory
  have spaceless : ' ' ∉ word.toList := fun member => (bare.not_quote ' ' member).2 rfl
  rw [shown, place, Command.catText_eq_iff spaceless]
  by_cases plain : ∀ c ∈ text.toList, ¬ Words.isQuote c
  · have alike : typed = meant := spelled.mpr plain
    rw [alike] at stored
    exact iff_of_true (stored vacant housed) (.inl plain)
  · have apart : meant ≠ typed := fun alike => plain (spelled.mp alike.symm)
    have kept := same.2 meant apart
    rw [or_iff_right plain, ← kept]

theorem redirect_as_typed_seeded :
    ((seeded.execute "echo x > log" none).2.execute "cat log" none).1.output = "x" ∧
      (seeded.execute "echo x > 'my log'" none).2.tree.content? "'my log'" = some "x" ∧
      ((seeded.execute "echo x > 'my log'" none).2.execute "cat 'my log'" none).1.output ≠ "x" := by
  have echoes : seeded.registry.get? "echo" = some Builtin.echo.run := rfl
  have shows : seeded.registry.get? "cat" = some Builtin.cat.run := rfl
  have word : Bare "x" := .of_forall (by decide) (by decide)
  have normal : Path.Normal (seeded.place none) := .inl rfl
  have valid : seeded.tree.issues = [] := by decide +kernel
  have bare : Words.ofText "log" = ["log"] := by decide
  have quoted : Words.ofText "'my log'" = ["my log"] := by decide
  obtain ⟨_, _, _, shown⟩ := redirect_as_typed echoes shows valid normal (by decide) (by decide) bare word
    (by decide +kernel) (by decide +kernel)
  obtain ⟨_, _, stored, misses⟩ := redirect_as_typed echoes shows valid normal (by decide) (by decide) quoted
    word (by decide +kernel) (by decide +kernel)
  refine ⟨shown.mpr (.inl (List.forall_iff_forall_mem.mp (by decide))),
    stored (by decide +kernel) (by decide +kernel), ?_⟩
  intro same
  rcases misses.mp same with plain | old
  · exact plain '\'' (by decide) (by decide)
  · exact absurd old (by decide +kernel)

theorem quoted_target_misses :
    seeded.registry = Builtin.registry Builtin.run ∧ seeded.tree.issues = [] ∧
      Path.Normal (seeded.place none) ∧ '>' ∉ "\"a b\"".toList ∧ Text.trim "\"a b\"" = "\"a b\"" ∧
      Words.ofText "\"a b\"" = ["a b"] ∧ Bare "x" ∧
      ¬ seeded.tree.hasDirectory (Path.resolve "a b" (seeded.place none)) ∧
      seeded.tree.hasDirectory (Path.parent (Path.resolve "a b" (seeded.place none))) ∧
      Path.resolve "a b" (seeded.place none) = "a b" ∧
      (seeded.execute "echo x > \"a b\"" none).2.tree.content? "a b" = none ∧
      (seeded.execute "echo x > \"a b\"" none).2.tree.content? "\"a b\"" = some "x" ∧
      ((seeded.execute "echo x > \"a b\"" none).2.execute "cat \"a b\"" none).1.output =
        "cat: a b: No such file or directory" := by
  have word : Bare "x" := .of_forall (by decide) (by decide)
  refine ⟨rfl, by decide +kernel, .inl rfl, by decide, by decide, by decide, word, ?_⟩
  decide +kernel

end Session

end TreeShell
