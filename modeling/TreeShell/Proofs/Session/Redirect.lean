import TreeShell.Proofs.Invocation.Typed
import TreeShell.Proofs.Session.Sound

namespace TreeShell

namespace Tree

/-- The file at a path holds some texts, one to a line; without any there is no file. -/
def Holds (tree : Tree) (path : Path) (texts : List String) : Prop :=
  tree.content? path = if texts = [] then none else some (Text.join "\n" texts)

theorem holds_content? (tree : Tree) (path : Path) :
    tree.Holds path (tree.content? path).toList := by
  unfold Holds
  cases tree.content? path <;> rfl

end Tree

namespace Echo

def text (echo : Echo) : String := Text.join " " (echo.words.map Quoted.text)

def onto (texts : List String) (echo : Echo) : List String :=
  if echo.append then texts ++ [echo.text] else [echo.text]

def textsAfter (texts : List String) (echoes : List Echo) : List String := echoes.foldl onto texts

theorem textsAfter_of_append {echoes : List Echo} (appends : ∀ echo ∈ echoes, echo.append)
    (texts : List String) : textsAfter texts echoes = texts ++ echoes.map text := by
  induction echoes generalizing texts with
  | nil => simp [textsAfter]
  | cons echo rest ih =>
    have here : onto texts echo = texts ++ [echo.text] :=
      if_pos (appends echo (List.mem_cons_self ..))
    have others : ∀ other ∈ rest, other.append := fun other member =>
      appends other (List.mem_cons_of_mem _ member)
    have later := ih others (onto texts echo)
    rw [textsAfter, List.foldl_cons, ← textsAfter, later, here]
    simp

theorem textsAfter_of_write {last : Echo} (writes : ¬ last.append) {later : List Echo}
    (appends : ∀ echo ∈ later, echo.append) (texts : List String) (before : List Echo) :
    textsAfter texts (before ++ last :: later) = (last :: later).map text := by
  have fresh (texts : List String) : onto texts last = [last.text] := if_neg writes
  have rest := textsAfter_of_append appends [last.text]
  rw [textsAfter, List.foldl_append, List.foldl_cons, fresh, ← textsAfter, rest]
  rfl

theorem text_ne_empty (echo : Echo) : echo.text ≠ "" := by
  obtain ⟨word, rest, whole⟩ := List.exists_cons_of_ne_nil echo.filled
  rw [text, whole, List.map_cons]
  by_cases more : rest.map Quoted.text = []
  · rw [more]
    exact word.filled
  · rw [Text.join_cons more]
    simp [word.filled]

theorem onto_ne_nil (texts : List String) (echo : Echo) : Echo.onto texts echo ≠ [] := by
  unfold onto
  split <;> simp

end Echo

/-! ## What `cat` shows -/

def Command.catText (tree : Tree) (word : String) (path : Path) : String :=
  match tree.content? path with
  | some content => content
  | none =>
    if tree.hasDirectory path then s!"cat: {word}: Is a directory"
    else s!"cat: {word}: No such file or directory"

theorem Command.catOne_eq (ctx : Context) (tree : Tree) (word : String) :
    catOne ctx tree word = .ok (catText tree word (ctx.resolve word)) := by
  unfold catOne catText
  dsimp only
  cases stored : tree.content? (ctx.resolve word) with
  | none =>
    have free : ¬ tree.hasFile (ctx.resolve word) := by
      rw [Tree.hasFile_iff_content?, stored]
      simp
    rw [if_neg free]
    split <;> rfl
  | some content =>
    rw [if_pos (Tree.hasFile_iff_content?.mpr ⟨content, stored⟩), Tree.read, stored]

namespace Session

variable {session : Session} {line output : String} {directory : Option Path}

/-! ## Lines whose command only shows a text -/

theorem execute_shown
    (replied : session.dispatch (Invocation.parse line) (session.place directory) =
      (.text output, session))
    (stays : (Invocation.parse line).redirection = none) :
    ∃ history, session.execute line directory =
      (⟨output, session.place directory, false⟩,
        { session with cwd := session.place directory, history }) := by
  unfold place at replied
  simp only [execute, replied, stays, place]
  exact ⟨_, rfl⟩

theorem execute_redirected {redirection : Redirection}
    (replied : session.dispatch (Invocation.parse line) (session.place directory) =
      (.text output, session))
    (goes : (Invocation.parse line).redirection = some redirection) (filled : output ≠ "") :
    ∃ history, session.execute line directory =
      (⟨(redirect session.tree (Invocation.parse line).name redirection output
          (session.place directory)).1, session.place directory, false⟩,
        { session with
          tree := (redirect session.tree (Invocation.parse line).name redirection output
            (session.place directory)).2
          cwd := session.place directory, history }) := by
  unfold place at replied
  simp only [execute, replied, goes, place]
  have long : ¬ (Reply.text output).output = "" := filled
  simp only [if_neg long]
  exact ⟨_, rfl⟩

def redirected (append : Bool) (old : Option String) (output : String) : String :=
  match append, old with
  | true, some old => old ++ "\n" ++ output
  | _, _ => output

theorem redirect_of_houses {tree : Tree} {target : String} {cwd : Path}
    (houses : tree.Houses (Path.resolve target cwd)) (name : String) (append : Bool)
    (output : String) :
    redirect tree name ⟨target, append⟩ output cwd =
      ("", { tree with
        files := tree.files.insert (Path.resolve target cwd)
          (redirected append (tree.content? (Path.resolve target cwd)) output) }) := by
  have housed : ¬ (Path.parent (Path.resolve target cwd) ≠ "" ∧
      !tree.hasDirectory (Path.parent (Path.resolve target cwd))) := by
    simp [houses.housed]
  unfold redirect
  dsimp only
  rw [if_neg housed, houses.writeFile]
  cases append <;> cases tree.content? (Path.resolve target cwd) <;> rfl

theorem redirect_holds {tree : Tree} {target : String} {cwd path : Path} {texts : List String}
    (resolved : path = Path.resolve target cwd) (houses : tree.Houses path)
    (holds : tree.Holds path texts) (name : String) (echo : Echo) :
    ∃ content, redirect tree name ⟨target, echo.append⟩ echo.text cwd =
        ("", { tree with files := tree.files.insert path content }) ∧
      content = Text.join "\n" (Echo.onto texts echo) := by
  subst resolved
  refine ⟨_, redirect_of_houses houses name echo.append echo.text, ?_⟩
  rw [holds, Echo.onto]
  cases echo.append with
  | false => rfl
  | true =>
    by_cases none : texts = []
    · simp [redirected, none, Text.join]
    · simp [redirected, none, Text.join_append none, Text.join]

/-! ## Lines that write to one file -/

theorem dispatch_echo (echoes : session.registry.get? "echo" = some Builtin.echo.run)
    (sound : session.tree.issues = []) {invocation : Invocation} {words : List String}
    (said : invocation.words = "echo" :: words) (cwd : Path) :
    session.dispatch invocation cwd = (.text (Text.join " " words), session) := by
  have named : invocation.name = "echo" := by
    rw [Invocation.name, said]
    exact (by decide : Text.lower "echo" = "echo")
  have args : (session.context invocation cwd).args = words := by
    rw [context_args, Invocation.args, said]
    rfl
  rw [← named] at echoes
  rw [dispatch_found (by simp [named]) echoes sound, ← args]
  rfl

theorem dispatch_cat (shows : session.registry.get? "cat" = some Builtin.cat.run)
    (sound : session.tree.issues = []) {invocation : Invocation} {word : String}
    (said : invocation.words = ["cat", word]) (cwd : Path) :
    session.dispatch invocation cwd =
      (.text (Command.catText session.tree word (Path.resolve word cwd)), session) := by
  have named : invocation.name = "cat" := by
    rw [Invocation.name, said]
    exact (by decide : Text.lower "cat" = "cat")
  have args : (session.context invocation cwd).args = [word] := by
    rw [context_args, Invocation.args, said]
    rfl
  have ran : Builtin.cat.run (session.context invocation cwd) session.world =
      (.ok (.text (Command.catText session.tree word (Path.resolve word cwd))),
        session.world) := by
    simp only [Builtin.run, Command.cat, Command.Handler.asking, args, List.isEmpty_cons,
      List.mapM_cons, List.mapM_nil, Command.catOne_eq]
    rfl
  rw [← named] at shows
  rw [dispatch_found (by simp [named]) shows sound, ran]
  rfl

/-- A session in which lines in a directory may write to the file at a path under a name. -/
structure Ready (session : Session) (directory : Option Path) (target : String) (path : Path) :
    Prop where
  echoes : session.registry.get? "echo" = some Builtin.echo.run
  shows : session.registry.get? "cat" = some Builtin.cat.run
  valid : session.tree.Valid
  normal : Path.Normal (session.place directory)
  bare : Bare target
  resolved : path = Path.resolve target (session.place directory)
  houses : session.tree.Houses path

def SameBut (path : Path) (before after : Tree) : Prop :=
  after.directories = before.directories ∧
    ∀ other, other ≠ path → after.content? other = before.content? other

variable {target : String} {path : Path} {texts : List String}

theorem Ready.echo (ready : session.Ready directory target path)
    (holds : session.tree.Holds path texts) (echo : Echo) :
    (session.execute (echo.line target) directory).1.output = "" ∧
      (session.execute (echo.line target) directory).2.Ready directory target path ∧
      (session.execute (echo.line target) directory).2.tree.Holds path (Echo.onto texts echo) ∧
      SameBut path session.tree (session.execute (echo.line target) directory).2.tree := by
  obtain ⟨echoes, shows, valid, normal, bare, resolved, houses⟩ := ready
  have said : (Invocation.parse (echo.line target)).words = "echo" :: echo.words.map Quoted.text := by
    rw [echo.parse_line bare]
  have replied := dispatch_echo echoes (Tree.issues_eq_nil.mpr valid) said
    (session.place directory)
  rw [← Echo.text] at replied
  have goes : (Invocation.parse (echo.line target)).redirection = some ⟨target, echo.append⟩ := by
    rw [echo.parse_line bare]
  obtain ⟨history, executed⟩ := execute_redirected replied goes echo.text_ne_empty
  obtain ⟨content, written, joined⟩ := redirect_holds resolved houses holds
    (Invocation.parse (echo.line target)).name echo
  rw [executed, written]
  have relative : ¬ Path.Absolute path := by
    rw [resolved]
    exact (Path.normal_resolve normal target).not_absolute
  have validAfter := valid.writeFile relative content
  rw [houses.writeFile] at validAfter
  have place (tree : Tree) : ({ session with
      tree, cwd := session.place directory, history } : Session).place directory =
        session.place directory := place_eq rfl
  refine ⟨rfl, ⟨echoes, shows, validAfter, ?_, bare, ?_, ?_⟩, ?_, rfl, ?_⟩
  · rw [place]
    exact normal
  · rw [place]
    exact resolved
  · exact ⟨houses.filled, houses.ends, houses.free, houses.housed⟩
  · unfold Tree.Holds Tree.content?
    rw [OrderedMap.get?_insert, if_pos rfl, if_neg (Echo.onto_ne_nil texts echo), joined]
  · intro other elsewhere
    unfold Tree.content?
    rw [OrderedMap.get?_insert, if_neg elsewhere]

/-! ## Runs of such lines -/

def writes (target : String) (directory : Option Path) (echoes : List Echo) : List Step :=
  echoes.map fun echo => .execute (echo.line target) directory

theorem Ready.writes (ready : session.Ready directory target path)
    (holds : session.tree.Holds path texts) (echoes : List Echo) :
    (session.after (writes target directory echoes)).Ready directory target path ∧
      (session.after (writes target directory echoes)).tree.Holds path
        (Echo.textsAfter texts echoes) ∧
      SameBut path session.tree (session.after (writes target directory echoes)).tree := by
  -- What a line leaves behind is ready for the next one, and the file holds the texts so far.
  induction echoes generalizing session texts with
  | nil => exact ⟨ready, holds, rfl, fun _ _ => rfl⟩
  | cons echo rest ih =>
    obtain ⟨_, readyNext, holdsNext, directories, contents⟩ := ready.echo holds echo
    obtain ⟨readyLast, holdsLast, directoriesLast, contentsLast⟩ := ih readyNext holdsNext
    refine ⟨readyLast, holdsLast, directoriesLast.trans directories, ?_⟩
    intro other elsewhere
    exact (contentsLast other elsewhere).trans (contents other elsewhere)

theorem Ready.cat (ready : session.Ready directory target path)
    (holds : session.tree.Holds path texts) (filled : texts ≠ []) :
    (session.execute ("cat" ++ " " ++ target) directory).1.output = Text.join "\n" texts := by
  have stored : session.tree.content? (Path.resolve target (session.place directory)) =
      some (Text.join "\n" texts) := by
    rw [← ready.resolved, holds, if_neg filled]
  have parsed := Invocation.parse_operands (.of_forall (by decide) (by decide) : Bare "cat")
    ready.bare.filled ready.bare.trim ready.bare.not_mem_arrow
  rw [ready.bare.ofText] at parsed
  have said : (Invocation.parse ("cat" ++ " " ++ target)).words = ["cat", target] := by rw [parsed]
  have replied := dispatch_cat ready.shows (Tree.issues_eq_nil.mpr ready.valid) said
    (session.place directory)
  have stays : (Invocation.parse ("cat" ++ " " ++ target)).redirection = none := by rw [parsed]
  obtain ⟨history, executed⟩ := execute_shown replied stays
  rw [executed, Command.catText, stored]

/-- Lines that write to a file show nothing and change nothing else. Afterwards `cat` shows the
    texts from the last line on that overwrites, or else all texts behind the old content. -/
theorem cat_after_writes (echoes : session.registry.get? "echo" = some Builtin.echo.run)
    (shows : session.registry.get? "cat" = some Builtin.cat.run)
    (valid : session.tree.issues = []) (normal : Path.Normal (session.place directory))
    (bare : Bare target) (resolved : path = Path.resolve target (session.place directory))
    (filled : path ≠ "") (free : ¬ session.tree.hasDirectory path)
    (housed : session.tree.hasDirectory (Path.parent path)) {lines : List Echo}
    (nonempty : lines ≠ []) :
    (∀ before echo later, lines = before ++ echo :: later →
      ((session.after (writes target directory before)).execute (echo.line target)
        directory).1.output = "") ∧
    (∀ before last later, lines = before ++ last :: later → ¬ last.append →
      (∀ echo ∈ later, echo.append) →
        ((session.after (writes target directory lines)).execute ("cat " ++ target)
          directory).1.output = Text.join "\n" ((last :: later).map Echo.text)) ∧
    ((∀ echo ∈ lines, echo.append) →
      ((session.after (writes target directory lines)).execute ("cat " ++ target)
        directory).1.output =
          Text.join "\n" ((session.tree.content? path).toList ++ lines.map Echo.text)) ∧
    (session.after (writes target directory lines)).tree.directories =
      session.tree.directories ∧
    ∀ other, other ≠ path → (session.after (writes target directory lines)).tree.content? other =
      session.tree.content? other := by
  have ends : path.toList.getLast? ≠ some '/' := by
    rw [resolved]
    exact (Path.normal_resolve normal target).getLast?_ne
  have ready : session.Ready directory target path :=
    ⟨echoes, shows, Tree.issues_eq_nil.mp valid, normal, bare, resolved, filled, ends, free, housed⟩
  have holds := session.tree.holds_content? path
  obtain ⟨readyLast, holdsLast, directories, contents⟩ := ready.writes holds lines
  refine ⟨?_, ?_, ?_, directories, contents⟩
  · intro before echo later _
    obtain ⟨readyThen, holdsThen, _⟩ := ready.writes holds before
    exact (readyThen.echo holdsThen echo).1
  · intro before last later whole overwrites appends
    have texts := Echo.textsAfter_of_write overwrites appends
      (session.tree.content? path).toList before
    rw [← whole] at texts
    rw [texts] at holdsLast
    exact readyLast.cat holdsLast (by simp)
  · intro appends
    have texts := Echo.textsAfter_of_append appends (session.tree.content? path).toList
    rw [texts] at holdsLast
    exact readyLast.cat holdsLast (by simp [nonempty])

def overwriting : Echo :=
  ⟨[⟨"old  news", '"', 0, by decide, by decide, by decide⟩], false, by decide, by decide⟩

def appending : Echo :=
  ⟨[⟨"it's", '"', 0, by decide, by decide, by decide⟩,
    ⟨"\"so\"", '\'', 2, by decide, by decide, by decide⟩], true, by decide, by decide⟩

theorem cat_after_writes_seeded :
    appending.line "log" = "echo \"it's\"   '\"so\"' >> log" ∧
      ((seeded.after (writes "log" none [appending, overwriting, appending])).execute
        "cat log" none).1.output = "old  news\nit's \"so\"" ∧
      ((seeded.after (writes "log" none [appending, appending])).execute
        "cat log" none).1.output = "it's \"so\"\nit's \"so\"" := by
  have echoes : seeded.registry.get? "echo" = some Builtin.echo.run := rfl
  have shows : seeded.registry.get? "cat" = some Builtin.cat.run := rfl
  have bare : Bare "log" := .of_forall (by decide) (by decide)
  have normal : Path.Normal (seeded.place none) := .inl rfl
  have valid : seeded.tree.issues = [] := by decide +kernel
  have free : ¬ seeded.tree.hasDirectory "log" := by decide +kernel
  have housed : seeded.tree.hasDirectory (Path.parent "log") := by decide +kernel
  refine ⟨by decide +kernel, ?_, ?_⟩
  · exact (cat_after_writes echoes shows valid normal bare (by decide +kernel) (by decide) free housed
      (List.cons_ne_nil _ _)).2.1 [appending] overwriting [appending] rfl (by decide) (by decide)
  · exact (cat_after_writes echoes shows valid normal bare (by decide +kernel) (by decide) free housed
      (List.cons_ne_nil _ _)).2.2.1 (by decide)

end Session

end TreeShell
