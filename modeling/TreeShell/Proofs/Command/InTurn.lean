import TreeShell.Proofs.Command.Sequence

namespace TreeShell.Command

variable {ctx : Context} {world : World} {tree : Tree} {word : String}

/-! ## Creating files -/

def Context.Housed (ctx : Context) (tree : Tree) (word : String) : Prop :=
  Path.parent (ctx.resolve word) = "" ∨ tree.hasDirectory (Path.parent (ctx.resolve word))

theorem Context.Housed.createFile (housed : ctx.Housed tree word) (path : Path) (content : String) :
    ctx.Housed (tree.createFile path content).2 word := by
  rwa [Context.Housed, Tree.hasDirectory, tree.directories_createFile path content]

theorem touchOne_cases (ctx : Context) (tree : Tree) (word : String) :
    ¬ ctx.Housed tree word ∧ (∃ complaint, touchOne ctx tree word = (tree, some complaint)) ∨
      ctx.Housed tree word ∧
        touchOne ctx tree word = ((tree.createFile (ctx.resolve word) "").2, none) := by
  unfold touchOne Context.Housed
  dsimp only
  split
  · rename_i orphan
    simp only [Bool.not_eq_true', ← Bool.not_eq_true] at orphan
    exact .inl ⟨not_or.mpr orphan, _, rfl⟩
  · rename_i housed
    rw [Classical.not_and_iff_not_or_not, Classical.not_not, Bool.not_eq_true',
      Bool.not_eq_false] at housed
    refine .inr ⟨housed, ?_⟩
    split
    · rename_i present
      rw [(Tree.full_of_has present).createFile]
    · rfl

structure Touched (ctx : Context) (word : String) (tree : Tree) : Prop where
  housed : ctx.Housed tree word
  full : tree.Full (ctx.resolve word)

theorem Touched.again (touched : Touched ctx word tree) : touchOne ctx tree word = (tree, none) := by
  rcases touchOne_cases ctx tree word with ⟨orphan, _⟩ | ⟨_, same⟩
  · exact absurd touched.housed orphan
  · rw [same, touched.full.createFile]

theorem Touched.keep (touched : Touched ctx word tree) (other : String) :
    Touched ctx word (touchOne ctx tree other).1 := by
  rcases touchOne_cases ctx tree other with ⟨_, _, same⟩ | ⟨_, same⟩
  · rwa [same]
  · rw [same]
    exact ⟨touched.housed.createFile _ "", touched.full.keep ""⟩

theorem touched_of_quiet {after : Tree} (quiet : touchOne ctx tree word = (after, none)) :
    Touched ctx word after := by
  rcases touchOne_cases ctx tree word with ⟨_, _, same⟩ | ⟨housed, same⟩
  · rw [same] at quiet
    cases quiet
  · rw [same] at quiet
    cases quiet
    exact ⟨housed.createFile _ "", tree.full_createFile _ ""⟩

def touching (ctx : Context) (tree : Tree) (word : String) : Except Setback OperandResult :=
  .ok (touchOne ctx tree word)

theorem eachOperand_touched {words : List String}
    (touched : ∀ word ∈ words, Touched ctx word tree) :
    eachOperand (touching ctx) tree words = .ok (tree, none) := by
  induction words with
  | nil => rfl
  | cons word rest ih =>
    rw [eachOperand, touching, (touched word (List.mem_cons_self ..)).again]
    exact ih fun other member => touched other (List.mem_cons_of_mem _ member)

theorem touched_of_handled {words : List String} {after : Tree}
    (handled : eachOperand (touching ctx) tree words = .ok (after, none)) :
    ∀ word ∈ words, Touched ctx word after := by
  induction words generalizing tree with
  | nil => nofun
  | cons word rest ih =>
    rcases first : touchOne ctx tree word with ⟨middle, _ | complaint⟩
    · rw [eachOperand, touching, first] at handled
      refine List.forall_mem_cons.mpr ⟨?_, ih handled⟩
      have here : Touched ctx word middle := touched_of_quiet first
      refine eachOperand_keeps ?_ here handled
      intro other _ before result touched done
      rw [← Except.ok.inj done]
      exact touched.keep other
    · rw [eachOperand, touching, first] at handled
      cases handled

theorem touch_eq_handling (present : ctx.args ≠ []) :
    touch ctx world = handling (touching ctx) ctx.args world := by
  apply editing_handling
  rw [if_neg (by simpa using present)]
  rfl

theorem touch_in_turn {front words : List String} (args : ctx.args = front ++ words)
    (filled : words ≠ []) :
    touch ctx world =
      inTurn (fun word => touch { ctx with args := front ++ [word] }) words world := by
  have spoken (tree : Tree) (word : String) : Spoken (touching ctx tree word) :=
    (settled_touchOne ctx tree word).spoken
  have one (word : String) (world : World) :
      touch { ctx with args := front ++ [word] } world =
        handling (touching ctx) (front ++ [word]) world := touch_eq_handling (by simp)
  obtain ⟨first, rest, rfl⟩ := List.exists_cons_of_ne_nil filled
  have split : front ++ first :: rest = (front ++ [first]) ++ rest := by simp
  rw [touch_eq_handling (by simp [args]), args, split, handling_append spoken, inTurn]
  symm
  apply andThen_congr (one first world)
  intro reply after answered quiet
  -- From the second call on, the words in front have been touched.
  have handled := handled_of_quiet spoken answered quiet
  have touched : ∀ word ∈ front, Touched ctx word after.tree := fun word member =>
    touched_of_handled handled word (List.mem_append_left _ member)
  refine inTurn_eq_handling (fun tree => ∀ word ∈ front, Touched ctx word tree) spoken ?_ ?_ touched
  · intro word _ world idle
    have nothing := handling_eq (eachOperand_touched idle)
    rw [one, handling_append spoken]
    exact andThen_of_quiet nothing rfl
  · intro other _ tree result idle done word member
    rw [← Except.ok.inj done]
    exact (idle word member).keep other

/-! ## Creating directories and removing -/

theorem editing_in_turn {step : Context → Tree → String → Except Setback OperandResult}
    (missing : String) (spoken : ∀ ctx tree word, Spoken (step ctx tree word))
    (alike : ∀ word ∈ ctx.operands, step (ctx.withOperands [word]) = step ctx)
    (filled : ctx.operands ≠ []) :
    let command : Handler := .editing fun ctx tree =>
      if ctx.operands.isEmpty then .ok (tree, .text missing)
      else report (eachOperand (step ctx) tree ctx.operands)
    command ctx world =
      inTurn (fun word => command (ctx.withOperands [word])) ctx.operands world := by
  intro command
  have handles (ctx : Context) (world : World) (present : ctx.operands ≠ []) :
      command ctx world = handling (step ctx) ctx.operands world := by
    apply editing_handling
    exact if_neg (by simpa using present)
  rw [handles ctx world filled]
  symm
  refine inTurn_eq_handling (fun _ => True) (spoken ctx) ?_ (fun _ _ _ _ _ _ => trivial) trivial
  intro word member world _
  have alone : (ctx.withOperands [word]).operands = [word] :=
    Context.operands_withOperands (Context.plain_singleton member)
  rw [handles _ world (by simp [alone]), alone, alike word member]

def making (ctx : Context) (tree : Tree) (word : String) : Except Setback OperandResult :=
  .ok (mkdirOne ctx (ctx.hasFlag ["-p"]) tree word)

def removing (ctx : Context) (tree : Tree) (word : String) : Except Setback OperandResult :=
  .ok (rmOne ctx (ctx.hasFlag ["-r", "-R", "-rf", "-fr"]) (ctx.hasFlag ["-f", "-rf", "-fr"]) tree
    word)

theorem mkdir_in_turn (filled : ctx.operands ≠ []) :
    mkdir ctx world =
      inTurn (fun word => mkdir (ctx.withOperands [word])) ctx.operands world := by
  have spoken (ctx : Context) (tree : Tree) (word : String) : Spoken (making ctx tree word) :=
    (settled_mkdirOne ctx _ tree word).spoken
  have alike : ∀ word ∈ ctx.operands, making (ctx.withOperands [word]) = making ctx := by
    intro word member
    have plain := Context.plain_singleton member
    funext tree other
    rw [making, making, Context.hasFlag_withOperands plain (by decide)]
    rfl
  exact editing_in_turn "mkdir: missing operand" spoken alike filled

theorem rm_in_turn (filled : ctx.operands ≠ []) :
    rm ctx world = inTurn (fun word => rm (ctx.withOperands [word])) ctx.operands world := by
  have spoken (ctx : Context) (tree : Tree) (word : String) : Spoken (removing ctx tree word) :=
    (settled_rmOne ctx _ _ tree word).spoken
  have alike : ∀ word ∈ ctx.operands, removing (ctx.withOperands [word]) = removing ctx := by
    intro word member
    have plain := Context.plain_singleton member
    funext tree other
    rw [removing, removing, Context.hasFlag_withOperands plain (by decide),
      Context.hasFlag_withOperands plain (by decide)]
    rfl
  exact editing_in_turn "rm: missing operand" spoken alike filled

/-! ## Transfers -/

namespace Transfer

variable {transfer : Transfer} {source target : Path} {result : OperandResult}

theorem directories_copyFiles {files : List Path}
    (below : ∀ file ∈ files, Path.isBelow file source) {copied : Bool × Tree}
    (done : copyFiles source target tree files = .ok copied) :
    copied.2.directories = tree.directories := by
  induction files generalizing tree copied with
  | nil =>
    cases done
    rfl
  | cons file rest ih =>
    obtain ⟨content, others, _, later, rfl⟩ :=
      copyFiles_cons (below file (List.mem_cons_self ..)) done
    rw [ih (fun other member => below other (List.mem_cons_of_mem _ member)) later]
    exact tree.directories_writeFile _ content

theorem hasDirectory_copyTree {copied : Bool × Tree} {directory : Path}
    (outside : ¬ Path.isBelow target source) (present : tree.hasDirectory directory)
    (done : copyTree tree source target = .ok copied) : copied.2.hasDirectory directory := by
  have below : ∀ file ∈ tree.filesBelow source, Path.isBelow file source :=
    fun file member => (Tree.mem_filesBelow.mp member).2
  rw [copyTree_eq outside] at done
  rw [Tree.hasDirectory, directories_copyFiles below done]
  exact (hasDirectory_createAll tree _ directory).mpr (.inl present)

theorem Passes.hasDirectory_pruned {directory name : Path} {copied : Tree}
    (passes : Passes tree source (Path.join directory name))
    (present : copied.hasDirectory directory) :
    (copied.pruned source).hasDirectory directory := by
  refine (copied.hasDirectory_pruned source directory).mpr ⟨present, ?_, ?_⟩
  · rintro rfl
    apply passes.outside
    exact (Path.isBelow_iff_join passes.source_ne_root).mpr ⟨name, rfl⟩
  · intro below
    apply passes.outside
    rw [Path.join_of_ne_empty (Path.ne_empty_of_isBelow below), String.append_assoc]
    exact Path.isBelow_append below _

theorem hasDirectory_file {command : String} {destination : Destination} {directory : Path}
    (isFile : tree.hasFile source) (present : tree.hasDirectory directory)
    (done : transfer.file command destination tree source target = .ok result) :
    result.1.hasDirectory directory := by
  have same : result.1.directories = tree.directories := by
    rcases file_cases transfer command destination isFile target with
      ⟨_, _, refused⟩ | ⟨_, still⟩ | ⟨content, _, _, _, written⟩
    · rw [refused] at done
      cases done
      rfl
    · rw [still] at done
      cases done
      rfl
    · rw [written] at done
      cases done
      dsimp only
      split
      · rw [Tree.directories_removeFile, Tree.directories_writeFile]
      · exact tree.directories_writeFile target content
  rwa [Tree.hasDirectory, same]

theorem hasDirectory_folder {command : String} {destination : Destination} {directory name : Path}
    (folder : tree.hasDirectory source) (present : tree.hasDirectory directory)
    (done : transfer.folder command destination tree word source (Path.join directory name) =
      .ok result) : result.1.hasDirectory directory := by
  rcases folder_cases transfer command destination word folder (Path.join directory name) with
    ⟨_, _, refused⟩ | ⟨passes, same⟩
  · rw [refused] at done
    cases done
    exact present
  rw [same] at done
  cases copied : copyTree tree source (Path.join directory name) with
  | error fault =>
    rw [copied] at done
    cases done
  | ok outcome =>
    have kept := hasDirectory_copyTree passes.outside present copied
    obtain ⟨complete, after⟩ := outcome
    rw [copied] at done
    cases done
    cases complete with
    | false => exact kept
    | true =>
      dsimp only [finished]
      split
      · rcases after.removeDirectory_cases source true with still | ⟨_, pruned⟩
        · rwa [still]
        · rw [pruned]
          exact passes.hasDirectory_pruned kept
      · exact kept

theorem spoken_file {command : String} {destination : Destination} (isFile : tree.hasFile source) :
    Spoken (transfer.file command destination tree source target) := by
  rcases file_cases transfer command destination isFile target with
    refused | ⟨_, still⟩ | ⟨_, _, _, _, written⟩
  · exact refused.spoken
  · rw [still]
    exact spoken_done tree
  · rw [written]
    exact spoken_done _

theorem spoken_folder {command : String} {destination : Destination}
    (folder : tree.hasDirectory source) :
    Spoken (transfer.folder command destination tree word source target) := by
  rcases folder_cases transfer command destination word folder target with refused | ⟨_, same⟩
  · exact refused.spoken
  · obtain ⟨⟨complete, after⟩, copied⟩ := answered_copyTree tree source target
    rw [same, copied]
    cases complete with
    | false => exact (refused_saying (by decide) after _).spoken
    | true => exact spoken_done _

theorem spoken_one (transfer : Transfer) (ctx : Context) (recursive : Bool)
    (destination : Destination) (tree : Tree) (word : String) :
    Spoken (transfer.one ctx recursive destination tree word) := by
  unfold one
  dsimp only
  split
  · rename_i isFile
    exact spoken_file isFile
  split
  · rename_i folder
    split
    · exact spoken_folder folder
    · exact (refused_saying (by decide) tree _).spoken
  · exact (refused_saying (by decide) tree _).spoken

def Destination.into (ctx : Context) (word : String) : Destination := ⟨word, ctx.resolve word, true⟩

theorem Destination.target_into (ctx : Context) (word : String) (source : Path) :
    (Destination.into ctx word).target source =
      Path.join (ctx.resolve word) (Path.baseName source) := if_pos rfl

/-- No source takes the directory away into which it goes. -/
theorem hasDirectory_one {recursive : Bool} {destination : String}
    (present : tree.hasDirectory (ctx.resolve destination))
    (done : transfer.one ctx recursive (.into ctx destination) tree word = .ok result) :
    result.1.hasDirectory (ctx.resolve destination) := by
  unfold one at done
  dsimp only at done
  rw [Destination.target_into] at done
  split at done
  · rename_i isFile
    exact hasDirectory_file isFile present done
  split at done
  · rename_i folder
    split at done
    · exact hasDirectory_folder folder present done
    · cases done
      exact present
  · cases done
    exact present

def carrying (transfer : Transfer) (ctx : Context) (destination : String) :
    Tree → String → Except Setback OperandResult :=
  transfer.one ctx (transfer = .move || ctx.hasFlag ["-r", "-R"]) (.into ctx destination)

theorem run_eq_handling {sources : List String} {destination : String}
    (operands : ctx.operands = sources ++ [destination]) (filled : sources ≠ [])
    (into : world.tree.hasDirectory (ctx.resolve destination)) :
    transfer.run ctx world = handling (transfer.carrying ctx destination) sources world := by
  obtain ⟨first, more, rfl⟩ := List.exists_cons_of_ne_nil filled
  obtain ⟨second, rest, split⟩ : ∃ second rest, more ++ [destination] = second :: rest :=
    List.exists_cons_of_ne_nil (by simp)
  have last : (first :: second :: rest).getLastD "" = destination := by
    rw [← split, ← List.cons_append, List.getLastD_concat]
  have others : (first :: second :: rest).dropLast = first :: more := by
    rw [← split, ← List.cons_append, List.dropLast_concat]
  apply editing_handling
  rw [edit, operands, List.cons_append, split]
  dsimp only
  rw [last, others, into, if_neg (by simp)]
  rfl

theorem carrying_withOperands (transfer : Transfer) {source destination : String}
    (member : source ∈ ctx.operands) (memberToo : destination ∈ ctx.operands) :
    (ctx.withOperands [source, destination]).operands = [source] ++ [destination] ∧
      transfer.carrying (ctx.withOperands [source, destination]) destination =
        transfer.carrying ctx destination := by
  have plain : ∀ word ∈ [source, destination], word.toList.head? ≠ some '-' := by
    simpa using ⟨Context.plain_of_mem_operands member, Context.plain_of_mem_operands memberToo⟩
  refine ⟨Context.operands_withOperands plain, ?_⟩
  rw [carrying, carrying, Context.hasFlag_withOperands plain (by decide)]
  rfl

theorem inTurn_eq_carrying {sources : List String} {destination : String}
    (members : ∀ word ∈ sources, word ∈ ctx.operands) (last : destination ∈ ctx.operands)
    (into : world.tree.hasDirectory (ctx.resolve destination)) :
    inTurn (fun word => transfer.run (ctx.withOperands [word, destination])) sources world =
      handling (transfer.carrying ctx destination) sources world := by
  refine inTurn_eq_handling (·.hasDirectory (ctx.resolve destination))
    (spoken_one transfer ctx _ _) ?_ ?_ into
  · intro word member world there
    obtain ⟨operands, same⟩ := carrying_withOperands transfer (members word member) last
    rw [run_eq_handling operands (List.cons_ne_nil _ _) there, same]
  · intro word _ tree result there done
    exact hasDirectory_one there done

theorem run_in_turn {sources : List String} {destination : String} (transfer : Transfer)
    (operands : ctx.operands = sources ++ [destination]) (filled : sources ≠ [])
    (into : world.tree.hasDirectory (ctx.resolve destination)) :
    transfer.run ctx world =
        inTurn (fun word => transfer.run (ctx.withOperands [word, destination])) sources world ∧
      ∀ before after, sources = before ++ after →
        (inTurn (fun word => transfer.run (ctx.withOperands [word, destination])) before
          world).2.tree.hasDirectory (ctx.resolve destination) := by
  have last : destination ∈ ctx.operands := by simp [operands]
  have members : ∀ word ∈ sources, word ∈ ctx.operands := by
    intro word member
    rw [operands]
    exact List.mem_append_left _ member
  constructor
  · rw [run_eq_handling operands filled into, inTurn_eq_carrying members last into]
  · rintro before after rfl
    rw [inTurn_eq_carrying (fun word member => members word (List.mem_append_left _ member)) last
      into]
    refine handling_keeps (·.hasDirectory (ctx.resolve destination)) (spoken_one transfer ctx _ _)
      ?_ into
    intro word _ tree result there done
    exact hasDirectory_one there done

end Transfer

/-- A call with many operands does and says what one call for each does in turn, up to the first that
    has anything to say. Each argument of a touch is an operand of it, and some may come first in
    every call. Where a transfer goes into a directory it stays one all the way. -/
theorem operands_in_turn (ctx : Context) (world : World) :
    (∀ front words, ctx.args = front ++ words → words ≠ [] →
      touch ctx world =
        inTurn (fun word => touch { ctx with args := front ++ [word] }) words world) ∧
    (ctx.operands ≠ [] →
      mkdir ctx world =
          inTurn (fun word => mkdir (ctx.withOperands [word])) ctx.operands world ∧
        rm ctx world = inTurn (fun word => rm (ctx.withOperands [word])) ctx.operands world) ∧
    ∀ sources destination, ctx.operands = sources ++ [destination] → sources ≠ [] →
      world.tree.hasDirectory (ctx.resolve destination) →
      ∀ command, command = cp ∨ command = mv →
        let calls := inTurn fun word => command (ctx.withOperands [word, destination])
        command ctx world = calls sources world ∧
          ∀ before after, sources = before ++ after →
            (calls before world).2.tree.hasDirectory (ctx.resolve destination) := by
  refine ⟨fun _ _ => touch_in_turn, fun filled => ⟨mkdir_in_turn filled, rm_in_turn filled⟩, ?_⟩
  intro sources destination operands filled into command either
  rcases either with rfl | rfl
  · exact Transfer.run_in_turn .copy operands filled into
  · exact Transfer.run_in_turn .move operands filled into

theorem operands_in_turn_crowded :
    let ctx := rootContext "mv" ["docs/intro.md", "docs/none", "docs/guides", "src"]
    let calls := inTurn fun word => mv (ctx.withOperands [word, "src"])
    touch ctx crowded =
        inTurn (fun word => touch { ctx with args := ["docs/intro.md"] ++ [word] })
          ["docs/none", "docs/guides", "src"] crowded ∧
      mkdir ctx crowded =
        inTurn (fun word => mkdir (ctx.withOperands [word])) ctx.operands crowded ∧
      mv ctx crowded = calls ["docs/intro.md", "docs/none", "docs/guides"] crowded ∧
      (calls ["docs/intro.md", "docs/none"] crowded).2.tree.hasDirectory "src" ∧
      (mv ctx crowded).1.toOption.map Reply.output =
        some "mv: cannot stat 'docs/none': No such file or directory" ∧
      (mv ctx crowded).2.tree.content? "src/intro.md" = some "hi" ∧
      (mv ctx crowded).2.tree.hasDirectory "docs/guides" := by
  intro ctx calls
  obtain ⟨touched, edited, moved⟩ := operands_in_turn ctx crowded
  obtain ⟨same, stays⟩ := moved ["docs/intro.md", "docs/none", "docs/guides"] "src" (by decide)
    (List.cons_ne_nil _ _) (by decide +kernel) mv (.inr rfl)
  exact ⟨touched ["docs/intro.md"] _ rfl (List.cons_ne_nil _ _), (edited (by decide)).1, same,
    stays ["docs/intro.md", "docs/none"] ["docs/guides"] rfl, by decide +kernel, by decide +kernel,
    by decide +kernel⟩

end TreeShell.Command
