import TreeShell.Proofs.Command.Sequence

namespace TreeShell

theorem Path.mem_way_iff {path step : Path} (normal : Path.Normal path) (nested : step ≠ "") :
    step ∈ Path.ancestors path ++ [path] ↔ Path.Normal step ∧ Path.Within path step := by
  rcases normal with rfl | canonical
  · have alone : Path.ancestors "" ++ [""] = [""] := by decide
    rw [alone, List.mem_singleton]
    refine iff_of_false nested ?_
    rintro ⟨stepNormal, within⟩
    rw [Path.Within, Path.names_empty, List.prefix_nil] at within
    exact nested (stepNormal.names_eq_nil within)
  · rw [Path.ancestors_append_self canonical, List.mem_map]
    constructor
    · rintro ⟨index, _, rfl⟩
      refine ⟨Path.normal_take path _, ?_⟩
      rw [Path.Within, Path.names_take]
      exact List.take_prefix _ _
    · rintro ⟨stepNormal, within⟩
      have filled : (Path.names step).length ≠ 0 := by
        intro none
        exact nested (stepNormal.names_eq_nil (List.length_eq_zero_iff.mp none))
      have shorter := within.length_le
      have taken : (Path.names path).take (Path.names step).length = Path.names step :=
        (List.prefix_iff_eq_take.mp within).symm
      refine ⟨(Path.names step).length - 1, List.mem_range.mpr (by omega), ?_⟩
      rw [Nat.sub_one_add_one filled, taken, stepNormal.ofSegments_names]

namespace Tree

/-- Paths in an order in which their directories can be created: no file is in the place of one, and
    the directory of each is there or comes before it. -/
structure Led (tree : Tree) (paths : List Path) : Prop where
  free : ∀ path ∈ paths, ¬ tree.hasFile path
  housed : ∀ before path after, paths = before ++ path :: after →
    tree.hasDirectory (Path.parent path) ∨ Path.parent path ∈ before

/-- A list of the paths of some kind at which there is no directory, each once and none before the
    directory that holds it. -/
structure ListsMissing (tree : Tree) (kind : Path → Prop) (paths : List Path) : Prop where
  once : paths.Nodup
  mem_iff : ∀ path, path ∈ paths ↔ kind path ∧ ¬ tree.hasDirectory path
  housed : ∀ before path after, paths = before ++ path :: after →
    tree.hasDirectory (Path.parent path) ∨ Path.parent path ∈ before

variable {tree : Tree} {path : Path} {paths : List Path}

theorem Led.append {more : List Path} (first : tree.Led paths) (second : tree.Led more) :
    tree.Led (paths ++ more) := by
  constructor
  · intro path member
    exact (List.mem_append.mp member).elim (first.free path) (second.free path)
  · intro before path after split
    rcases List.append_eq_append_iff.mp split with ⟨between, rfl, later⟩ | ⟨between, early, rest⟩
    · exact (second.housed between path after later).imp_right (List.mem_append_right _)
    · cases between with
      | nil =>
        have none := second.housed [] path after rest.symm
        exact none.imp_right fun member => absurd member List.not_mem_nil
      | cons other between =>
        rw [List.cons_append, List.cons.injEq] at rest
        obtain ⟨rfl, _⟩ := rest
        exact first.housed before path between early

theorem Led.createDirectory (led : tree.Led (path :: paths)) :
    (tree.createDirectory path).2.Led paths := by
  constructor
  · intro other member
    rw [hasFile_createDirectory]
    exact led.free other (List.mem_cons_of_mem _ member)
  · intro before other after split
    rw [hasDirectory_createDirectory]
    rcases led.housed (path :: before) other after (by rw [split]; rfl) with old | earlier
    · exact .inl (.inl old)
    · rcases List.mem_cons.mp earlier with same | earlier
      · exact .inl (.inr ⟨same, same ▸ led.free path (List.mem_cons_self ..)⟩)
      · exact .inr earlier

theorem ListsMissing.congr {kind other : Path → Prop} (missing : tree.ListsMissing kind paths)
    (same : ∀ path, ¬ tree.hasDirectory path → (kind path ↔ other path)) :
    tree.ListsMissing other paths := by
  refine ⟨missing.once, ?_, missing.housed⟩
  intro path
  rw [missing.mem_iff]
  exact and_congr_left (same path)

/-- What is missing with a directory more, and that directory in front, is what was missing before. -/
theorem ListsMissing.cons {after : Tree} {wanted : List Path}
    (present : ∀ directory, after.hasDirectory directory ↔
      tree.hasDirectory directory ∨ directory = path)
    (fresh : ¬ tree.hasDirectory path) (housed : tree.hasDirectory (Path.parent path))
    (missing : after.ListsMissing (· ∈ wanted) paths) :
    tree.ListsMissing (· ∈ path :: wanted) (path :: paths) := by
  have apart (other : Path) : other ∈ paths ↔ other ∈ wanted ∧ ¬ tree.hasDirectory other ∧
      other ≠ path := by
    rw [missing.mem_iff, present, not_or]
  refine ⟨List.nodup_cons.mpr ⟨fun member => ((apart path).mp member).2.2 rfl, missing.once⟩, ?_, ?_⟩
  · intro other
    by_cases same : other = path
    · simp [same, fresh]
    · simp [same, apart]
  · intro before other rest split
    cases before with
    | nil =>
      rw [List.nil_append, List.cons.injEq] at split
      exact .inl (split.1 ▸ housed)
    | cons first before =>
      rw [List.cons_append, List.cons.injEq] at split
      obtain ⟨rfl, split⟩ := split
      rcases missing.housed before other rest split with above | earlier
      · rcases (present _).mp above with old | same
        · exact .inl old
        · exact .inr (same ▸ List.mem_cons_self ..)
      · exact .inr (List.mem_cons_of_mem _ earlier)

end Tree

namespace Command

variable {ctx : Context} {world : World} {tree : Tree} {word : String} {words : List String}
  {paths : List Path}

/-! ## Creating directories in order -/

theorem createAll_append (tree : Tree) (first rest : List Path) :
    createAll tree (first ++ rest) = createAll (createAll tree first) rest := List.foldl_append

theorem createAll_of_present (present : ∀ path ∈ paths, tree.hasDirectory path) :
    createAll tree paths = tree := by
  induction paths with
  | nil => rfl
  | cons path rest ih =>
    have here : (tree.createDirectory path).2 = tree := by
      rw [Tree.createDirectory, present path (List.mem_cons_self ..)]
      rfl
    rw [createAll, List.foldl_cons, here]
    exact ih fun other member => present other (List.mem_cons_of_mem _ member)

theorem directories_createAll (led : tree.Led paths) :
    ∃ added, (createAll tree paths).directories = tree.directories ++ added ∧
      tree.ListsMissing (· ∈ paths) added := by
  induction paths generalizing tree with
  | nil => exact ⟨[], (List.append_nil _).symm, List.nodup_nil, by simp, by simp⟩
  | cons path rest ih =>
    obtain ⟨added, directories, missing⟩ := ih led.createDirectory
    have free := led.free path (List.mem_cons_self ..)
    have housed := (led.housed [] path rest rfl).resolve_right List.not_mem_nil
    rw [createAll, List.foldl_cons, ← createAll, directories]
    rcases tree.createDirectory_cases path with ⟨taken, same⟩ | ⟨fresh, _, same⟩
    · rw [Tree.has, Bool.or_eq_true] at taken
      have present := taken.resolve_left free
      rw [same] at missing ⊢
      refine ⟨added, rfl, missing.congr ?_⟩
      intro other absent
      have different : other ≠ path := fun here => absent (here ▸ present)
      simp [different]
    · refine ⟨path :: added, by rw [same]; simp, missing.cons ?_ fresh housed⟩
      intro directory
      rw [Tree.hasDirectory_createDirectory]
      simp [free]

theorem fit_createAll (fit : tree.Fit True) (led : tree.Led paths)
    (normal : ∀ path ∈ paths, Path.Normal path) : (createAll tree paths).Fit True := by
  induction paths generalizing tree with
  | nil => exact fit
  | cons path rest ih =>
    have housed := (led.housed [] path rest rfl).resolve_right List.not_mem_nil
    have fitNext : (tree.createDirectory path).2.Fit True :=
      fit.createDirectory (normal path (List.mem_cons_self ..)) fun _ => housed
    exact ih fitNext led.createDirectory fun other member =>
      normal other (List.mem_cons_of_mem _ member)

theorem createAll_again (led : tree.Led paths) :
    createAll (createAll tree paths) paths = createAll tree paths := by
  apply createAll_of_present
  intro path member
  exact (hasDirectory_createAll ..).mpr (.inr ⟨member, led.free path member⟩)

/-! ## The ways to the operands -/

theorem Context.normal_of_mem_way (normal : Path.Normal ctx.cwd) {step : Path}
    (member : step ∈ ctx.way word) : Path.Normal step := by
  by_cases root : step = ""
  · exact .inl root
  · exact ((Path.mem_way_iff (Path.normal_resolve normal word) root).mp member).1

theorem Context.Free.led_way (fit : tree.Fit True) (normal : Path.Normal ctx.cwd)
    (free : ctx.Free tree word) : tree.Led (ctx.way word) := by
  refine ⟨free, ?_⟩
  intro before step after split
  rcases Path.normal_resolve normal word with root | canonical
  · have alone : ctx.way word = [""] := by
      rw [Context.way, show ctx.resolve word = "" from root]
      decide
    have first : step ∈ ctx.way word := by simp [split]
    rw [alone, List.mem_singleton] at first
    rw [first]
    exact .inl fit.valid.root
  · refine (Path.parent_mem_of_ancestors canonical split).imp_left ?_
    intro top
    rw [top]
    exact fit.valid.root

theorem led_ways (fit : tree.Fit True) (normal : Path.Normal ctx.cwd)
    (free : ∀ word ∈ words, ctx.Free tree word) : tree.Led (words.flatMap ctx.way) := by
  induction words with
  | nil => exact ⟨by simp, by simp⟩
  | cons word rest ih =>
    have first := (free word (List.mem_cons_self ..)).led_way fit normal
    exact first.append (ih fun other member => free other (List.mem_cons_of_mem _ member))

theorem fit_ways (fit : tree.Fit True) (normal : Path.Normal ctx.cwd)
    (free : ∀ word ∈ words, ctx.Free tree word) :
    (createAll tree (words.flatMap ctx.way)).Fit True := by
  apply fit_createAll fit (led_ways fit normal free)
  intro path member
  obtain ⟨word, _, onWay⟩ := List.mem_flatMap.mp member
  exact Context.normal_of_mem_way normal onWay

theorem mkdirOne_of_free (fit : tree.Fit True) (normal : Path.Normal ctx.cwd)
    (free : ctx.Free tree word) :
    mkdirOne ctx true tree word = (createAll tree (ctx.way word), none) := by
  have pathNormal : Path.Normal (ctx.resolve word) := Path.normal_resolve normal word
  have above (housed : tree.hasDirectory (Path.parent (ctx.resolve word))) :
      createAll tree (Path.ancestors (ctx.resolve word)) = tree :=
    createAll_of_present (fit.hasDirectory_ancestors pathNormal housed)
  rcases mkdirOne_cases ctx true tree word with ⟨_, refused⟩ | ⟨_, present, same⟩ |
    ⟨_, _, housed, same⟩ | ⟨_, _, _, same⟩
  · exact absurd free (refused rfl)
  · have there : ∀ path ∈ [ctx.resolve word], tree.hasDirectory path := by simpa using present
    rw [same, Context.way, createAll_append, above (fit.hasDirectory_parent present),
      createAll_of_present there]
  · rw [same, Context.way, createAll_append, above (fit.valid.hasDirectory_of_root_or housed)]
    rfl
  · exact same

theorem eachOperand_of_free (fit : tree.Fit True) (normal : Path.Normal ctx.cwd)
    (free : ∀ word ∈ words, ctx.Free tree word) :
    eachOperand (fun tree word => .ok (mkdirOne ctx true tree word)) tree words =
      .ok (createAll tree (words.flatMap ctx.way), none) := by
  induction words generalizing tree with
  | nil => rfl
  | cons word rest ih =>
    have first := free word (List.mem_cons_self ..)
    have led := first.led_way fit normal
    have fitNext := fit_createAll fit led fun _ => Context.normal_of_mem_way normal
    have freeNext : ∀ other ∈ rest, ctx.Free (createAll tree (ctx.way word)) other := by
      intro other member
      rw [Context.free_congr (hasFile_createAll tree (ctx.way word))]
      exact free other (List.mem_cons_of_mem _ member)
    simp only [eachOperand, mkdirOne_of_free fit normal first]
    rw [ih fitNext freeNext, List.flatMap_cons, createAll_append]

theorem free_of_eachOperand (fit : tree.Fit True) (normal : Path.Normal ctx.cwd) {after : Tree}
    (handled : eachOperand (fun tree word => .ok (mkdirOne ctx true tree word)) tree words =
      .ok (after, none)) : ∀ word ∈ words, ctx.Free tree word := by
  induction words generalizing tree with
  | nil => nofun
  | cons word rest ih =>
    have quiet : (mkdirOne ctx true tree word).2 = none ↔ ctx.Free tree word :=
      mkdirOne_quiet_iff fit fun _ => Path.normal_resolve normal word
    rcases made : mkdirOne ctx true tree word with ⟨middle, _ | complaint⟩
    · have free := quiet.mp (by rw [made])
      rw [mkdirOne_of_free fit normal free, Prod.mk.injEq] at made
      obtain ⟨rfl, _⟩ := made
      simp only [eachOperand, mkdirOne_of_free fit normal free] at handled
      have fitNext := fit_createAll fit (free.led_way fit normal)
        fun _ => Context.normal_of_mem_way normal
      intro other member
      rcases List.mem_cons.mp member with rfl | later
      · exact free
      · have freeNext := ih fitNext handled other later
        rwa [Context.free_congr (hasFile_createAll tree (ctx.way word))] at freeNext
    · simp only [eachOperand, made] at handled
      cases handled

/-! ## The command -/

theorem Context.free_iff (valid : tree.Valid) (normal : Path.Normal ctx.cwd) :
    ctx.Free tree word ↔
      ∀ file, tree.hasFile file → ¬ Path.Within (ctx.resolve word) file := by
  have pathNormal : Path.Normal (ctx.resolve word) := Path.normal_resolve normal word
  have onWay (file : Path) (isFile : tree.hasFile file) :
      file ∈ ctx.way word ↔ Path.Within (ctx.resolve word) file := by
    have canonical := valid.fileCanonical file isFile
    have step := Path.mem_way_iff pathNormal (Path.ne_empty_of_isCanonical canonical)
    exact step.trans (and_iff_right (.inr canonical))
  constructor
  · intro free file isFile within
    exact free file ((onWay file isFile).mpr within) isFile
  · intro free step member isFile
    exact free step isFile ((onWay step isFile).mp member)

theorem mkdir_eq_handling (flag : "-p" ∈ ctx.args) (filled : ctx.operands ≠ []) :
    mkdir ctx world =
      handling (fun tree word => .ok (mkdirOne ctx true tree word)) ctx.operands world := by
  have parents : ctx.hasFlag ["-p"] = true := hasFlag_parents.mpr flag
  have present : ¬ ctx.operands.isEmpty := by simpa using filled
  apply editing_handling
  simp only [if_neg present, parents]

def Context.ways (ctx : Context) : List Path := ctx.operands.flatMap ctx.way

theorem Context.mem_ways_iff (normal : Path.Normal ctx.cwd) {path : Path} (nested : path ≠ "") :
    path ∈ ctx.ways ↔
      Path.Normal path ∧ ∃ word ∈ ctx.operands, Path.Within (ctx.resolve word) path := by
  have onWay (word : String) : path ∈ ctx.way word ↔
      Path.Normal path ∧ Path.Within (ctx.resolve word) path :=
    Path.mem_way_iff (Path.normal_resolve normal word) nested
  simp only [Context.ways, List.mem_flatMap, onWay]
  constructor
  · rintro ⟨word, member, pathNormal, within⟩
    exact ⟨pathNormal, word, member, within⟩
  · rintro ⟨pathNormal, word, member, within⟩
    exact ⟨word, member, pathNormal, within⟩

theorem mkdir_of_free (fit : world.tree.Fit True) (normal : Path.Normal ctx.cwd)
    (flag : "-p" ∈ ctx.args) (filled : ctx.operands ≠ [])
    (free : ∀ word ∈ ctx.operands, ctx.Free world.tree word) :
    mkdir ctx world = (.ok (.text ""), { world with tree := createAll world.tree ctx.ways }) := by
  rw [mkdir_eq_handling flag filled]
  exact handling_eq (eachOperand_of_free fit normal free)

theorem mkdir_of_not_free (fit : world.tree.Fit True) (normal : Path.Normal ctx.cwd)
    (flag : "-p" ∈ ctx.args) (filled : ctx.operands ≠ [])
    (blocked : ¬ ∀ word ∈ ctx.operands, ctx.Free world.tree word) :
    ∃ reply after, mkdir ctx world = (.ok reply, after) ∧ reply.output ≠ "" := by
  have spoken (tree : Tree) (word : String) : Spoken (.ok (mkdirOne ctx true tree word)) :=
    (settled_mkdirOne ctx true tree word).spoken
  obtain ⟨after, complaint, handled, said⟩ := spoken_eachOperand spoken world.tree ctx.operands
  rw [mkdir_eq_handling flag filled, handling_eq handled]
  cases complaint with
  | none => exact absurd (free_of_eachOperand fit normal handled) blocked
  | some text => exact ⟨_, _, rfl, fun same => said (congrArg some same)⟩

/-- A call of `mkdir -p` says nothing just when it has operands and no file stands at or above what
    one of them names. Then it has put behind the old directories exactly the missing ones at or
    above what its operands name, and the same call again says and changes nothing. -/
theorem mkdir_parents_exact (valid : world.tree.issues = []) (closed : world.tree.Closed)
    (normal : Path.Normal ctx.cwd) (flag : "-p" ∈ ctx.args) :
    ∃ reply after, mkdir ctx world = (.ok reply, after) ∧
      (reply.output = "" ↔ ctx.operands ≠ [] ∧ ∀ word ∈ ctx.operands,
        ∀ file, world.tree.hasFile file → ¬ Path.Within (ctx.resolve word) file) ∧
      (reply.output = "" →
        (∃ added, after = { world with
            tree := ⟨world.tree.directories ++ added, world.tree.files⟩ } ∧
          world.tree.ListsMissing (fun path => Path.Normal path ∧
            ∃ word ∈ ctx.operands, Path.Within (ctx.resolve word) path) added) ∧
        mkdir ctx after = (.ok reply, after)) := by
  have sound := Tree.issues_eq_nil.mp valid
  have fit : world.tree.Fit True := ⟨sound, fun _ => closed⟩
  simp only [← Context.free_iff sound normal]
  by_cases none : ctx.operands = []
  · have silent : mkdir ctx world = (.ok (.text "mkdir: missing operand"), world) := by
      simp [mkdir, Handler.editing, none]
    refine ⟨_, _, silent, ?_, ?_⟩ <;> simp [none, Reply.text]
  by_cases free : ∀ word ∈ ctx.operands, ctx.Free world.tree word
  · have led : world.tree.Led ctx.ways := led_ways fit normal free
    have freeAfter : ∀ word ∈ ctx.operands, ctx.Free (createAll world.tree ctx.ways) word := by
      simp only [Context.free_congr (hasFile_createAll world.tree ctx.ways)]
      exact free
    have fitAfter : ({ world with tree := createAll world.tree ctx.ways } : World).tree.Fit True :=
      fit_ways fit normal free
    have again := mkdir_of_free fitAfter normal flag none freeAfter
    rw [createAll_again led] at again
    obtain ⟨added, directories, missing⟩ := directories_createAll led
    have whole : createAll world.tree ctx.ways =
        ⟨world.tree.directories ++ added, world.tree.files⟩ := by
      rw [← directories, ← files_createAll world.tree ctx.ways]
    refine ⟨_, _, mkdir_of_free fit normal flag none free, iff_of_true rfl ⟨none, free⟩, ?_⟩
    intro _
    refine ⟨⟨added, by rw [whole], missing.congr ?_⟩, again⟩
    intro path absent
    exact Context.mem_ways_iff normal (sound.ne_root absent)
  · obtain ⟨reply, after, answered, said⟩ := mkdir_of_not_free fit normal flag none free
    exact ⟨reply, after, answered, iff_of_false said fun all => free all.2,
      fun silent => absurd silent said⟩

theorem mkdir_parents_exact_crowded :
    let ctx := { rootContext "mkdir" ["-p", "a/b", "/docs/a/c", "guides"] with cwd := "docs" }
    (mkdir ctx crowded).1.toOption.map Reply.output = some "" ∧
      (mkdir ctx crowded).2.tree.directories =
        crowded.tree.directories ++ ["docs/a", "docs/a/b", "docs/a/c"] ∧
      (mkdir ctx (mkdir ctx crowded).2).2 = (mkdir ctx crowded).2 ∧
      (mkdir (rootContext "mkdir" ["-p", "src/docs/guides/x"]) crowded).1.toOption.map Reply.output ≠
        some "" := by
  intro ctx
  have valid : crowded.tree.issues = [] ∧ crowded.tree.Closed := by decide +kernel
  have silent : (mkdir ctx crowded).1.toOption.map Reply.output = some "" := by decide +kernel
  have normal : Path.Normal ctx.cwd := by decide
  obtain ⟨reply, after, answered, _, made⟩ :=
    mkdir_parents_exact valid.1 valid.2 normal (by decide)
  have output : reply.output = "" := by
    rw [answered] at silent
    exact Option.some.inj silent
  obtain ⟨_, again⟩ := made output
  refine ⟨silent, by decide +kernel, by rw [answered, again], ?_⟩
  have atRoot : Path.Normal (rootContext "mkdir" ["-p", "src/docs/guides/x"]).cwd := .inl rfl
  obtain ⟨reply, after, answered, free, _⟩ :=
    mkdir_parents_exact valid.1 valid.2 atRoot (by decide)
  rw [answered]
  intro quiet
  have blocked : Path.Within "src/docs/guides/x" "src/docs/guides" := by decide
  have isFile : crowded.tree.hasFile "src/docs/guides" := by decide
  exact (free.mp (Option.some.inj quiet)).2 "src/docs/guides/x" (by decide) _ isFile blocked

end Command

end TreeShell
