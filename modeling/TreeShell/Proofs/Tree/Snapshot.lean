import TreeShell.Proofs.Tree.Operation

namespace TreeShell.Tree

variable {tree : Tree} {directories : List Path} {files : OrderedMap Path String}

theorem foldl_kept_of_nodup {kept rest : List Path} (once : (kept ++ rest).Nodup) :
    rest.foldl (fun kept path => if kept.contains path then kept else kept ++ [path]) kept =
      kept ++ rest := by
  induction rest generalizing kept with
  | nil => simp
  | cons path rest ih =>
    have fresh : path ∉ kept := by
      intro old
      exact (List.nodup_append.mp once).2.2 path old path (List.mem_cons_self ..) rfl
    have longer : kept ++ path :: rest = (kept ++ [path]) ++ rest := by simp
    rw [longer] at once
    rw [List.foldl_cons, List.contains_eq_mem, if_neg (by simpa using fresh), ih once, longer]

theorem prefix_foldl_kept (kept rest : List Path) :
    kept <+: rest.foldl (fun kept path => if kept.contains path then kept else kept ++ [path])
      kept := by
  induction rest generalizing kept with
  | nil => exact List.prefix_refl kept
  | cons path rest ih =>
    rw [List.foldl_cons]
    split
    · exact ih kept
    · exact (List.prefix_append kept [path]).trans (ih _)

theorem head?_withRoot (directories : List Path) : (withRoot directories).head? = some "" := by
  obtain ⟨rest, whole⟩ := prefix_foldl_kept [""] directories
  rw [withRoot, ← whole]
  rfl

theorem withRoot_eq_self (first : directories.head? = some "") (once : directories.Nodup) :
    withRoot directories = directories := by
  obtain ⟨rest, rfl⟩ := List.head?_eq_some_iff.mp first
  have known : [""].contains "" = true := by decide
  have whole : ([""] ++ rest : List Path).Nodup := once
  rw [withRoot, List.foldl_cons, if_pos known, foldl_kept_of_nodup whole]
  rfl

theorem build_eq_ok_iff :
    build directories files = .ok tree ↔ tree = ⟨withRoot directories, files⟩ ∧ tree.Valid := by
  rw [← issues_eq_nil, build]
  split
  · rename_i sound
    constructor
    · rintro ⟨⟩
      exact ⟨rfl, sound⟩
    · rintro ⟨rfl, _⟩
      rfl
  · rename_i wrong
    constructor
    · rintro ⟨⟩
    · rintro ⟨rfl, sound⟩
      exact absurd sound wrong

theorem Valid.build_snapshot (valid : tree.Valid) (first : tree.directories.head? = some "") :
    build tree.snapshot.directories (.ofList tree.snapshot.files) = .ok tree := by
  have same : OrderedMap.ofList tree.files.entries = tree.files := by
    obtain ⟨entries, nodup⟩ := tree.files
    rw [OrderedMap.mk.injEq]
    exact OrderedMap.entries_ofList nodup
  rw [build_eq_ok_iff, snapshot]
  dsimp only
  rw [withRoot_eq_self first valid.once, same]
  exact ⟨rfl, valid⟩

namespace Operation

theorem head?_run (operation : Operation) (first : tree.directories.head? = some "") :
    (operation.run tree).2.directories.head? = some "" := by
  rcases operation.settles tree with ⟨_, same⟩ | ⟨allowed, after, same, makes⟩
  · rw [same]
    exact first
  · rw [same]
    obtain ⟨rest, listed⟩ := List.head?_eq_some_iff.mp first
    cases operation with
    | createDirectory path =>
      rw [makes.1, listed]
      rfl
    | removeDirectory path recursive =>
      have kept : ¬ Path.Under "" path := Path.not_under_of_root allowed.1
      rw [makes.1, listed, List.filter_cons_of_pos (by simpa using kept)]
      rfl
    | _ =>
      rw [makes.1]
      exact first

theorem head?_runAll (operations : List Operation) (first : tree.directories.head? = some "") :
    (runAll operations tree).directories.head? = some "" := by
  induction operations generalizing tree with
  | nil => exact first
  | cons operation rest ih => exact ih (head?_run operation first)

/-- Whatever operations on normal paths come after a tree was built, its root stays first, no
    directory comes twice, and building from a snapshot gives the very same tree. -/
theorem build_snapshot_runAll (built : build directories files = .ok tree)
    {operations : List Operation} (normal : ∀ operation ∈ operations, Path.Normal operation.path) :
    let after := runAll operations tree
    build after.snapshot.directories (.ofList after.snapshot.files) = .ok after ∧
      after.directories.head? = some "" ∧ after.directories.Nodup := by
  obtain ⟨same, valid⟩ := build_eq_ok_iff.mp built
  have rooted : tree.directories.head? = some "" := by
    rw [same]
    exact head?_withRoot directories
  have first := head?_runAll operations rooted
  have reached := valid_runAll valid normal
  exact ⟨reached.build_snapshot first, first, reached.once⟩

def muddled : List Path := ["docs", "", "docs", "far/away", ""]

def notes : OrderedMap Path String := .ofList [("docs/a", "1"), ("b", "2")]

def reshuffling : List Operation :=
  [writeFile "docs/a" "3", createDirectory "docs/new", removeFile "b", createFile "docs/new/c" "4",
    removeDirectory "far/away" false, createFile "b" "5", removeDirectory "" true]

theorem build_snapshot_reshuffled :
    (∀ operation ∈ reshuffling, Path.Normal operation.path) ∧
      ∃ tree, build muddled notes = .ok tree ∧
        let after := runAll reshuffling tree
        after.directories = ["", "docs", "docs/new"] ∧
          after.files.entries = [("docs/a", "3"), ("docs/new/c", "4"), ("b", "5")] ∧
          build after.snapshot.directories (.ofList after.snapshot.files) = .ok after := by
  have normal : ∀ operation ∈ reshuffling, Path.Normal operation.path := by
    decide
  have sound : Tree.issues ⟨withRoot muddled, notes⟩ = [] := by
    decide +kernel
  have built := build_eq_ok_iff.mpr ⟨rfl, issues_eq_nil.mp sound⟩
  refine ⟨normal, _, built, ?_, ?_, (build_snapshot_runAll built normal).1⟩
  · decide +kernel
  · decide +kernel

end Operation

end TreeShell.Tree
