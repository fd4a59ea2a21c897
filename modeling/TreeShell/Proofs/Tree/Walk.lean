import Mathlib.Data.List.Nodup
import Mathlib.Data.List.Perm.Basic
import TreeShell.Proofs.Tree.Change

namespace TreeShell

namespace Tree

variable {tree : Tree} {place top : Path}

/-! ## What listings show -/

theorem not_isChild_root (place : Path) : ¬ Path.isChild "" place := by
  intro child
  rw [Path.isChild, Bool.and_eq_true] at child
  exact Path.not_isBelow_root child.1

theorem Valid.isChild_iff (valid : tree.Valid) (present : tree.hasDirectory place) {path : Path}
    (held : path ≠ "" ∧ tree.hasDirectory path ∨ tree.hasFile path) :
    Path.isChild path place ↔ Path.parent path = place := by
  have normal := valid.directoryNormal place present
  rcases held with ⟨nested, isDirectory⟩ | isFile
  · exact Path.isChild_iff
      (Path.isCanonical_of_normal (valid.directoryNormal path isDirectory) nested) normal
  · exact Path.isChild_iff (valid.fileCanonical path isFile) normal

theorem Valid.childDirectories_eq (valid : tree.Valid) (present : tree.hasDirectory place) :
    tree.childDirectories place =
      (tree.directories.filter (· ≠ "")).filter fun path => Path.parent path = place := by
  rw [childDirectories, List.filter_filter]
  apply List.filter_congr
  intro path member
  by_cases root : path = ""
  · simp [root, not_isChild_root]
  · rw [Bool.eq_iff_iff, valid.isChild_iff present (.inl ⟨root, hasDirectory_iff.mpr member⟩)]
    simp [root]

theorem Valid.childFiles_eq (valid : tree.Valid) (present : tree.hasDirectory place) :
    tree.childFiles place = tree.files.keys.filter fun path => Path.parent path = place := by
  apply List.filter_congr
  intro path member
  rw [Bool.eq_iff_iff, valid.isChild_iff present (.inr (hasFile_iff.mpr member))]
  simp

theorem Valid.mem_childDirectories (valid : tree.Valid) (present : tree.hasDirectory place)
    {path : Path} : path ∈ tree.childDirectories place ↔
      path ≠ "" ∧ tree.hasDirectory path ∧ Path.parent path = place := by
  simp only [valid.childDirectories_eq present, List.mem_filter, hasDirectory_iff,
    decide_eq_true_eq]
  tauto

def entries (tree : Tree) : List Entry :=
  (tree.directories.filter (· ≠ "")).map (.ofPath .folder) ++ tree.files.keys.map (.ofPath .file)

theorem Fit.of_mem_entries (fit : tree.Fit True) {entry : Entry} (member : entry ∈ tree.entries) :
    Path.isCanonical entry.path ∧ tree.hasDirectory (Path.parent entry.path) ∧
      entry.name = Path.baseName entry.path := by
  rcases List.mem_append.mp member with folder | file
  · obtain ⟨path, listed, rfl⟩ := List.mem_map.mp folder
    obtain ⟨stored, filled⟩ := List.mem_filter.mp listed
    have isDirectory := hasDirectory_iff.mpr stored
    have nested : path ≠ "" := of_decide_eq_true filled
    exact ⟨Path.isCanonical_of_normal (fit.valid.directoryNormal path isDirectory) nested,
      fit.closed trivial path nested isDirectory, rfl⟩
  · obtain ⟨path, stored, rfl⟩ := List.mem_map.mp file
    have isFile := hasFile_iff.mpr stored
    exact ⟨fit.valid.fileCanonical path isFile, fit.valid.housed path isFile, rfl⟩

def entriesIn (tree : Tree) (place : Path) : List Entry :=
  tree.entries.filter fun entry => Path.parent entry.path = place

theorem Valid.browse_eq (valid : tree.Valid) (present : tree.hasDirectory place) :
    tree.browse place = .ok (tree.entriesIn place) := by
  rw [browse, if_pos present, valid.childDirectories_eq present, valid.childFiles_eq present,
    entriesIn, entries, List.filter_append, List.filter_map, List.filter_map]
  rfl

theorem entriesBelow_perm (tree : Tree) (top : Path) :
    ((tree.directoriesBelow top).map (Entry.ofPath .folder) ++
        (tree.filesBelow top).map (Entry.ofPath .file)).Perm
      (tree.entries.filter fun entry => Path.isBelow entry.path top) := by
  have nested : tree.directories.filter (Path.isBelow · top) =
      (tree.directories.filter (· ≠ "")).filter (Path.isBelow · top) := by
    rw [List.filter_filter]
    apply List.filter_congr
    intro path _
    by_cases root : path = ""
    · simp [root, Path.not_isBelow_root]
    · simp [root]
  have folders : (tree.directoriesBelow top).Perm
      ((tree.directories.filter (· ≠ "")).filter (Path.isBelow · top)) := by
    rw [← nested]
    exact Sorting.sort_perm _ _
  rw [entries, List.filter_append, List.filter_map, List.filter_map]
  exact (folders.map _).append (.refl _)

theorem directoriesBelow_root (tree : Tree) :
    (tree.directoriesBelow "").Perm (tree.directories.filter (· ≠ "")) := by
  have nested : tree.directories.filter (Path.isBelow · "") =
      tree.directories.filter (· ≠ "") := by
    apply List.filter_congr
    intro path _
    rw [Bool.eq_iff_iff, Path.isBelow_root, decide_eq_true_eq]
  rw [← nested]
  exact Sorting.sort_perm _ _

theorem Valid.filesBelow_root (valid : tree.Valid) : tree.filesBelow "" = tree.files.keys := by
  rw [filesBelow, List.filter_eq_self]
  intro path stored
  rw [Path.isBelow_root]
  exact Path.ne_empty_of_isCanonical (valid.fileCanonical path (hasFile_iff.mpr stored))

theorem Valid.nodup_below (valid : tree.Valid) (top : Path) :
    (tree.directoriesBelow top ++ tree.filesBelow top).Nodup := by
  have files : tree.files.keys.Nodup := tree.files.nodup
  rw [List.nodup_append]
  refine ⟨(Sorting.sort_perm _ _).nodup_iff.mpr (valid.once.filter _), files.filter _, ?_⟩
  rintro directory isDirectory file isFile rfl
  exact valid.oneKind directory (mem_filesBelow.mp isFile).1 (mem_directoriesBelow.mp isDirectory).1

end Tree

/-! ## Walks -/

structure Walk where
  pending : List Path
  listed : List Path
  seen : List (Path × Entry)
  deriving DecidableEq, Repr

namespace Walk

def start (top : Path) : Walk := ⟨[top], [], []⟩

def folders (entries : List Entry) : List Path :=
  (entries.filter (·.kind = .folder)).map Entry.path

def visit (walk : Walk) (tree : Tree) (place : Path) : Except Fault Walk :=
  (tree.browse place).map fun entries =>
    { pending := walk.pending.erase place ++ folders entries
      listed := walk.listed ++ [place]
      seen := walk.seen ++ entries.map fun entry => (place, entry) }

def Step (tree : Tree) (walk next : Walk) : Prop :=
  ∃ place ∈ walk.pending, walk.visit tree place = .ok next

def From (tree : Tree) (top : Path) : Walk → Prop := Relation.ReflTransGen (Step tree) (start top)

def known (walk : Walk) : List Path := walk.pending ++ walk.listed

/-- What a walk keeps: no directory comes up twice, each one but the start was shown by a listing,
    and what has been seen is what the listings hold. -/
structure Orderly (walk : Walk) (tree : Tree) (top : Path) : Prop where
  inside : ∀ path ∈ walk.known, tree.hasDirectory path ∧ Path.Within path top
  once : walk.known.Nodup
  begun : top ∈ walk.known
  shown : ∀ path ∈ walk.known, path = top ∨ Path.parent path ∈ walk.listed
  descended : ∀ path, path ≠ "" → tree.hasDirectory path → Path.parent path ∈ walk.listed →
    path ∈ walk.known
  seen : walk.seen = walk.listed.flatMap fun place =>
    (tree.entriesIn place).map fun entry => (place, entry)

variable {tree : Tree} {top place : Path} {walk next : Walk}

theorem orderly_start (present : tree.hasDirectory top) : (start top).Orderly tree top where
  inside := by simp [known, start, present, Path.Within.refl]
  once := by simp [known, start]
  begun := by simp [known, start]
  shown := by simp [known, start]
  descended := by simp [start]
  seen := rfl

theorem folders_browsed (folders files : List Path) :
    Walk.folders (folders.map (.ofPath .folder) ++ files.map (.ofPath .file)) = folders := by
  simp [Walk.folders, Entry.ofPath, List.filter_map, Function.comp_def]

theorem Orderly.visit (orderly : walk.Orderly tree top) (valid : tree.Valid)
    (member : place ∈ walk.pending) :
    walk.visit tree place = .ok
      { pending := walk.pending.erase place ++ tree.childDirectories place
        listed := walk.listed ++ [place]
        seen := walk.seen ++ (tree.entriesIn place).map fun entry => (place, entry) } := by
  have present := (orderly.inside place (List.mem_append_left _ member)).1
  have browsed := valid.browse_eq present
  have listed := browsed
  rw [Tree.browse, if_pos present, Except.ok.injEq] at listed
  have shown : folders (tree.entriesIn place) = tree.childDirectories place := by
    rw [← listed, folders_browsed]
  rw [Walk.visit, browsed, ← shown]
  rfl

/-! ## Steps -/

theorem known_visit (member : place ∈ walk.pending) (children : List Path) :
    ((walk.pending.erase place ++ children) ++ (walk.listed ++ [place])).Perm
      (walk.known ++ children) := by
  rw [List.perm_iff_count]
  intro path
  have split := (List.perm_cons_erase member).count_eq path
  rw [List.count_cons] at split
  simp only [known, List.count_append, List.count_singleton, split]
  omega

theorem Orderly.step (orderly : walk.Orderly tree top) (valid : tree.Valid)
    (step : Step tree walk next) :
    next.Orderly tree top ∧ next.listed.length = walk.listed.length + 1 := by
  obtain ⟨place, member, visited⟩ := step
  rw [orderly.visit valid member, Except.ok.injEq] at visited
  subst visited
  have here := orderly.inside place (List.mem_append_left _ member)
  have child {path : Path} : path ∈ tree.childDirectories place ↔ _ :=
    valid.mem_childDirectories here.1
  have known := known_visit member (tree.childDirectories place)
  have apart := List.nodup_append.mp orderly.once
  have fresh : ∀ old ∈ walk.known, ∀ path ∈ tree.childDirectories place, old ≠ path := by
    rintro path old _ isChild rfl
    obtain ⟨nested, isDirectory, held⟩ := child.mp isChild
    rcases orderly.shown path old with rfl | earlier
    · exact (valid.directoryNormal path isDirectory).not_within_parent nested (held ▸ here.2)
    · exact apart.2.2 place member place (held ▸ earlier) rfl
  refine ⟨⟨?_, ?_, ?_, ?_, ?_, ?_⟩, by simp⟩
  · intro path found
    rcases List.mem_append.mp (known.mem_iff.mp found) with old | isChild
    · exact orderly.inside path old
    · obtain ⟨nested, isDirectory, held⟩ := child.mp isChild
      have below := Path.isBelow_parent (valid.directoryNormal path isDirectory) nested
      have inside := Path.within_of_isBelow below
      exact ⟨isDirectory, (held ▸ inside).trans here.2⟩
  · exact known.nodup_iff.mpr (List.nodup_append.mpr
      ⟨orderly.once, valid.once.filter _, fresh⟩)
  · exact known.mem_iff.mpr (List.mem_append_left _ orderly.begun)
  · intro path found
    rcases List.mem_append.mp (known.mem_iff.mp found) with old | isChild
    · exact (orderly.shown path old).imp_right (List.mem_append_left _)
    · have held := (child.mp isChild).2.2
      simp [held]
  · intro path nested isDirectory led
    apply known.mem_iff.mpr
    rcases List.mem_append.mp led with earlier | now
    · exact List.mem_append_left _ (orderly.descended path nested isDirectory earlier)
    · exact List.mem_append_right _
        (child.mpr ⟨nested, isDirectory, List.mem_singleton.mp now⟩)
  · simp [orderly.seen]

theorem orderly_of_from (valid : tree.Valid) (present : tree.hasDirectory top)
    (run : From tree top walk) : walk.Orderly tree top := by
  induction run with
  | refl => exact orderly_start present
  | tail _ step ih => exact (ih.step valid step).1

/-! ## The end of a walk -/

theorem Orderly.length_le (orderly : walk.Orderly tree top) (valid : tree.Valid)
    (normal : Path.Normal top) :
    walk.known.length ≤ (tree.directoriesBelow top).length + 1 := by
  have inside : walk.known ⊆ top :: tree.directoriesBelow top := by
    intro path found
    obtain ⟨isDirectory, within⟩ := orderly.inside path found
    rw [List.mem_cons, Tree.mem_directoriesBelow]
    rcases (Path.within_iff (valid.directoryNormal path isDirectory) normal).mp within with
      same | below
    · exact .inl same
    · exact .inr ⟨isDirectory, below⟩
  exact (List.subperm_of_subset orderly.once inside).length_le

theorem Orderly.ends (orderly : walk.Orderly tree top) (valid : tree.Valid)
    (normal : Path.Normal top) : Acc (fun next walk => Step tree walk next) walk := by
  induction room : (tree.directoriesBelow top).length + 1 - walk.listed.length using
    Nat.strongRecOn generalizing walk with
  | ind room ih =>
    refine Acc.intro walk fun next step => ?_
    obtain ⟨nextOrderly, longer⟩ := orderly.step valid step
    have bounded := nextOrderly.length_le valid normal
    rw [known, List.length_append] at bounded
    exact ih _ (by omega) nextOrderly rfl

theorem Orderly.listed_of_within (orderly : walk.Orderly tree top) (fit : tree.Fit True)
    (normal : Path.Normal top) (done : walk.pending = []) {path : Path}
    (present : tree.hasDirectory path) (within : Path.Within path top) : path ∈ walk.listed := by
  have listed {path : Path} (found : path ∈ walk.known) : path ∈ walk.listed := by
    rwa [known, done] at found
  -- A directory was listed because the one that holds it was.
  induction depth : (Path.names path).length generalizing path with
  | zero =>
    have root := List.length_eq_zero_iff.mp depth
    rw [Path.Within, root, List.prefix_nil] at within
    have same := (fit.valid.directoryNormal path present).eq_of_names normal (root.trans within.symm)
    exact same ▸ listed orderly.begun
  | succ depth ih =>
    have pathNormal := fit.valid.directoryNormal path present
    rcases (Path.within_iff pathNormal normal).mp within with rfl | below
    · exact listed orderly.begun
    · have nested := Path.ne_empty_of_isBelow below
      have shorter := congrArg List.length (pathNormal.names_eq nested)
      rw [List.length_append, List.length_singleton] at shorter
      have earlier := ih (fit.closed trivial path nested present)
        ((Path.within_parent_iff pathNormal normal nested).mpr below) (by omega)
      exact listed (orderly.descended path nested present earlier)

theorem flatMap_filter_perm {α κ : Type} [DecidableEq κ] (items : List α) (key : α → κ)
    {keys : List κ} (once : keys.Nodup) :
    (keys.flatMap fun k => items.filter fun item => key item = k).Perm
      (items.filter fun item => key item ∈ keys) := by
  induction keys with
  | nil => simp
  | cons first rest ih =>
    obtain ⟨fresh, others⟩ := List.nodup_cons.mp once
    have here : (items.filter fun item => key item ∈ first :: rest).filter
        (fun item => key item = first) = items.filter fun item => key item = first := by
      rw [List.filter_filter]
      apply List.filter_congr
      intro item _
      by_cases same : key item = first <;> simp [same]
    have later : (items.filter fun item => key item ∈ first :: rest).filter
        (fun item => !decide (key item = first)) = items.filter fun item => key item ∈ rest := by
      rw [List.filter_filter]
      apply List.filter_congr
      intro item _
      by_cases same : key item = first <;> simp [same, fresh]
    have split := List.filter_append_perm (fun item => decide (key item = first))
      (items.filter fun item => key item ∈ first :: rest)
    rw [here, later] at split
    exact ((ih others).append_left _).trans split

theorem Orderly.seen_perm (orderly : walk.Orderly tree top) (fit : tree.Fit True)
    (normal : Path.Normal top) (done : walk.pending = []) :
    (walk.seen.map Prod.snd).Perm
      (tree.entries.filter fun entry => Path.isBelow entry.path top) := by
  have listings : walk.seen.map Prod.snd = walk.listed.flatMap tree.entriesIn := by
    rw [orderly.seen, List.map_flatMap]
    simp [Function.comp_def]
  have inside : (tree.entries.filter fun entry => Path.parent entry.path ∈ walk.listed) =
      tree.entries.filter fun entry => Path.isBelow entry.path top := by
    apply List.filter_congr
    intro entry member
    obtain ⟨canonical, housed, _⟩ := fit.of_mem_entries member
    have below := Path.within_parent_iff (.inr canonical) normal
      (Path.ne_empty_of_isCanonical canonical)
    rw [Bool.eq_iff_iff, ← below, decide_eq_true_eq]
    constructor
    · intro listed
      exact (orderly.inside _ (List.mem_append_right _ listed)).2
    · exact orderly.listed_of_within fit normal done housed
  have once : walk.listed.Nodup := (List.nodup_append.mp orderly.once).2.1
  rw [listings, ← inside]
  exact flatMap_filter_perm tree.entries (fun entry => Path.parent entry.path) once

theorem Orderly.of_mem_seen (orderly : walk.Orderly tree top) (fit : tree.Fit True) {place : Path}
    {entry : Entry} (member : (place, entry) ∈ walk.seen) :
    place ∈ walk.listed ∧ entry.name = Path.baseName entry.path ∧
      Path.join place entry.name = entry.path := by
  rw [orderly.seen] at member
  obtain ⟨listed, inside, found⟩ := List.mem_flatMap.mp member
  obtain ⟨shown, here, same⟩ := List.mem_map.mp found
  obtain ⟨rfl, rfl⟩ := Prod.mk.inj same
  obtain ⟨stored, held⟩ := List.mem_filter.mp here
  obtain ⟨canonical, _, name⟩ := fit.of_mem_entries stored
  refine ⟨inside, name, ?_⟩
  rw [← of_decide_eq_true held, name]
  exact Path.Normal.join_parent_baseName (.inr canonical)

end Walk

end TreeShell
