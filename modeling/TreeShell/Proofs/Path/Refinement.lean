import TreeShell.Proofs.Path.Resolve

namespace TreeShell.Path

variable {path top directory : Path}

def Beneath (path top : Path) : Prop := names top <+: names path ∧ names top ≠ names path

theorem Normal.names_eq_segments (normal : Normal path) :
    names path = if path = "" then [] else segments path := by
  split
  · rename_i root
    rw [root, names_empty]
  · rename_i nested
    exact isCanonical_iff.mp (isCanonical_of_normal normal nested)

theorem Normal.resolve_absolute (normal : Normal path) (anywhere : Path) :
    resolve ("/" ++ path) anywhere = path := by
  have slash : Absolute ("/" ++ path) := by simp [Absolute]
  have whole : "" ++ "/" ++ path = "/" ++ path := by simp
  have listed : names ("/" ++ path) = names path := by
    rw [← whole, names_append, names_empty, List.nil_append]
  rw [resolve, if_pos (.inl slash), listed, normal.ofSegments_names]

theorem names_resolve_eq (word : String) (directory : Path) :
    names (resolve word directory) =
      (if Absolute word then [] else names directory) ++ names word := by
  split
  · rename_i absolute
    rw [names_resolve_of_absolute absolute, List.nil_append]
  · rename_i relative
    exact names_resolve relative

theorem Normal.baseName_eq (normal : Normal path) : baseName path = (names path).getLastD "" := by
  by_cases root : path = ""
  · rw [root]
    decide
  · rw [normal.names_eq root, List.getLastD_concat]

theorem normal_join (normal : Normal directory) {name : String} (isName : IsName name) :
    Normal (join directory name) ∧ names (join directory name) = names directory ++ [name] := by
  constructor
  · exact .inr (isCanonical_join normal (isCanonical_of_isName isName))
  · rw [names_join, names_of_isName isName]

theorem Normal.isBelow_iff_beneath (normal : Normal path) (topNormal : Normal top) :
    isBelow path top ↔ Beneath path top := by
  have within : Within path top ↔ path = top ∨ isBelow path top := within_iff normal topNormal
  constructor
  · intro below
    refine ⟨within.mpr (.inr below), ?_⟩
    intro same
    rw [topNormal.eq_of_names normal same] at below
    exact not_isBelow_self path below
  · rintro ⟨inside, other⟩
    refine (within.mp inside).resolve_left ?_
    rintro rfl
    exact other rfl

theorem Normal.isChild_iff_parent (normal : Normal path) (topNormal : Normal top) :
    isChild path top ↔ path ≠ "" ∧ parent path = top := by
  by_cases root : path = ""
  · rw [root]
    refine iff_of_false ?_ (fun child => child.1 rfl)
    intro child
    rw [isChild, Bool.and_eq_true] at child
    exact not_isBelow_root child.1
  · rw [isChild_iff (isCanonical_of_normal normal root) topNormal]
    exact (and_iff_right root).symm

theorem relativeTo_of_not_isBelow (apart : ¬ isBelow path top) :
    relativeTo path top = .error (.notInside path top) := if_neg apart

theorem relativeTo_of_isBelow (below : isBelow path top) :
    ∃ rest, relativeTo path top = .ok rest ∧ join top rest = path :=
  ⟨beyond path top, if_pos below, join_beyond below⟩

theorem relativeTo_eq_error_iff :
    relativeTo path top = .error (.notInside path top) ↔ ¬ isBelow path top := by
  constructor
  · intro refused below
    obtain ⟨rest, found, _⟩ := relativeTo_of_isBelow below
    rw [found] at refused
    cases refused
  · exact relativeTo_of_not_isBelow

theorem mem_ancestors_iff {above : Path} :
    above ∈ ancestors path ↔ Normal above ∧ above ≠ "" ∧ Beneath path above := by
  constructor
  · intro member
    have canonical := isCanonical_of_mem_ancestors member
    obtain ⟨count, _, bounded, rfl⟩ := mem_ancestors member
    refine ⟨.inr canonical, ne_empty_of_isCanonical canonical, ?_⟩
    rw [Beneath, names_take]
    refine ⟨List.take_prefix _ _, ?_⟩
    intro whole
    have lengths := congrArg List.length whole
    rw [List.length_take] at lengths
    omega
  · rintro ⟨aboveNormal, nested, first, other⟩
    have listed := List.prefix_iff_eq_take.mp first
    have positive : (names above).length ≠ 0 := by
      intro none
      exact nested (aboveNormal.names_eq_nil (List.length_eq_zero_iff.mp none))
    have shorter : (names above).length < (names path).length := by
      refine Nat.lt_of_le_of_ne first.length_le ?_
      intro same
      exact other (first.eq_of_length same)
    refine List.mem_map.mpr ⟨(names above).length - 1, List.mem_range.mpr (by omega), ?_⟩
    rw [Nat.sub_add_cancel (by omega), ← listed, aboveNormal.ofSegments_names]

theorem pairwise_ancestors (path : Path) :
    (ancestors path).Pairwise fun above next => (names above).length < (names next).length := by
  rw [ancestors, List.pairwise_map]
  refine List.pairwise_lt_range.imp_of_mem ?_
  intro i j first second earlier
  rw [List.mem_range] at first second
  rw [names_take, names_take, List.length_take, List.length_take]
  omega

/-- What the functions on paths do to the names of normal paths. A word puts its names behind those of
    the working directory, or stands alone behind a slash; the directory of a path is without its
    last name, which is the base name; a join has one name more; below, right inside and above are
    read off the names, and what a path adds to one above it is what a join puts back. -/
theorem functions_on_names {name : String} (normal : Normal path) (topNormal : Normal top)
    (directoryNormal : Normal directory) (isName : IsName name) (word : String) :
    (names path = if path = "" then [] else segments path) ∧
      (Normal (resolve word directory) ∧
        names (resolve word directory) =
          (if Absolute word then [] else names directory) ++ names word) ∧
      (∀ anywhere, resolve ("/" ++ path) anywhere = path) ∧
      (Normal (parent path) ∧ names (parent path) = (names path).dropLast) ∧
      baseName path = (names path).getLastD "" ∧
      (Normal (join path name) ∧ names (join path name) = names path ++ [name]) ∧
      (isBelow path top ↔ Beneath path top) ∧
      (isChild path top ↔ path ≠ "" ∧ parent path = top) ∧
      (relativeTo path top = .error (.notInside path top) ↔ ¬ Beneath path top) ∧
      (Beneath path top → ∃ rest, relativeTo path top = .ok rest ∧ join top rest = path) ∧
      (∀ above, above ∈ ancestors path ↔ Normal above ∧ above ≠ "" ∧ Beneath path above) ∧
      (ancestors path).Pairwise fun above next => (names above).length < (names next).length := by
  have below := normal.isBelow_iff_beneath topNormal
  refine ⟨normal.names_eq_segments, ⟨normal_resolve directoryNormal word, names_resolve_eq word _⟩,
    normal.resolve_absolute, ⟨normal_parent normal, names_parent normal⟩, normal.baseName_eq,
    normal_join normal isName, below, normal.isChild_iff_parent topNormal, ?_, ?_,
    fun _ => mem_ancestors_iff, pairwise_ancestors path⟩
  · rw [← below]
    exact relativeTo_eq_error_iff
  · intro beneath
    exact relativeTo_of_isBelow (below.mpr beneath)

/-- A directory whose name begins like another's, and a word with slashes to spare. -/
theorem functions_on_names_neighbours :
    (Normal "docsextra/f" ∧ Normal "docs" ∧ Normal "src" ∧ IsName "App.js") ∧
      ¬ isBelow "docsextra/f" "docs" ∧ ancestors "docsextra/f" = ["docsextra"] ∧
      names (resolve "a//b/" "src") = ["src", "a", "b"] ∧
      join "docsextra/f" "App.js" = "docsextra/f/App.js" := by
  have normal : Normal "docsextra/f" := by decide
  have topNormal : Normal "docs" := by decide
  have directoryNormal : Normal "src" := by decide
  have isName : IsName "App.js" := by constructor <;> decide
  obtain ⟨_, ⟨_, resolved⟩, _, _, _, _, below, _⟩ :=
    functions_on_names normal topNormal directoryNormal isName "a//b/"
  refine ⟨⟨normal, topNormal, directoryNormal, isName⟩, ?_, by decide, ?_, by decide⟩
  · rw [below]
    rintro ⟨first, _⟩
    exact absurd first (by decide)
  · rw [resolved]
    decide

end TreeShell.Path
