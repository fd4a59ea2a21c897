import TreeShell.Proofs.Path.Names

namespace TreeShell.Path

theorem isBelow_root (path : Path) : isBelow path "" ↔ path ≠ "" := by simp [isBelow]

theorem isBelow_iff {path ancestor : Path} :
    isBelow path ancestor ↔ ∃ rest, path = join ancestor rest ∧ (ancestor = "" → rest ≠ "") := by
  by_cases root : ancestor = ""
  · subst root
    rw [isBelow_root]
    constructor
    · intro filled
      exact ⟨path, rfl, fun _ => filled⟩
    · rintro ⟨rest, rfl, filled⟩
      exact filled rfl
  · simp only [isBelow, root, if_false, List.isPrefixOf_iff_prefix, false_imp_iff, and_true,
      join_of_ne_empty root]
    constructor
    · rintro ⟨rest, whole⟩
      refine ⟨String.ofList rest, ?_⟩
      rw [← String.toList_inj, ← whole]
      simp
    · rintro ⟨rest, rfl⟩
      exact ⟨rest.toList, by simp⟩

theorem beyond_join (directory rest : Path) : beyond (join directory rest) directory = rest := by
  by_cases root : directory = ""
  · rw [root]
    rfl
  · simp [beyond, root, join_of_ne_empty root, ← String.length_toList, List.drop_append]

theorem join_beyond {path ancestor : Path} (below : isBelow path ancestor) :
    join ancestor (beyond path ancestor) = path := by
  obtain ⟨rest, rfl, _⟩ := isBelow_iff.mp below
  rw [beyond_join]

theorem isBelow_join {directory : Path} {rest : Path} (filled : rest ≠ "") :
    isBelow (join directory rest) directory := isBelow_iff.mpr ⟨rest, rfl, fun _ => filled⟩

theorem isBelow_iff_join {path ancestor : Path} (nested : ancestor ≠ "") :
    isBelow path ancestor ↔ ∃ rest, path = join ancestor rest := by
  simp [isBelow_iff, nested]

theorem within_of_isBelow {path ancestor : Path} (below : isBelow path ancestor) :
    Within path ancestor := by
  rw [← join_beyond below]
  exact within_join _ _

theorem isCanonical_beyond {path ancestor : Path} (below : isBelow path ancestor)
    (canonical : isCanonical path) : isCanonical (beyond path ancestor) := by
  obtain ⟨rest, rfl, _⟩ := isBelow_iff.mp below
  rw [beyond_join]
  by_cases root : ancestor = ""
  · subst root
    exact canonical
  · rw [join_of_ne_empty root, isCanonical_append, Bool.and_eq_true] at canonical
    exact canonical.2

theorem not_isBelow_root {ancestor : Path} : ¬ isBelow "" ancestor := by
  rw [isBelow_iff]
  rintro ⟨rest, whole, filled⟩
  by_cases root : ancestor = ""
  · rw [root, join_root] at whole
    exact filled root whole.symm
  · rw [join_of_ne_empty root, ← String.toList_inj] at whole
    simp at whole

theorem ne_empty_of_isBelow {path ancestor : Path} (below : isBelow path ancestor) : path ≠ "" := by
  rintro rfl
  exact not_isBelow_root below

theorem isBelow_append {path ancestor : Path} (below : isBelow path ancestor) (rest : Path) :
    isBelow (path ++ rest) ancestor := by
  obtain ⟨first, rfl, filled⟩ := isBelow_iff.mp below
  by_cases root : ancestor = ""
  · rw [root, isBelow_root, join_root]
    simp [filled root]
  · rw [join_of_ne_empty root, String.append_assoc, ← join_of_ne_empty root]
    exact isBelow_iff.mpr ⟨first ++ rest, rfl, fun top => absurd top root⟩

theorem isBelow_of_isBelow_parent {path ancestor : Path} (below : isBelow (parent path) ancestor) :
    isBelow path ancestor := by
  rcases parent_baseName_cases path with ⟨top, _⟩ | split
  · rw [top] at below
    exact absurd below not_isBelow_root
  · rw [split, String.append_assoc]
    exact isBelow_append below _

theorem isBelow_parent {path : Path} (normal : Normal path) (nested : path ≠ "") :
    isBelow path (parent path) := by
  have below : isBelow (join (parent path) (baseName path)) (parent path) :=
    isBelow_join (normal.isName_baseName nested).1
  rwa [normal.join_parent_baseName] at below

theorem not_isBelow_self (path : Path) : ¬ isBelow path path := by
  intro below
  have filled := ne_empty_of_isBelow below
  have lengths := congrArg String.length (join_beyond below)
  rw [join_of_ne_empty filled, String.length_append, String.length_append] at lengths
  have slash : "/".length = 1 := rfl
  omega

theorem Normal.not_within_parent {path : Path} (normal : Normal path) (filled : path ≠ "") :
    ¬ Within (parent path) path := by
  intro within
  have longer := within.length_le
  rw [normal.names_eq filled, List.length_append, List.length_singleton] at longer
  omega

theorem within_parent {path top : Path} (normal : Normal path) (topNormal : Normal top)
    (within : Within path top) (other : path ≠ top) : Within (parent path) top := by
  by_cases root : path = ""
  · rw [root, Within, names_empty, List.prefix_nil] at within
    exact absurd (root.trans (topNormal.names_eq_nil within).symm) other
  · rw [Within, normal.names_eq root, List.prefix_concat_iff] at within
    refine within.resolve_left fun same => other ?_
    apply normal.eq_of_names topNormal
    rw [normal.names_eq root, same]

theorem within_iff {path top : Path} (normal : Normal path) (topNormal : Normal top) :
    Within path top ↔ path = top ∨ isBelow path top := by
  constructor
  · rintro ⟨rest, whole⟩
    by_cases none : rest = []
    · left
      apply normal.eq_of_names topNormal
      rw [← whole, none, List.append_nil]
    · right
      have allNames : ∀ name ∈ rest, IsName name := by
        intro name member
        apply isName_of_mem_names
        rw [← whole]
        exact List.mem_append_right _ member
      have filled : ofSegments rest ≠ "" := by
        intro empty
        have listed := names_ofSegments allNames
        rw [empty, names_empty] at listed
        exact none listed.symm
      have canonical : isCanonical (ofSegments rest) :=
        isCanonical_of_normal (normal_ofSegments allNames) filled
      have same : path = join top (ofSegments rest) := by
        apply normal.eq_of_names (.inr (isCanonical_join topNormal canonical))
        rw [names_join, names_ofSegments allNames, whole]
      rw [same]
      exact isBelow_join filled
  · rintro (rfl | below)
    · exact Within.refl path
    · exact within_of_isBelow below

theorem within_parent_iff {path top : Path} (normal : Normal path) (topNormal : Normal top)
    (filled : path ≠ "") : Within (parent path) top ↔ isBelow path top := by
  constructor
  · intro within
    have inside := (within_of_isBelow (isBelow_parent normal filled)).trans within
    refine ((within_iff normal topNormal).mp inside).resolve_left ?_
    rintro rfl
    exact normal.not_within_parent filled within
  · intro below
    refine within_parent normal topNormal (within_of_isBelow below) ?_
    rintro rfl
    exact not_isBelow_self path below

/-! ## Whole segments -/

/-- At a path or below it, by whole segments, empty ones included. -/
def Under (path top : Path) : Prop := segments top <+: segments path

instance (path top : Path) : Decidable (Under path top) := inferInstanceAs (Decidable (_ <+: _))

theorem Under.refl (path : Path) : Under path path := List.prefix_refl _

theorem isBelow_iff_under {path top : Path} (nested : top ≠ "") :
    isBelow path top ↔ Under path top ∧ path ≠ top := by
  constructor
  · intro below
    constructor
    · obtain ⟨rest, rfl⟩ := (isBelow_iff_join nested).mp below
      rw [Under, join_of_ne_empty nested, segments_append]
      exact List.prefix_append _ _
    · rintro rfl
      exact not_isBelow_self path below
  · rintro ⟨⟨rest, whole⟩, other⟩
    have more : rest ≠ [] := by
      rintro rfl
      rw [List.append_nil] at whole
      exact other (by rw [← ofSegments_segments path, ← whole, ofSegments_segments])
    have filled : segments top ≠ [] := Text.split_ne_nil '/' top
    have joined : ofSegments (segments top ++ rest) =
        ofSegments (segments top) ++ "/" ++ ofSegments rest := Text.join_append filled more
    rw [isBelow_iff_join nested]
    refine ⟨ofSegments rest, ?_⟩
    rw [join_of_ne_empty nested, ← ofSegments_segments path, ← whole, joined, ofSegments_segments]

theorem not_under_of_root {top : Path} (nested : top ≠ "") : ¬ Under "" top := by
  intro under
  have below := (isBelow_iff_under nested).mpr ⟨under, nested.symm⟩
  exact not_isBelow_root below

/-! ## Moving subtrees -/

def image (source target path : Path) : Path := join target (beyond path source)

theorem image_join (source target rest : Path) :
    image source target (join source rest) = join target rest := by
  rw [image, beyond_join]

theorem forall_image_iff {source : Path} (nested : source ≠ "") (target : Path)
    (present property : Path → Prop) :
    (∀ path, present path ∧ isBelow path source → property (image source target path)) ↔
      ∀ rest, present (join source rest) → property (join target rest) := by
  simp only [isBelow_iff_join nested]
  constructor
  · intro each rest there
    rw [← image_join source target rest]
    exact each _ ⟨there, rest, rfl⟩
  · rintro each _ ⟨there, rest, rfl⟩
    rw [image_join]
    exact each rest there

theorem join_join {directory middle name : Path} (filled : middle ≠ "") :
    join (join directory middle) name = join directory (join middle name) := by
  by_cases root : directory = ""
  · rw [root, join_root, join_root]
  · have long : directory ++ "/" ++ middle ≠ "" := by simp [filled]
    rw [join_of_ne_empty root, join_of_ne_empty long, join_of_ne_empty root,
      join_of_ne_empty filled]
    simp only [String.append_assoc]

theorem parent_join {directory : Path} (normal : Normal directory) {name : String}
    (isName : IsName name) : parent (join directory name) = directory := by
  have whole : Normal (join directory name) :=
    .inr (isCanonical_join normal (isCanonical_of_isName isName))
  apply (normal_parent whole).eq_of_names normal
  rw [names_parent whole, names_join, names_of_isName isName, List.dropLast_concat]

theorem parent_of_isChild {path directory : Path} (child : isChild path directory)
    (canonical : isCanonical path) (normal : Normal directory) : parent path = directory := by
  rw [isChild, Bool.and_eq_true] at child
  obtain ⟨below, single⟩ := child
  have isName : IsName (beyond path directory) := by
    refine ⟨ne_empty_of_isCanonical (isCanonical_beyond below canonical), ?_⟩
    simpa using single
  have same := parent_join normal isName
  rwa [join_beyond below] at same

theorem isChild_iff {path directory : Path} (canonical : isCanonical path)
    (normal : Normal directory) : isChild path directory ↔ parent path = directory := by
  constructor
  · intro child
    exact parent_of_isChild child canonical normal
  · rintro rfl
    have filled := ne_empty_of_isCanonical canonical
    have below := isBelow_parent (.inr canonical) filled
    have single := (Normal.isName_baseName (.inr canonical) filled).2
    have last : beyond path (parent path) = baseName path := by
      have joined := beyond_join (parent path) (baseName path)
      rwa [Normal.join_parent_baseName (.inr canonical)] at joined
    simp [isChild, below, last, single]

theorem isCanonical_image {source target path : Path} (below : isBelow path source)
    (canonical : isCanonical path) (targetNormal : Normal target) :
    isCanonical (image source target path) :=
  isCanonical_join targetNormal (isCanonical_beyond below canonical)

theorem isBelow_image {source target path : Path} (below : isBelow path source)
    (canonical : isCanonical path) : isBelow (image source target path) target :=
  isBelow_join (ne_empty_of_isCanonical (isCanonical_beyond below canonical))

/-- Different paths land in different places. -/
theorem image_inj {source target path other : Path} (below : isBelow path source)
    (otherBelow : isBelow other source)
    (same : image source target path = image source target other) : path = other := by
  have tails := congrArg (beyond · target) same
  simp only [image, beyond_join] at tails
  rw [← join_beyond below, tails, join_beyond otherBelow]

def brought (source target path : Path) : Path :=
  if path = source then target else image source target path

theorem brought_self (source target : Path) : brought source target source = target := if_pos rfl

theorem brought_of_isBelow {source path : Path} (below : isBelow path source) (target : Path) :
    brought source target path = image source target path := by
  refine if_neg ?_
  rintro rfl
  exact not_isBelow_self _ below

/-- An image can only lie in the source again when the source lies below the target. -/
theorem isBelow_of_image {source target path : Path} (below : isBelow path source)
    (canonical : isCanonical path) (sourceNormal : Normal source) (targetNormal : Normal target)
    (other : target ≠ source) (outside : ¬ isBelow target source)
    (again : isBelow (image source target path) source) : isBelow source target := by
  have underSource : Within (image source target path) source := within_of_isBelow again
  have underTarget : Within (image source target path) target :=
    within_of_isBelow (isBelow_image below canonical)
  rcases List.prefix_or_prefix_of_prefix underSource underTarget with above | inside
  · exact (((within_iff targetNormal sourceNormal).mp above).elim other outside).elim
  · exact ((within_iff sourceNormal targetNormal).mp inside).resolve_left other.symm

theorem parent_image {source target path : Path} (below : isBelow path source)
    (canonical : isCanonical path) (sourceNormal : Normal source) (targetNormal : Normal target) :
    parent (image source target path) = target ∨
      isBelow (parent path) source ∧
        parent (image source target path) = image source target (parent path) := by
  have rest : isCanonical (beyond path source) := isCanonical_beyond below canonical
  have whole : join source (beyond path source) = path := join_beyond below
  generalize beyond path source = tail at rest whole
  subst whole
  simp only [image, beyond_join]
  rcases Normal.parent_cases (.inr rest) with none | ⟨isName, _⟩ | ⟨isName, above, split⟩
  · exact absurd none (ne_empty_of_isCanonical rest)
  · exact .inl (parent_join targetNormal isName)
  · right
    have filled := ne_empty_of_isCanonical above
    have tailJoin : tail = join (parent tail) (baseName tail) := by
      rw [join_of_ne_empty filled]
      exact split
    have climb {directory : Path} (normal : Normal directory) :
        parent (join directory tail) = join directory (parent tail) := by
      rw [tailJoin, ← join_join filled, ← tailJoin]
      exact parent_join (.inr (isCanonical_join normal above)) isName
    rw [climb sourceNormal, climb targetNormal, beyond_join]
    exact ⟨isBelow_join filled, rfl⟩

/-! ## Depth -/

theorem depth_append (before after : Path) :
    depth (before ++ "/" ++ after) = depth before + 1 + depth after := by
  simp [depth]
  omega

theorem depth_parent_lt {path : Path} (normal : Normal path) (nested : parent path ≠ "") :
    depth (parent path) < depth path := by
  rcases normal.parent_cases with rfl | ⟨_, top, _⟩ | ⟨_, _, split⟩
  · exact absurd (by decide) nested
  · exact absurd top nested
  · have whole := depth_append (parent path) (baseName path)
    rw [← split] at whole
    omega

/-! ## The directories above a path -/

theorem mem_ancestors {path ancestor : Path} (member : ancestor ∈ ancestors path) :
    ∃ count, 0 < count ∧ count < (names path).length ∧
      ancestor = ofSegments ((names path).take count) := by
  obtain ⟨index, inRange, rfl⟩ := List.mem_map.mp member
  rw [List.mem_range] at inRange
  exact ⟨index + 1, by omega, by omega, rfl⟩

theorem isName_of_mem_take {path : Path} {count : Nat} {name : String}
    (member : name ∈ (names path).take count) : IsName name :=
  isName_of_mem_names (List.mem_of_mem_take member)

theorem names_take (path : Path) (count : Nat) :
    names (ofSegments ((names path).take count)) = (names path).take count :=
  names_ofSegments fun _ => isName_of_mem_take

theorem normal_take (path : Path) (count : Nat) : Normal (ofSegments ((names path).take count)) :=
  normal_ofSegments fun _ => isName_of_mem_take

theorem isCanonical_of_mem_ancestors {path ancestor : Path} (member : ancestor ∈ ancestors path) :
    isCanonical ancestor := by
  obtain ⟨count, positive, bounded, rfl⟩ := mem_ancestors member
  apply isCanonical_of_normal (normal_take path count)
  intro root
  have listed := congrArg List.length (names_take path count)
  rw [root, names_empty, List.length_nil, List.length_take] at listed
  omega

theorem parent_take {path : Path} {count : Nat} (bounded : count < (names path).length) :
    parent (ofSegments ((names path).take (count + 1))) =
      ofSegments ((names path).take count) := by
  apply (normal_parent (normal_take path _)).eq_of_names (normal_take path count)
  rw [names_parent (normal_take path _), names_take, names_take, List.dropLast_eq_take,
    List.length_take, Nat.min_eq_left bounded, Nat.succ_sub_one, List.take_take,
    Nat.min_eq_left (Nat.le_succ count)]

theorem ancestors_append_self {path : Path} (canonical : isCanonical path) :
    ancestors path ++ [path] =
      (List.range (names path).length).map fun i => ofSegments ((names path).take (i + 1)) := by
  have filled : (names path).length ≠ 0 := by
    intro none
    exact ne_empty_of_isCanonical canonical
      (Normal.names_eq_nil (.inr canonical) (List.length_eq_zero_iff.mp none))
  obtain ⟨count, length⟩ := Nat.exists_eq_succ_of_ne_zero filled
  have whole : ofSegments ((names path).take (count + 1)) = path := by
    rw [List.take_of_length_le (by omega), Normal.ofSegments_names (.inr canonical)]
  rw [ancestors, length, Nat.succ_eq_add_one, Nat.add_sub_cancel, List.range_succ, List.map_append,
    List.map_singleton, whole]

theorem parent_mem_of_ancestors {path : Path} (canonical : isCanonical path)
    {before after : List Path} {step : Path}
    (way : ancestors path ++ [path] = before ++ step :: after) :
    parent step = "" ∨ parent step ∈ before := by
  rw [ancestors_append_self canonical] at way
  have bounded : before.length < (names path).length := by
    have lengths := congrArg List.length way
    simp only [List.length_map, List.length_range, List.length_append, List.length_cons] at lengths
    omega
  have here : step = ofSegments ((names path).take (before.length + 1)) := by
    have at_step := congrArg (·[before.length]?) way
    simpa [bounded] using at_step.symm
  rw [here, parent_take bounded]
  cases position : before.length with
  | zero =>
    left
    rw [List.take_zero]
    rfl
  | succ previous =>
    right
    have inside : previous < before.length := by omega
    have listed : previous < (names path).length := by omega
    have at_previous := congrArg (·[previous]?) way
    rw [List.getElem?_append_left inside] at at_previous
    apply List.mem_of_getElem?
    rw [← at_previous]
    simp [listed]

end TreeShell.Path
