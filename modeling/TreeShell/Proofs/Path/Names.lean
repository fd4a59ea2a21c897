import TreeShell.Path
import TreeShell.Proofs.Text.Pieces

namespace TreeShell.Path

def IsName (name : String) : Prop := name ≠ "" ∧ '/' ∉ name.toList

def Normal (path : Path) : Prop := path = "" ∨ isCanonical path

/-- A path that starts with a slash, which no path of a tree does. -/
def Absolute (path : Path) : Prop := path.toList.head? = some '/'

/-- At a path or below it, by whole names. -/
def Within (path top : Path) : Prop := names top <+: names path

instance (path : Path) : Decidable (Normal path) := inferInstanceAs (Decidable (_ ∨ _))

instance (path : Path) : Decidable (Absolute path) := inferInstanceAs (Decidable (_ = _))

instance (path top : Path) : Decidable (Within path top) := inferInstanceAs (Decidable (_ <+: _))

theorem Within.trans {path middle top : Path} (low : Within path middle) (high : Within middle top) :
    Within path top := List.IsPrefix.trans high low

theorem Within.refl (path : Path) : Within path path := List.prefix_refl _

/-! ## Segments -/

theorem singleton_slash : String.singleton '/' = "/" := rfl

theorem segments_append (before after : Path) :
    segments (before ++ "/" ++ after) = segments before ++ segments after := by
  rw [← singleton_slash]
  exact Text.split_append before after

theorem ofSegments_segments (path : Path) : ofSegments (segments path) = path :=
  Text.join_split '/' path

theorem segments_ofSegments {parts : List String} (filled : parts ≠ [])
    (free : ∀ part ∈ parts, '/' ∉ part.toList) : segments (ofSegments parts) = parts :=
  Text.split_join filled free

theorem not_mem_of_mem_segments {path : Path} {part : String} (member : part ∈ segments path) :
    '/' ∉ part.toList := Text.not_mem_of_mem_split member

/-! ## The last slash -/

theorem lastSlash?_eq_none_iff {text : List Char} : lastSlash? text = none ↔ '/' ∉ text := by
  induction text with
  | nil => simp [lastSlash?]
  | cons c rest ih =>
    rw [lastSlash?, List.mem_cons, not_or, ← ih, eq_comm (a := '/')]
    cases lastSlash? rest <;> simp

theorem lastSlash?_append (before : List Char) {after : List Char} (free : '/' ∉ after) :
    lastSlash? (before ++ '/' :: after) = some before.length := by
  induction before with
  | nil => simp [lastSlash?, lastSlash?_eq_none_iff.mpr free]
  | cons c rest ih => simp [lastSlash?, ih]

theorem parent_baseName_of_not_mem {path : Path} (free : '/' ∉ path.toList) :
    parent path = "" ∧ baseName path = path := by
  rw [parent, baseName, lastSlash?_eq_none_iff.mpr free]
  exact ⟨rfl, rfl⟩

theorem parent_baseName_append (before : Path) {name : String} (free : '/' ∉ name.toList) :
    parent (before ++ "/" ++ name) = before ∧ baseName (before ++ "/" ++ name) = name := by
  have whole : (before ++ "/" ++ name).toList = before.toList ++ '/' :: name.toList := by simp
  simp [parent, baseName, whole, lastSlash?_append before.toList free]

theorem parent_baseName_eq (path : Path) :
    parent path = ofSegments (segments path).dropLast ∧
      segments path = (segments path).dropLast ++ [baseName path] := by
  have filled : segments path ≠ [] := Text.split_ne_nil '/' path
  obtain ⟨front, last, whole⟩ := List.eq_nil_or_concat (segments path) |>.resolve_left filled
  rw [List.concat_eq_append] at whole
  have free : '/' ∉ last.toList := not_mem_of_mem_segments (by rw [whole]; simp)
  have joined := ofSegments_segments path
  rw [whole] at joined ⊢
  rw [List.dropLast_concat]
  by_cases first : front = []
  · subst first
    have same : last = path := joined
    obtain ⟨root, itself⟩ := parent_baseName_of_not_mem (same ▸ free)
    exact ⟨root, by rw [itself, ← same]⟩
  · have split : ofSegments front ++ "/" ++ last = path :=
      (Text.join_append first (List.cons_ne_nil _ _)).symm.trans joined
    obtain ⟨before, name⟩ := parent_baseName_append (ofSegments front) free
    rw [split] at before name
    exact ⟨before, by rw [name]⟩

theorem parent_eq (path : Path) : parent path = ofSegments (segments path).dropLast :=
  (parent_baseName_eq path).1

theorem segments_eq_append (path : Path) :
    segments path = (segments path).dropLast ++ [baseName path] := (parent_baseName_eq path).2

theorem not_mem_baseName (path : Path) : '/' ∉ (baseName path).toList := by
  have inside : baseName path ∈ segments path := by
    rw [segments_eq_append]
    simp
  exact not_mem_of_mem_segments inside

theorem baseName_sublist (path : Path) : (baseName path).toList.Sublist path.toList := by
  unfold baseName
  split
  · exact List.Sublist.refl _
  · rw [String.toList_ofList]
    exact List.drop_sublist _ _

theorem parent_baseName_cases (path : Path) :
    (parent path = "" ∧ baseName path = path) ∨ path = parent path ++ "/" ++ baseName path := by
  have joined := ofSegments_segments path
  rw [segments_eq_append] at joined
  by_cases first : (segments path).dropLast = []
  · left
    rw [first] at joined
    exact ⟨by rw [parent_eq, first]; rfl, joined⟩
  · right
    have ends : ofSegments [baseName path] = baseName path := rfl
    rw [ofSegments, Text.join_append first (by simp), ← ofSegments, ← parent_eq] at joined
    exact joined.symm

/-! ## Names -/

theorem names_empty : names "" = [] := by decide

theorem isName_of_mem_names {path : Path} {name : String} (member : name ∈ names path) :
    IsName name := by
  obtain ⟨inside, filled⟩ := List.mem_filter.mp member
  exact ⟨by simpa using filled, not_mem_of_mem_segments inside⟩

theorem segments_of_isName {name : String} (isName : IsName name) : segments name = [name] :=
  Text.split_of_not_mem isName.2

theorem names_of_isName {name : String} (isName : IsName name) : names name = [name] := by
  simp [names, segments_of_isName isName, isName.1]

theorem isCanonical_of_isName {name : String} (isName : IsName name) : isCanonical name := by
  simp [isCanonical, segments_of_isName isName, isName.1]

theorem names_append (before after : Path) :
    names (before ++ "/" ++ after) = names before ++ names after := by
  rw [names, segments_append, List.filter_append]
  rfl

theorem isCanonical_append (before after : Path) :
    isCanonical (before ++ "/" ++ after) = (isCanonical before && isCanonical after) := by
  rw [isCanonical, segments_append, List.all_append]
  rfl

theorem isCanonical_iff {path : Path} : isCanonical path ↔ names path = segments path := by
  simp [isCanonical, names, List.filter_eq_self]

theorem ne_empty_of_isCanonical {path : Path} (canonical : isCanonical path) : path ≠ "" := by
  rintro rfl
  revert canonical
  decide

theorem flatMap_names (path : Path) :
    (names path).flatMap String.toList = path.toList.filter (· ≠ '/') := by
  have dropped (parts : List String) :
      (parts.filter (· ≠ "")).flatMap String.toList = parts.flatMap String.toList := by
    induction parts with
    | nil => rfl
    | cons part rest ih => by_cases empty : part = "" <;> simpa [empty] using ih
  simp only [names, dropped, segments, Text.split, List.flatMap_map, String.toList_ofList]
  rw [← Text.flatten_pieces, List.flatMap_id']

theorem countP_names {p : Char → Bool} (other : ¬ p '/') (path : Path) :
    ((names path).flatMap String.toList).countP p = path.toList.countP p := by
  rw [flatMap_names, List.countP_filter]
  apply List.countP_congr
  intro c _
  by_cases slash : c = '/' <;> simp [slash, other]

theorem names_ofSegments {parts : List String} (allNames : ∀ part ∈ parts, IsName part) :
    names (ofSegments parts) = parts := by
  by_cases none : parts = []
  · rw [none]
    exact names_empty
  · rw [names, segments_ofSegments none fun part member => (allNames part member).2]
    rw [List.filter_eq_self]
    intro part member
    simpa using (allNames part member).1

theorem normal_ofSegments {parts : List String} (allNames : ∀ part ∈ parts, IsName part) :
    Normal (ofSegments parts) := by
  by_cases none : parts = []
  · left
    rw [none]
    rfl
  · right
    rw [isCanonical_iff, names_ofSegments allNames]
    exact (segments_ofSegments none fun part member => (allNames part member).2).symm

theorem Normal.ofSegments_names {path : Path} (normal : Normal path) :
    ofSegments (names path) = path := by
  rcases normal with rfl | canonical
  · rw [names_empty]
    rfl
  · rw [isCanonical_iff.mp canonical, ofSegments_segments]

theorem Normal.eq_of_names {path other : Path} (normal : Normal path) (otherNormal : Normal other)
    (same : names path = names other) : path = other := by
  rw [← normal.ofSegments_names, ← otherNormal.ofSegments_names, same]

theorem Normal.names_eq_nil {path : Path} (normal : Normal path) (none : names path = []) :
    path = "" := by
  apply normal.eq_of_names (.inl rfl)
  rw [none, names_empty]

theorem isCanonical_of_normal {path : Path} (normal : Normal path) (filled : path ≠ "") :
    isCanonical path := normal.resolve_left filled

/-! ## Joining -/

theorem join_of_ne_empty {directory : Path} (filled : directory ≠ "") (name : String) :
    join directory name = directory ++ "/" ++ name := if_neg filled

theorem join_root (name : String) : join "" name = name := rfl

theorem names_join (directory : Path) (name : String) :
    names (join directory name) = names directory ++ names name := by
  by_cases root : directory = ""
  · rw [root, join_root, names_empty, List.nil_append]
  · rw [join_of_ne_empty root, names_append]

theorem isCanonical_join {directory : Path} {name : String} (normal : Normal directory)
    (canonical : isCanonical name) : isCanonical (join directory name) := by
  rcases normal with rfl | first
  · exact canonical
  · rw [join_of_ne_empty (ne_empty_of_isCanonical first), isCanonical_append, first, canonical]
    rfl

theorem within_join (directory : Path) (name : String) : Within (join directory name) directory := by
  rw [Within, names_join]
  exact List.prefix_append _ _

/-! ## The directory and the last name -/

theorem Normal.parent_cases {path : Path} (normal : Normal path) :
    path = "" ∨ IsName path ∧ parent path = "" ∧ baseName path = path ∨
      IsName (baseName path) ∧ isCanonical (parent path) ∧
        path = parent path ++ "/" ++ baseName path := by
  rcases normal with rfl | canonical
  · exact .inl rfl
  · have free := not_mem_baseName path
    rcases parent_baseName_cases path with ⟨top, alone⟩ | split
    · rw [alone] at free
      exact .inr (.inl ⟨⟨ne_empty_of_isCanonical canonical, free⟩, top, alone⟩)
    · rw [split, isCanonical_append, Bool.and_eq_true] at canonical
      exact .inr (.inr ⟨⟨ne_empty_of_isCanonical canonical.2, free⟩, canonical.1, split⟩)

theorem Normal.join_parent_baseName {path : Path} (normal : Normal path) :
    join (parent path) (baseName path) = path := by
  rcases normal.parent_cases with rfl | ⟨_, top, alone⟩ | ⟨_, canonical, split⟩
  · decide
  · rw [top, alone, join_root]
  · rw [join_of_ne_empty (ne_empty_of_isCanonical canonical), ← split]

theorem normal_parent {path : Path} (normal : Normal path) : Normal (parent path) := by
  rcases normal.parent_cases with rfl | ⟨_, top, _⟩ | ⟨_, canonical, _⟩
  · decide
  · exact .inl top
  · exact .inr canonical

theorem Normal.isName_baseName {path : Path} (normal : Normal path) (filled : path ≠ "") :
    IsName (baseName path) := by
  rcases normal.parent_cases with root | ⟨isName, _, alone⟩ | ⟨isName, _⟩
  · exact absurd root filled
  · rw [alone]
    exact isName
  · exact isName

theorem Normal.names_eq {path : Path} (normal : Normal path) (filled : path ≠ "") :
    names path = names (parent path) ++ [baseName path] := by
  rw [← names_of_isName (normal.isName_baseName filled), ← names_join, normal.join_parent_baseName]

theorem names_parent {path : Path} (normal : Normal path) :
    names (parent path) = (names path).dropLast := by
  by_cases root : path = ""
  · rw [root]
    decide
  · rw [normal.names_eq root, List.dropLast_concat]

theorem isCanonical_of_parent {path : Path} (filled : path ≠ "") (relative : ¬ Absolute path)
    (ends : path.toList.getLast? ≠ some '/') (normal : Normal (parent path)) :
    isCanonical path := by
  rcases parent_baseName_cases path with ⟨_, alone⟩ | split
  · have free := not_mem_baseName path
    rw [alone] at free
    exact isCanonical_of_isName ⟨filled, free⟩
  · have base : IsName (baseName path) := by
      refine ⟨?_, not_mem_baseName path⟩
      intro none
      rw [split, none] at ends
      simp at ends
    have above : parent path ≠ "" := by
      intro none
      rw [Absolute, split, none] at relative
      simp at relative
    rw [split, isCanonical_append, isCanonical_of_normal normal above, isCanonical_of_isName base]
    rfl

end TreeShell.Path
