import TreeShell.Proofs.Path.Below

namespace TreeShell.Path

theorem normal_relative (word : String) : Normal (ofSegments (names word)) :=
  normal_ofSegments fun _ => isName_of_mem_names

theorem names_relative (word : String) : names (ofSegments (names word)) = names word :=
  names_ofSegments fun _ => isName_of_mem_names

theorem resolve_cases (word : String) (directory : Path) :
    ((Absolute word ∨ directory = "") ∧ resolve word directory = ofSegments (names word)) ∨
      ¬ Absolute word ∧ directory ≠ "" ∧
        (names word = [] ∧ resolve word directory = directory ∨
          isCanonical (ofSegments (names word)) ∧
            resolve word directory = directory ++ "/" ++ ofSegments (names word)) := by
  by_cases alone : Absolute word ∨ directory = ""
  · left
    exact ⟨alone, if_pos alone⟩
  · right
    have behind := alone
    rw [not_or] at behind
    refine ⟨behind.1, behind.2, ?_⟩
    by_cases none : ofSegments (names word) = ""
    · left
      have listed := names_relative word
      rw [none, names_empty] at listed
      refine ⟨listed.symm, ?_⟩
      exact (if_neg alone).trans (if_pos none)
    · right
      refine ⟨isCanonical_of_normal (normal_relative word) none, ?_⟩
      rw [← join_of_ne_empty behind.2]
      exact (if_neg alone).trans (if_neg none)

theorem names_resolve {word : String} {directory : Path} (relative : ¬ Absolute word) :
    names (resolve word directory) = names directory ++ names word := by
  rcases resolve_cases word directory with ⟨absolute | root, same⟩ | ⟨_, _, ⟨none, same⟩ | ⟨_, same⟩⟩
  · exact absurd absolute relative
  · rw [same, root, names_relative, names_empty, List.nil_append]
  · rw [same, none, List.append_nil]
  · rw [same, names_append, names_relative]

theorem names_resolve_of_absolute {word : String} (absolute : Absolute word) (directory : Path) :
    names (resolve word directory) = names word := by
  rw [resolve, if_pos (.inl absolute), names_relative]

theorem countP_resolve {p : Char → Bool} (other : ¬ p '/') (word : String) (directory : Path) :
    (resolve word directory).toList.countP p =
      (if Absolute word then 0 else directory.toList.countP p) + word.toList.countP p := by
  have total := countP_names other
  rw [← total (resolve word directory), ← total directory, ← total word]
  by_cases absolute : Absolute word
  · rw [names_resolve_of_absolute absolute, if_pos absolute, Nat.zero_add]
  · rw [names_resolve absolute, if_neg absolute, List.flatMap_append, List.countP_append]

theorem normal_resolve {directory : Path} (normal : Normal directory) (word : String) :
    Normal (resolve word directory) := by
  rcases resolve_cases word directory with ⟨_, same⟩ | ⟨_, filled, ⟨_, same⟩ | ⟨canonical, same⟩⟩
  · rw [same]
    exact normal_relative word
  · rw [same]
    exact normal
  · rw [same]
    right
    rw [isCanonical_append, canonical, isCanonical_of_normal normal filled]
    rfl

theorem absolute_append {before : Path} (filled : before ≠ "") (after : Path) :
    Absolute (before ++ after) ↔ Absolute before := by
  have long : before.toList ≠ [] := by simpa using filled
  rw [Absolute, Absolute, String.toList_append, List.head?_append,
    Option.or_of_isSome (by simpa using long)]

theorem Normal.not_absolute {path : Path} (normal : Normal path) : ¬ Absolute path := by
  intro absolute
  obtain ⟨rest, whole⟩ := List.head?_eq_some_iff.mp absolute
  have split : path = "" ++ "/" ++ String.ofList rest := by
    rw [← String.toList_inj, whole]
    simp
  rcases normal with rfl | canonical
  · simp at whole
  · rw [split, isCanonical_append] at canonical
    exact absurd canonical (by simp [show isCanonical "" = false by decide])

theorem Normal.getLast?_ne {path : Path} (normal : Normal path) :
    path.toList.getLast? ≠ some '/' := by
  intro ends
  obtain ⟨front, whole⟩ := List.getLast?_eq_some_iff.mp ends
  have split : path = String.ofList front ++ "/" ++ "" := by
    rw [← String.toList_inj, whole]
    simp
  rcases normal with rfl | canonical
  · simp at whole
  · rw [split, isCanonical_append] at canonical
    exact absurd canonical (by simp [show isCanonical "" = false by decide])

theorem names_ne_nil {word : String} (filled : word ≠ "") (relative : ¬ Absolute word) :
    names word ≠ [] := by
  intro none
  obtain ⟨first, rest, parts⟩ := List.exists_cons_of_ne_nil (Text.split_ne_nil '/' word)
  have joined := ofSegments_segments word
  have empty : first = "" := by
    have dropped := List.filter_eq_nil_iff.mp none first
    simpa [segments, parts] using dropped
  rw [segments, parts, empty] at joined
  by_cases more : rest = []
  · rw [more] at joined
    exact filled joined.symm
  · rw [ofSegments, Text.join_cons more] at joined
    rw [← joined] at relative
    simp [Absolute] at relative

theorem not_absolute_resolve {directory : Path} (relative : ¬ Absolute directory) (word : String) :
    ¬ Absolute (resolve word directory) := by
  rcases resolve_cases word directory with ⟨_, same⟩ | ⟨_, filled, ⟨_, same⟩ | ⟨_, same⟩⟩
  · rw [same]
    exact (normal_relative word).not_absolute
  · rw [same]
    exact relative
  · rw [same, String.append_assoc, absolute_append filled]
    exact relative

theorem getLast?_resolve_ne {word : String} (filled : word ≠ "") (directory : Path) :
    (resolve word directory).toList.getLast? ≠ some '/' := by
  rcases resolve_cases word directory with ⟨_, same⟩ | ⟨relative, _, ⟨none, _⟩ | ⟨canonical, same⟩⟩
  · rw [same]
    exact (normal_relative word).getLast?_ne
  · exact absurd none (names_ne_nil filled relative)
  · have ends := Normal.getLast?_ne (.inr canonical)
    have long : (ofSegments (names word)).toList ≠ [] := by
      simpa using ne_empty_of_isCanonical canonical
    rw [same, String.toList_append, List.getLast?_append, Option.or_of_isSome (by simpa using long)]
    exact ends

theorem normal_resolve_iff {word : String} {directory : Path} (filled : word ≠ "")
    (odd : ¬ Normal directory) : Normal (resolve word directory) ↔ Absolute word := by
  rcases resolve_cases word directory with ⟨alone, same⟩ | ⟨relative, _, ⟨none, _⟩ | ⟨_, same⟩⟩
  · have absolute : Absolute word := alone.resolve_right fun root => odd (.inl root)
    rw [same]
    exact iff_of_true (normal_relative word) absolute
  · exact absurd none (names_ne_nil filled relative)
  · rw [same]
    refine iff_of_false ?_ relative
    rintro (root | canonical)
    · have slash : '/' ∈ (directory ++ "/" ++ ofSegments (names word)).toList := by simp
      rw [root] at slash
      cases slash
    · rw [isCanonical_append, Bool.and_eq_true] at canonical
      exact odd (.inr canonical.1)

theorem isCanonical_resolve {word : String} {directory : Path} (filled : word ≠ "")
    (relative : ¬ Absolute directory) (other : resolve word directory ≠ "")
    (normal : Normal (parent (resolve word directory))) :
    isCanonical (resolve word directory) :=
  isCanonical_of_parent other (not_absolute_resolve relative word)
    (getLast?_resolve_ne filled directory) normal

theorem resolveMove_cases (word : String) (directory : Path) :
    resolveMove word directory = parent directory ∨ resolveMove word directory = directory ∨
      resolveMove word directory = resolve word directory := by
  unfold resolveMove
  split
  · exact .inl rfl
  · split
    · exact .inr (.inl rfl)
    · exact .inr (.inr rfl)

theorem normal_resolveMove {directory : Path} (normal : Normal directory) (word : String) :
    Normal (resolveMove word directory) := by
  rcases resolveMove_cases word directory with same | same | same <;> rw [same]
  · exact normal_parent normal
  · exact normal
  · exact normal_resolve normal word

theorem not_absolute_parent {path : Path} (relative : ¬ Absolute path) :
    ¬ Absolute (parent path) := by
  rcases parent_baseName_cases path with ⟨top, _⟩ | split
  · rw [top]
    exact Normal.not_absolute (.inl rfl)
  · by_cases top : parent path = ""
    · rw [top]
      exact Normal.not_absolute (.inl rfl)
    · intro absolute
      rw [split, String.append_assoc, absolute_append top] at relative
      exact relative absolute

theorem not_absolute_resolveMove {directory : Path} (relative : ¬ Absolute directory)
    (word : String) : ¬ Absolute (resolveMove word directory) := by
  rcases resolveMove_cases word directory with same | same | same <;> rw [same]
  · exact not_absolute_parent relative
  · exact relative
  · exact not_absolute_resolve relative word

end TreeShell.Path
