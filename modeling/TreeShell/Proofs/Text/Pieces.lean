import TreeShell.Text.Pieces

namespace TreeShell.Text

variable {sep : Char}

theorem not_mem_of_mem_pieces {text part : List Char} (member : part ∈ pieces sep text) :
    sep ∉ part := by
  induction text generalizing part with
  | nil =>
    rw [pieces, List.mem_singleton] at member
    simp [member]
  | cons c rest ih =>
    simp only [pieces] at member
    split at member
    · rcases List.mem_cons.mp member with rfl | member
      · simp
      · exact ih member
    · rename_i other
      obtain ⟨first, others, cut⟩ := List.exists_cons_of_ne_nil (pieces_ne_nil sep rest)
      rw [cut, List.modifyHead_cons] at member
      rcases List.mem_cons.mp member with rfl | member
      · have free : sep ∉ first := ih (by simp [cut])
        simp [free, Ne.symm other]
      · exact ih (by simp [cut, member])

theorem pieces_of_not_mem {text : List Char} (absent : sep ∉ text) : pieces sep text = [text] := by
  induction text with
  | nil => rfl
  | cons c rest ih =>
    rw [List.mem_cons, not_or] at absent
    simp [pieces, Ne.symm absent.1, ih absent.2]

theorem pieces_append (before after : List Char) :
    pieces sep (before ++ sep :: after) = pieces sep before ++ pieces sep after := by
  induction before with
  | nil => simp [pieces]
  | cons c rest ih =>
    simp only [List.cons_append, pieces, ih]
    split
    · rfl
    · obtain ⟨first, others, cut⟩ := List.exists_cons_of_ne_nil (pieces_ne_nil sep rest)
      simp [cut]

theorem flatten_pieces (text : List Char) :
    (pieces sep text).flatten = text.filter (· ≠ sep) := by
  induction text with
  | nil => rfl
  | cons c rest ih =>
    simp only [pieces]
    split
    · rename_i same
      simp [same, ih]
    · rename_i other
      obtain ⟨first, others, cut⟩ := List.exists_cons_of_ne_nil (pieces_ne_nil sep rest)
      rw [cut, List.flatten_cons] at ih
      simpa [cut, other] using ih

theorem not_mem_of_mem_split {text part : String} (member : part ∈ split sep text) :
    sep ∉ part.toList := by
  obtain ⟨piece, inside, rfl⟩ := List.mem_map.mp member
  rw [String.toList_ofList]
  exact not_mem_of_mem_pieces inside

theorem split_ne_nil (sep : Char) (text : String) : split sep text ≠ [] := by
  simp [split, pieces_ne_nil]

theorem split_of_not_mem {text : String} (absent : sep ∉ text.toList) :
    split sep text = [text] := by
  simp [split, pieces_of_not_mem absent]

theorem split_append (before after : String) :
    split sep (before ++ String.singleton sep ++ after) = split sep before ++ split sep after := by
  simp [split, pieces_append]

theorem join_cons {glue part : String} {rest : List String} (more : rest ≠ []) :
    join glue (part :: rest) = part ++ glue ++ join glue rest := by
  obtain ⟨next, others, rfl⟩ := List.exists_cons_of_ne_nil more
  rfl

theorem split_join {parts : List String} (filled : parts ≠ [])
    (free : ∀ part ∈ parts, sep ∉ part.toList) :
    split sep (join (String.singleton sep) parts) = parts := by
  induction parts with
  | nil => exact absurd rfl filled
  | cons part rest ih =>
    have first : split sep part = [part] := split_of_not_mem (free part (by simp))
    by_cases more : rest = []
    · rw [more]
      exact first
    · have others := ih more fun other member => free other (List.mem_cons_of_mem _ member)
      rw [join_cons more, split_append, first, others, List.singleton_append]

theorem join_append {glue : String} {before after : List String} (first : before ≠ [])
    (second : after ≠ []) :
    join glue (before ++ after) = join glue before ++ glue ++ join glue after := by
  induction before with
  | nil => exact absurd rfl first
  | cons part rest ih =>
    by_cases more : rest = []
    · rw [more, List.singleton_append, join_cons second]
      rfl
    · rw [List.cons_append, join_cons (by simp [more]), ih more, join_cons more]
      simp only [String.append_assoc]

theorem join_split (sep : Char) (text : String) :
    join (String.singleton sep) (split sep text) = text := by
  have pieced (text : List Char) :
      join (String.singleton sep) ((pieces sep text).map String.ofList) = String.ofList text := by
    induction text with
    | nil => rfl
    | cons c rest ih =>
      simp only [pieces]
      split
      · rename_i same
        rw [List.map_cons, join_cons (by simp [pieces_ne_nil]), ih, ← String.toList_inj]
        simp [same]
      · obtain ⟨first, others, cut⟩ := List.exists_cons_of_ne_nil (pieces_ne_nil sep rest)
        rw [cut] at ih ⊢
        rw [← String.toList_inj] at ih ⊢
        cases others with
        | nil => simpa [join] using ih
        | cons next others => simpa [join] using ih
  rw [split, pieced, String.ofList_toList]

theorem cutAt_append {first : Char} {before : List Char} (absent : first ∉ before)
    (rest after : List Char) :
    cutAt (first :: rest) (before ++ first :: (rest ++ after)) = some (before, after) := by
  induction before with
  | nil => simp [cutAt]
  | cons c before ih =>
    rw [List.mem_cons, not_or] at absent
    simp [cutAt, absent.1, ih absent.2]

theorem cutAt_eq_none {first : Char} {text : List Char} (absent : first ∉ text)
    (rest : List Char) : cutAt (first :: rest) text = none := by
  induction text with
  | nil => rfl
  | cons c text ih =>
    rw [List.mem_cons, not_or] at absent
    simp [cutAt, absent.1, ih absent.2]

theorem cutAt_double_eq_none {c : Char} {before after : List Char} (first : c ∉ before)
    (last : c ∉ after) : cutAt [c, c] (before ++ c :: after) = none := by
  induction before with
  | nil =>
    have alone : [c].isPrefixOf after = false := by
      cases after with
      | nil => rfl
      | cons next after =>
        rw [List.mem_cons, not_or] at last
        simp [List.isPrefixOf, last.1]
    simp [cutAt, alone, cutAt_eq_none last]
  | cons other before ih =>
    rw [List.mem_cons, not_or] at first
    simp [cutAt, first.1, ih first.2]

end TreeShell.Text
