import Mathlib.Data.List.DropRight
import TreeShell.Text.Blank

namespace TreeShell.Text

variable {drop : Char → Bool} {text : List Char}

theorem dropEnd_eq_rdropWhile (drop : Char → Bool) (text : List Char) :
    dropEnd drop text = text.rdropWhile drop := rfl

theorem dropEnd_starts (drop : Char → Bool) (text : List Char) : dropEnd drop text <+: text :=
  List.rdropWhile_prefix drop text

theorem stripChars_sublist (drop : Char → Bool) (text : List Char) :
    List.Sublist (stripChars drop text) text :=
  (dropEnd_starts drop _).sublist.trans (List.dropWhile_sublist drop)

theorem not_drop_of_head?_stripChars {c : Char} (first : (stripChars drop text).head? = some c) :
    ¬ drop c := by
  obtain ⟨rest, whole⟩ := List.head?_eq_some_iff.mp first
  obtain ⟨gone, split⟩ := dropEnd_starts drop (text.dropWhile drop)
  have start : (text.dropWhile drop).head? = some c := by
    rw [← split, ← stripChars, whole]
    rfl
  have kept := List.head?_dropWhile_not drop text
  rw [start] at kept
  simpa using kept

theorem dropEnd_eq_self (last : ∀ c, text.getLast? = some c → ¬ drop c) :
    dropEnd drop text = text := by
  rw [dropEnd_eq_rdropWhile, List.rdropWhile_eq_self_iff]
  intro filled
  exact last _ (List.getLast?_eq_some_getLast filled)

theorem stripChars_eq_self (first : ∀ c, text.head? = some c → ¬ drop c)
    (last : ∀ c, text.getLast? = some c → ¬ drop c) : stripChars drop text = text := by
  have front : text.dropWhile drop = text := by
    cases text with
    | nil => rfl
    | cons c rest => exact List.dropWhile_cons_of_neg (first c rfl)
  rw [stripChars, front, dropEnd_eq_self last]

theorem stripChars_padded {before after : List Char} (front : ∀ c ∈ before, drop c)
    (back : ∀ c ∈ after, drop c) (first : ∀ c, text.head? = some c → ¬ drop c)
    (last : ∀ c, text.getLast? = some c → ¬ drop c) (filled : text ≠ []) :
    stripChars drop (before ++ text ++ after) = text := by
  have start : (before ++ text ++ after).dropWhile drop = text ++ after := by
    rw [List.append_assoc, List.dropWhile_append_of_pos front]
    obtain ⟨c, rest, rfl⟩ := List.exists_cons_of_ne_nil filled
    exact List.dropWhile_cons_of_neg (first c rfl)
  have finish : dropEnd drop (text ++ after) = dropEnd drop text := by
    rw [dropEnd, dropEnd, List.reverse_append, List.dropWhile_append_of_pos]
    intro c member
    exact back c (List.mem_reverse.mp member)
  rw [stripChars, start, finish, dropEnd_eq_self last]

theorem not_drop_of_getLast?_stripChars {c : Char}
    (last : (stripChars drop text).getLast? = some c) : ¬ drop c := by
  rw [stripChars, dropEnd_eq_rdropWhile] at last
  obtain ⟨filled, rfl⟩ := List.mem_getLast?_eq_getLast last
  exact List.rdropWhile_last_not drop _ filled

theorem toList_trim (text : String) : (trim text).toList = stripChars isBlank text.toList :=
  String.toList_ofList

theorem trim_eq_self_iff {text : String} :
    trim text = text ↔ (∀ c, text.toList.head? = some c → ¬ isBlank c) ∧
      ∀ c, text.toList.getLast? = some c → ¬ isBlank c := by
  constructor
  · intro trimmed
    rw [← trimmed, toList_trim]
    exact ⟨fun _ => not_drop_of_head?_stripChars, fun _ => not_drop_of_getLast?_stripChars⟩
  · rintro ⟨first, last⟩
    rw [trim, stripChars_eq_self first last, String.ofList_toList]

theorem trim_padded (before after : String) {text : String} (front : ∀ c ∈ before.toList, isBlank c)
    (back : ∀ c ∈ after.toList, isBlank c) (trimmed : trim text = text) (filled : text ≠ "") :
    trim (before ++ text ++ after) = text := by
  obtain ⟨first, last⟩ := trim_eq_self_iff.mp trimmed
  have long : text.toList ≠ [] := by simpa using filled
  rw [trim, String.toList_append, String.toList_append,
    stripChars_padded front back first last long, String.ofList_toList]

theorem trim_append {front text : String} {c : Char} (first : front.toList.head? = some c)
    (letter : ¬ isBlank c) (trimmed : trim text = text) (filled : text ≠ "") :
    trim (front ++ text) = front ++ text := by
  have long : text.toList ≠ [] := by simpa using filled
  rw [trim_eq_self_iff, String.toList_append, List.head?_append, first, Option.some_or,
    List.getLast?_append, Option.or_of_isSome (by simpa using long)]
  refine ⟨?_, (trim_eq_self_iff.mp trimmed).2⟩
  intro other same
  rwa [← Option.some.inj same]

theorem toList_stripChar (c : Char) (text : String) :
    (stripChar c text).toList = stripChars (· == c) text.toList := String.toList_ofList

theorem trim_sublist (text : String) : List.Sublist (trim text).toList text.toList := by
  rw [toList_trim]
  exact stripChars_sublist isBlank text.toList

theorem stripChar_sublist (c : Char) (text : String) :
    List.Sublist (stripChar c text).toList text.toList := by
  rw [toList_stripChar]
  exact stripChars_sublist (· == c) text.toList

end TreeShell.Text
