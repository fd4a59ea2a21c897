import TreeShell.Invocation
import TreeShell.Proofs.Text.LowerCase

namespace TreeShell

theorem Words.ne_empty_of_mem_finish {begun : List Char} {word : String}
    (member : word ∈ finish begun) : word ≠ "" := by
  unfold finish at member
  split at member
  · cases member
  · rename_i filled
    rw [List.mem_singleton.mp member]
    simpa using filled

theorem Words.ne_empty_of_mem_scan {quote : Option Char} {begun text : List Char} {word : String}
    (member : word ∈ scan quote begun text) : word ≠ "" := by
  induction text generalizing quote begun with
  | nil =>
    rw [scan] at member
    exact ne_empty_of_mem_finish member
  | cons c rest ih =>
    rw [scan] at member
    split at member
    · exact ih member
    · split at member
      · rcases List.mem_append.mp member with finished | later
        · exact ne_empty_of_mem_finish finished
        · exact ih later
      · exact ih member

namespace Invocation

theorem words_parse (line : String) :
    (parse line).words = Words.ofText (Redirection.split (Text.trim line)).1 := by
  rw [parse]

theorem ne_empty_of_mem_args {line word : String} (member : word ∈ (parse line).args) :
    word ≠ "" := by
  have listed := List.mem_of_mem_drop member
  rw [words_parse] at listed
  exact Words.ne_empty_of_mem_scan listed

theorem lower_name (invocation : Invocation) : Text.lower invocation.name = invocation.name := by
  unfold Invocation.name
  split
  · rfl
  · exact Text.lower_lower _

end Invocation

end TreeShell
