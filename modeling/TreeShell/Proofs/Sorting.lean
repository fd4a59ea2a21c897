import TreeShell.Sorting

namespace TreeShell.Sorting

variable {α : Type} {le : α → α → Bool}

theorem mem_insertInto {a b : α} {l : List α} : b ∈ insertInto le a l ↔ b = a ∨ b ∈ l := by
  rw [(insertInto_perm le a l).mem_iff, List.mem_cons]

theorem pairwise_insertInto (total : ∀ a b, le a b ∨ le b a)
    (trans : ∀ a b c, le a b → le b c → le a c) {a : α} {l : List α}
    (sorted : l.Pairwise (le · ·)) : (insertInto le a l).Pairwise (le · ·) := by
  induction l with
  | nil => simp [insertInto]
  | cons b rest ih =>
    obtain ⟨least, others⟩ := List.pairwise_cons.mp sorted
    unfold insertInto
    by_cases first : le a b
    · rw [if_pos first]
      refine List.pairwise_cons.mpr ⟨?_, sorted⟩
      intro c member
      rcases List.mem_cons.mp member with rfl | member
      · exact first
      · exact trans a b c first (least c member)
    · rw [if_neg first]
      refine List.pairwise_cons.mpr ⟨?_, ih others⟩
      intro c member
      rcases mem_insertInto.mp member with rfl | member
      · exact (total c b).resolve_left first
      · exact least c member

theorem pairwise_sort (total : ∀ a b, le a b ∨ le b a)
    (trans : ∀ a b c, le a b → le b c → le a c) (l : List α) : (sort le l).Pairwise (le · ·) := by
  induction l with
  | nil => exact .nil
  | cons a rest ih => exact pairwise_insertInto total trans ih

theorem mem_of_not_le {l before after : List α} {a b : α} (sorted : l.Pairwise (le · ·))
    (split : l = before ++ b :: after) (member : a ∈ l) (smaller : ¬ le b a) (other : a ≠ b) :
    a ∈ before := by
  rw [split] at sorted member
  rcases List.mem_append.mp member with early | late
  · exact early
  · rcases List.mem_cons.mp late with same | late
    · exact absurd same other
    · exact absurd ((List.pairwise_cons.mp (List.pairwise_append.mp sorted).2.1).1 a late) smaller

end TreeShell.Sorting
