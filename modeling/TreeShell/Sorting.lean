namespace TreeShell.Sorting

variable {α : Type}

def insertInto (le : α → α → Bool) (a : α) : List α → List α
  | [] => [a]
  | b :: rest => if le a b then a :: b :: rest else b :: insertInto le a rest

def sort (le : α → α → Bool) : List α → List α
  | [] => []
  | a :: rest => insertInto le a (sort le rest)

theorem insertInto_perm (le : α → α → Bool) (a : α) (l : List α) :
    (insertInto le a l).Perm (a :: l) := by
  induction l with
  | nil => exact .refl _
  | cons b rest ih =>
    simp only [insertInto]
    split
    · exact .refl _
    · exact (ih.cons b).trans (.swap a b rest)

theorem sort_perm (le : α → α → Bool) (l : List α) : (sort le l).Perm l := by
  induction l with
  | nil => exact .refl _
  | cons a rest ih => exact (insertInto_perm le a _).trans (ih.cons a)

end TreeShell.Sorting
