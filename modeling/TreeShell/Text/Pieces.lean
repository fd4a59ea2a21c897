namespace TreeShell.Text

def pieces (sep : Char) : List Char → List (List Char)
  | [] => [[]]
  | c :: rest => if c = sep then [] :: pieces sep rest else (pieces sep rest).modifyHead (c :: ·)

theorem pieces_ne_nil (sep : Char) (text : List Char) : pieces sep text ≠ [] := by
  induction text with
  | nil => simp [pieces]
  | cons c rest ih =>
    simp only [pieces]
    split
    · simp
    · cases h : pieces sep rest with
      | nil => exact absurd h ih
      | cons first others => simp

def split (sep : Char) (text : String) : List String :=
  (pieces sep text.toList).map String.ofList

def join (sep : String) : List String → String
  | [] => ""
  | [part] => part
  | part :: rest => part ++ sep ++ join sep rest

def cutAt (pattern : List Char) : List Char → Option (List Char × List Char)
  | [] => if pattern = [] then some ([], []) else none
  | c :: rest =>
    if pattern.isPrefixOf (c :: rest) then some ([], (c :: rest).drop pattern.length)
    else (cutAt pattern rest).map fun (before, after) => (c :: before, after)

def occursIn (pattern text : String) : Bool := (cutAt pattern.toList text.toList).isSome

end TreeShell.Text
