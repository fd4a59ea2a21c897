namespace TreeShell.Text

def blankRanges : List (Nat × Nat) := [
  (0x0009, 0x000D), (0x001C, 0x0020), (0x0085, 0x0085), (0x00A0, 0x00A0), (0x1680, 0x1680),
  (0x2000, 0x200A), (0x2028, 0x2029), (0x202F, 0x202F), (0x205F, 0x205F), (0x3000, 0x3000)]

def inRanges (ranges : List (Nat × Nat)) (c : Char) : Bool :=
  ranges.any fun (first, last) => first ≤ c.toNat && c.toNat ≤ last

def isBlank (c : Char) : Bool := inRanges blankRanges c

def dropEnd (drop : Char → Bool) (text : List Char) : List Char :=
  (text.reverse.dropWhile drop).reverse

def stripChars (drop : Char → Bool) (text : List Char) : List Char :=
  dropEnd drop (text.dropWhile drop)

def trim (text : String) : String := String.ofList (stripChars isBlank text.toList)

def trimEnd (text : String) : String := String.ofList (dropEnd isBlank text.toList)

def stripChar (c : Char) (text : String) : String :=
  String.ofList (stripChars (· == c) text.toList)

def stripCharEnd (c : Char) (text : String) : String :=
  String.ofList (dropEnd (· == c) text.toList)

end TreeShell.Text
