namespace TreeShell.Text

def isHighHalf (unit : Nat) : Bool := 0xD800 ≤ unit && unit < 0xDC00

def isLowHalf (unit : Nat) : Bool := 0xDC00 ≤ unit && unit < 0xE000

def joinHalves (high low : Nat) : Char :=
  Char.ofNat (0x10000 + (high - 0xD800) * 0x400 + (low - 0xDC00))

/-- A half by itself is no character, but a document may hold it. In a text the 2048 characters from
    this one on stand for the halves: no letters, digits or spaces, and without a printed form, like
    the halves. They are assigned to nothing, and no text holds them for themselves. -/
def firstHalf : Nat := 0xD8000

def isHalf (c : Char) : Bool := firstHalf ≤ c.toNat && c.toNat < firstHalf + 0x800

def code (c : Char) : Nat := if isHalf c then 0xD800 + (c.toNat - firstHalf) else c.toNat

def unitChar (unit : Nat) : Char :=
  Char.ofNat (if isHighHalf unit || isLowHalf unit then firstHalf + (unit - 0xD800) else unit)

def ofUnits : List Nat → List Char
  | [] => []
  | [unit] => [unitChar unit]
  | high :: low :: rest =>
    if isHighHalf high && isLowHalf low then joinHalves high low :: ofUnits rest
    else unitChar high :: ofUnits (low :: rest)

end TreeShell.Text
