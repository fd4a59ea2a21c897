import TreeShell.Text.Blank
import TreeShell.Text.CaseTable

namespace TreeShell.Text

def lowerChar (c : Char) : Char :=
  if c.toNat < 128 then c.toLower
  else match CaseTable.lowerRuns.find? (·.covers c.toNat) with
    | some run => Char.ofNat (Int.toNat (c.toNat + run.shift))
    | none => c

def isCased (c : Char) : Bool := inRanges CaseTable.cased c

def isPassedOver (c : Char) : Bool := inRanges CaseTable.passedOver c

def meetsCased (neighbours : List Char) : Bool :=
  match neighbours.dropWhile isPassedOver with
  | [] => false
  | c :: _ => isCased c

def capitalSigma : Char := 'Σ'

/-- A capital sigma ends a word when a cased character stands before it and none after it. -/
def lowerSigma (before after : List Char) : Char :=
  if meetsCased before && !meetsCased after then 'ς' else 'σ'

/-- Lower-cases a text, given the characters that stand before it, nearest first. -/
def lowerChars (before : List Char) : List Char → List Char
  | [] => []
  | c :: rest =>
    let lowered :=
      if c = 'İ' then ['i', '\u0307']
      else if c = capitalSigma then [lowerSigma before rest]
      else [lowerChar c]
    lowered ++ lowerChars (c :: before) rest

def lower (text : String) : String := String.ofList (lowerChars [] text.toList)

end TreeShell.Text
