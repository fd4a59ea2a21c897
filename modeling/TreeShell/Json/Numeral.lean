import TreeShell.Text.Numeral
import TreeShell.Text.Pieces

namespace TreeShell.Json.Numeral

inductive Fault
  | unreadable
  | tooLong
  deriving DecidableEq, Repr

def dropPlus? : List Char → Option (List Char)
  | '+' :: '-' :: _ => none
  | '+' :: rest => some rest
  | text => some text

def startsDigits (c : Char) : Bool := c == '-' || (c.isDigit && c != '0')

/-- A text without further zeros and underscores in front. The last of them is kept where nothing
    but a point or the end follows. -/
def dropZerosAfter? (last : Char) : List Char → Option (List Char)
  | [] => some [last]
  | c :: rest =>
    if c = '0' ∨ c = '_' then dropZerosAfter? c rest
    else if c = '.' then some (last :: c :: rest)
    else if startsDigits c then some (c :: rest)
    else none

def dropZeros? : List Char → Option (List Char)
  | [] => none
  | c :: rest =>
    if c = '0' then dropZerosAfter? c rest
    else if startsDigits c then some (c :: rest)
    else none

def dropFraction (text : List Char) : List Char :=
  match Text.cutAt ['.'] text with
  | some (whole, fraction) =>
    if fraction ≠ [] ∧ fraction.all (· = '0') then whole else text
  | none => text

def dropUnderscores (text : List Char) : List Char :=
  let doubled := (Text.cutAt ['_', '_'] text).isSome
  if doubled ∨ text.head? = some '_' ∨ text.getLast? = some '_' then text
  else text.filter (· ≠ '_')

def bare? (text : String) : Option (List Char) := do
  let text ← dropPlus? (Text.stripChars Text.isNumeralSpace text.toList)
  let text ← dropZeros? text
  return dropUnderscores (dropFraction text)

def ofBare? (text : List Char) : Option Int :=
  let (negative, digits) := match text with
    | '-' :: digits => (true, digits)
    | digits => (false, digits)
  if digits = [] then none
  else (digits.mapM Text.asciiDigit?).map fun digits => Text.signed negative (Text.ofDigits digits)

def read (text : String) : Except Fault Int :=
  match bare? text with
  | none => .error .unreadable
  | some bare =>
    if Text.digitLimit < bare.length then .error .tooLong
    else match ofBare? bare with
      | some value => .ok value
      | none => .error .unreadable

end TreeShell.Json.Numeral
