import TreeShell.Number.Shortest
import TreeShell.Text.Numeral
import TreeShell.Text.Pieces

namespace TreeShell

inductive Number
  | integer (value : Int)
  | real (value : Binary64)
  deriving DecidableEq, Repr

namespace Number

def text : Number → String
  | integer value => toString value
  | real value => value.text

def text? : Number → Option String
  | integer value =>
    if Text.digitLimit < (toString value.natAbs).length then none else some (toString value)
  | real value => some value.text

def tooLongMessage : String :=
  s!"Exceeds the limit ({Text.digitLimit} digits) for integer string conversion; " ++
    "use sys.set_int_max_str_digits() to increase the limit"

def isZero : Number → Bool
  | integer value => value = 0
  | real value => value.isZero

def ofParts (negative : Bool) (whole fraction : List Nat) (exponent : Int) : Binary64 :=
  .ofDecimal negative (Text.ofDigits (whole ++ fraction)) (exponent - fraction.length)

def optionalDigits (part : List Char) : Option (List Nat) :=
  if part = [] then some [] else Text.groupedDigits Text.digitValue? part

def readReal? (text : List Char) : Option Binary64 := do
  let (negative, body) := Text.takeSign (Text.stripChars Text.isNumeralSpace text)
  let (mantissa, exponent) ← match Text.cutAt ['e'] (body.map Char.toLower) with
    | none => some (body, 0)
    | some (mantissa, power) =>
      let (negative, power) := Text.takeSign power
      (Text.groupedDigits Text.digitValue? power).map fun digits =>
        (mantissa, Text.signed negative (Text.ofDigits digits))
  let (whole, fraction) ← Text.cutAt ['.'] mantissa
  if whole = [] ∧ fraction = [] then none
  else return ofParts negative (← optionalDigits whole) (← optionalDigits fraction) exponent

def read? (text : String) : Option Number :=
  if text.toList.contains '.' then (readReal? text.toList).map real
  else (Text.readInt? text).map integer

end Number

end TreeShell
