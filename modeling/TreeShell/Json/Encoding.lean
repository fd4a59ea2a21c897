import TreeShell.Text.Bytes
import TreeShell.Text.Units

namespace TreeShell.Json

inductive Encoding
  | bytes
  | units16 (bigEndian : Bool)
  | units32 (bigEndian : Bool)
  deriving DecidableEq, Repr

namespace Encoding

def ofBytes : List Nat → Encoding
  | 0 :: second :: _ :: _ :: _ => if second = 0 then units32 true else units16 true
  | _ :: 0 :: third :: fourth :: _ =>
    if third = 0 ∧ fourth = 0 then units32 false else units16 false
  | [0, _] => units16 true
  | [_, 0] => units16 false
  | _ => bytes

def pairs? (bigEndian : Bool) : List Nat → Option (List Nat)
  | [] => some []
  | first :: second :: rest =>
    let unit := if bigEndian then 0x100 * first + second else 0x100 * second + first
    (pairs? bigEndian rest).map (unit :: ·)
  | _ => none

def wideChars? (bigEndian : Bool) : List Nat → Option (List Char)
  | [] => some []
  | first :: second :: rest =>
    let unit := if bigEndian then 0x10000 * first + second else 0x10000 * second + first
    if unit < 0x110000 then (wideChars? bigEndian rest).map (Text.unitChar unit :: ·) else none
  | _ => none

/-- The characters that the bytes of a text stand for in its encoding. -/
def decode? (text : List Char) : Option (List Char) :=
  match ofBytes (Text.toBytes (text.take 4)) with
  | bytes => some text
  | units16 bigEndian => (pairs? bigEndian (Text.toBytes text)).map Text.ofUnits
  | units32 bigEndian => (pairs? bigEndian (Text.toBytes text)).bind (wideChars? bigEndian)

end Encoding

end TreeShell.Json
