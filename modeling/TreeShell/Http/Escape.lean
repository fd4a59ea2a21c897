import TreeShell.Text.Bytes
import TreeShell.Text.Numeral
import TreeShell.Text.Pieces

namespace TreeShell.Http.Escape

def byte? (high low : Char) : Option Nat := do
  let high ← Text.hexValue? high
  let low ← Text.hexValue? low
  return 0x10 * high + low

def ofByte (byte : Nat) : List Char :=
  ['%', (Nat.digitChar (byte / 0x10)).toUpper, (Nat.digitChar (byte % 0x10)).toUpper]

def encode (safe : Char → Bool) (text : String) : String :=
  String.ofList (text.toList.flatMap fun c =>
    if safe c then [c] else (Text.toBytes [c]).flatMap ofByte)

def bytes : List Char → List Nat
  | '%' :: high :: low :: rest =>
    match byte? high low with
    | some byte => byte :: bytes rest
    | none => Text.toBytes ['%'] ++ bytes (high :: low :: rest)
  | c :: rest => Text.toBytes [c] ++ bytes rest
  | [] => []

def decode (text : String) : String := String.ofList (Text.ofBytes (bytes text.toList))

def isFormSafe (c : Char) : Bool := c.isAlphanum || "-._~".toList.contains c

def encodePart (part : String) : String :=
  String.ofList ((encode (fun c => isFormSafe c || c == ' ') part).toList.map fun c =>
    if c = ' ' then '+' else c)

def ofFields (fields : List (String × String)) : String :=
  Text.join "&" (fields.map fun (name, value) => encodePart name ++ "=" ++ encodePart value)

def decodePart (part : List Char) : String :=
  decode (String.ofList (part.map fun c => if c = '+' then ' ' else c))

def field (text : List Char) : String × String :=
  match Text.cutAt ['='] text with
  | some (name, value) => (decodePart name, decodePart value)
  | none => (decodePart text, "")

def fields (query : String) : List (String × String) :=
  ((Text.pieces '&' query.toList).filter (· ≠ [])).map field

end TreeShell.Http.Escape
