import TreeShell.Json.Basic

namespace TreeShell.Json

mutual

def isFinite : Json → Bool
  | number (.real value) => value.isFinite
  | array items => areFinite items
  | object fields => haveFinite fields
  | _ => true

def areFinite : List Json → Bool
  | [] => true
  | item :: rest => item.isFinite && areFinite rest

def haveFinite : List (String × Json) → Bool
  | [] => true
  | (_, value) :: rest => value.isFinite && haveFinite rest

end

def notFiniteMessage : String := "Out of range float values are not JSON compliant"

mutual

def texts : Json → List String
  | string value => [value]
  | array items => textsOfItems items
  | object fields => textsOfFields fields
  | _ => []

def textsOfItems : List Json → List String
  | [] => []
  | item :: rest => item.texts ++ textsOfItems rest

def textsOfFields : List (String × Json) → List String
  | [] => []
  | (name, value) :: rest => name :: value.texts ++ textsOfFields rest

end

/-- Why a document cannot be written text by text. -/
def unwritable? (document : Json) : Option String := document.texts.findSome? Text.unwritable?

def writtenChar (c : Char) : List Char :=
  if c = '"' ∨ c = '\\' then ['\\', c]
  else if c = '\n' then ['\\', 'n']
  else if c = '\r' then ['\\', 'r']
  else if c = '\t' then ['\\', 't']
  else if c = '\x08' then ['\\', 'b']
  else if c = '\x0c' then ['\\', 'f']
  else if c.toNat < 0x20 then '\\' :: 'u' :: Text.hexDigits 4 c.toNat
  else [c]

def writtenText (text : String) : String :=
  String.ofList ('"' :: text.toList.flatMap writtenChar ++ ['"'])

mutual

def written : Json → String
  | null => "null"
  | bool true => "true"
  | bool false => "false"
  | number value => value.text
  | string value => writtenText value
  | array items => "[" ++ Text.join "," (writtenItems items) ++ "]"
  | object fields => "\x7b" ++ Text.join "," (writtenFields fields) ++ "\x7d"

def writtenItems : List Json → List String
  | [] => []
  | item :: rest => item.written :: writtenItems rest

def writtenFields : List (String × Json) → List String
  | [] => []
  | (name, value) :: rest => (writtenText name ++ ":" ++ value.written) :: writtenFields rest

end

end TreeShell.Json
