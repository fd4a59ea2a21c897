import TreeShell.Number.Basic
import TreeShell.Text.Pieces
import TreeShell.Text.Quoted

namespace TreeShell

inductive Json
  | null
  | bool (value : Bool)
  | number (value : Number)
  | string (value : String)
  | array (items : List Json)
  | object (fields : List (String × Json))
  deriving Repr, Inhabited

namespace Json

def integer (value : Int) : Json := number (.integer value)

def field? (name : String) : List (String × Json) → Option Json
  | [] => none
  | (key, value) :: rest => if key = name then some value else field? name rest

def get? : Json → String → Option Json
  | object fields, name => field? name fields
  | _, _ => none

mutual

def nestedText : Json → String
  | null => "None"
  | bool true => "True"
  | bool false => "False"
  | number value => value.text
  | string value => Text.quoted value
  | array items => "[" ++ Text.join ", " (itemTexts items) ++ "]"
  | object fields => "\x7b" ++ Text.join ", " (fieldTexts fields) ++ "\x7d"

def itemTexts : List Json → List String
  | [] => []
  | item :: rest => nestedText item :: itemTexts rest

def fieldTexts : List (String × Json) → List String
  | [] => []
  | (name, value) :: rest => (Text.quoted name ++ ": " ++ nestedText value) :: fieldTexts rest

end

def text : Json → String
  | string value => value
  | value => nestedText value

/-- Whether a value counts as present: nothing, zero and what is empty do not. -/
def isPresent : Json → Bool
  | null => false
  | bool value => value
  | number value => !value.isZero
  | string value => value ≠ ""
  | array items => !items.isEmpty
  | object fields => !fields.isEmpty

end Json

end TreeShell
