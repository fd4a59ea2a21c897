import TreeShell.Text.Pieces

namespace TreeShell.Glob

/-- Tries a matcher after every run of characters that a star may take. -/
def afterStar (rest : List Char → Bool) : List Char → Bool
  | [] => rest []
  | c :: name => rest (c :: name) || (c ≠ '\n' && afterStar rest name)

def afterOne (accepts : Char → Bool) (rest : List Char → Bool) : List Char → Bool
  | [] => false
  | c :: name => accepts c && rest name

def covers : List Char → List Char → Bool
  | [] => List.isEmpty
  | '*' :: pattern => afterStar (covers pattern)
  | '?' :: pattern => afterOne (· ≠ '\n') (covers pattern)
  | p :: pattern => afterOne (· = p) (covers pattern)

def matchesChars (pattern name : List Char) : Bool :=
  covers pattern name || (name.getLast? = some '\n' && covers pattern name.dropLast)

def isMatch (pattern name : String) : Bool := matchesChars pattern.toList name.toList

def isQuote (c : Char) : Bool := c == '"' || c == '\''

def dropFirstQuote : List Char → List Char
  | [] => []
  | c :: rest => if isQuote c then rest else c :: rest

/-- Drops one quote character from the end, or from before a line feed at the end. -/
def dropLastQuote : List Char → List Char
  | [] => []
  | [c] => if isQuote c then [] else [c]
  | [c, d] =>
    if isQuote d then [c] else if isQuote c ∧ d = '\n' then [d] else [c, d]
  | c :: rest => c :: dropLastQuote rest

def unquote (pattern : String) : String :=
  String.ofList (dropLastQuote (dropFirstQuote pattern.toList))

end TreeShell.Glob
