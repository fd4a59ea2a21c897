import TreeShell.Text.Blank
import TreeShell.Text.LowerCase
import TreeShell.Text.Pieces

namespace TreeShell

structure Redirection where
  target : String
  append : Bool
  deriving DecidableEq, Repr

namespace Redirection

def appendArrow : List Char := ['>', '>']

def writeArrow : List Char := ['>']

def targetIn (arrow after : List Char) : String :=
  match Text.cutAt arrow after with
  | some (target, _) => Text.trim (String.ofList target)
  | none => Text.trim (String.ofList after)

def cutLine (arrow : List Char) (append : Bool) (line : String) : Option (String × Redirection) :=
  (Text.cutAt arrow line.toList).map fun (before, after) =>
    (Text.trim (String.ofList before), ⟨targetIn arrow after, append⟩)

/-- Separates the redirection of a line from its command. The double arrow is looked for first. -/
def split (line : String) : String × Option Redirection :=
  match cutLine appendArrow true line with
  | some (command, redirection) => (command, some redirection)
  | none => match cutLine writeArrow false line with
    | some (command, redirection) => (command, some redirection)
    | none => (line, none)

end Redirection

namespace Words

def isQuote (c : Char) : Bool := c == '"' || c == '\''

def finish (word : List Char) : List String := if word = [] then [] else [String.ofList word]

/-- Reads words from the text behind an open quote, if any, and the word begun so far. A quote
    character toggles quoting unless another one is open. -/
def scan : Option Char → List Char → List Char → List String
  | _, word, [] => finish word
  | quote, word, c :: rest =>
    if isQuote c ∧ (quote = none ∨ quote = some c) then
      scan (if quote = none then some c else none) word rest
    else if c = ' ' ∧ quote = none then finish word ++ scan none [] rest
    else scan quote (word ++ [c]) rest

def ofText (command : String) : List String := scan none [] command.toList

end Words

structure Invocation where
  raw : String
  words : List String
  redirection : Option Redirection
  deriving DecidableEq, Repr

namespace Invocation

@[irreducible]
def parse (line : String) : Invocation :=
  let raw := Text.trim line
  let (command, redirection) := Redirection.split raw
  ⟨raw, Words.ofText command, redirection⟩

def name (invocation : Invocation) : String :=
  match invocation.words with
  | [] => ""
  | word :: _ => Text.lower word

def args (invocation : Invocation) : List String := invocation.words.drop 1

end Invocation

end TreeShell
