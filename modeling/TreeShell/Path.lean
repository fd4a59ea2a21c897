import TreeShell.Fault
import TreeShell.Text.Blank

namespace TreeShell

abbrev Path := String

namespace Path

def segments (path : Path) : List String := Text.split '/' path

def names (path : Path) : List String := (segments path).filter (· ≠ "")

def ofSegments (parts : List String) : Path := Text.join "/" parts

def isCanonical (path : Path) : Bool := (segments path).all (· ≠ "")

def lastSlash? : List Char → Option Nat
  | [] => none
  | c :: rest =>
    match lastSlash? rest with
    | some place => some (place + 1)
    | none => if c = '/' then some 0 else none

def parent (path : Path) : Path :=
  match lastSlash? path.toList with
  | none => ""
  | some place => String.ofList (path.toList.take place)

def baseName (path : Path) : String :=
  match lastSlash? path.toList with
  | none => path
  | some place => String.ofList (path.toList.drop (place + 1))

def join (directory : Path) (name : String) : Path :=
  if directory = "" then name else directory ++ "/" ++ name

/-- Whether a path lies strictly below another. Everything but the root lies below the root. -/
def isBelow (path ancestor : Path) : Bool :=
  if ancestor = "" then path ≠ "" else (ancestor.toList ++ ['/']).isPrefixOf path.toList

def beyond (path ancestor : Path) : Path :=
  if ancestor = "" then path else String.ofList (path.toList.drop (ancestor.length + 1))

def relativeTo (path ancestor : Path) : Except Fault Path :=
  if isBelow path ancestor then .ok (beyond path ancestor) else .error (.notInside path ancestor)

def isChild (path directory : Path) : Bool :=
  isBelow path directory && !(beyond path directory).toList.contains '/'

def ancestors (path : Path) : List Path :=
  (List.range ((names path).length - 1)).map fun i => ofSegments ((names path).take (i + 1))

def resolve (word : String) (workingDirectory : Path) : Path :=
  let relative := ofSegments (names word)
  if word.toList.head? = some '/' ∨ workingDirectory = "" then relative
  else if relative = "" then workingDirectory
  else join workingDirectory relative

def above : String := ".."

def here : String := "."

def resolveMove (word : String) (workingDirectory : Path) : Path :=
  if word = above then parent workingDirectory
  else if word = here then workingDirectory
  else resolve word workingDirectory

def depth (path : Path) : Nat := path.toList.count '/'

/-- The tree path that a browser's path means: no path is the root, and slashes at the ends go. -/
def ofBrowser : Option String → Path
  | none => ""
  | some text => Text.stripChar '/' (Text.trim text)

end Path

end TreeShell
