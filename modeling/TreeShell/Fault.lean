import TreeShell.Text.Pieces
import TreeShell.Text.Quoted
import TreeShell.Tree.Issue

namespace TreeShell

def Tree.Issue.summary (issues : List Tree.Issue) : String :=
  "Value error, " ++ Text.join "; " (issues.map Tree.Issue.message)

inductive Fault
  | fileNotFound (path : String)
  | directoryNotFound (path : String)
  | notInside (path ancestor : String)
  | brokenTree (issues : List Tree.Issue)
  | noSuchKey (key : String)
  | missingArgument
  | other (kind message : String)
  deriving DecidableEq, Repr

/-- The message of a fault. The one about a broken tree ends with the first lines of the real one,
    which goes on with the rejected value and an address to read more at. -/
def Fault.message : Fault → String
  | .fileNotFound path => s!"File '{path}' not found"
  | .directoryNotFound path => s!"Directory '{path}' not found"
  | .notInside path ancestor => s!"'{path}' is not inside '{ancestor}'"
  | .brokenTree issues =>
    "1 validation error for CommandContext\nfilesystem\n  " ++ Tree.Issue.summary issues
  | .noSuchKey key => Text.quoted key
  | .missingArgument => "list index out of range"
  | .other _ message => message

end TreeShell
