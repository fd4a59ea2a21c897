namespace TreeShell

inductive Tree.Issue
  | rootMissing
  | duplicateDirectory
  | bothKinds (path : String)
  | orphanFile (path parent : String)
  | directoryNotCanonical (path : String)
  | fileNotCanonical (path : String)
  deriving DecidableEq, Repr

def Tree.Issue.message : Tree.Issue → String
  | .rootMissing => "Root directory is missing"
  | .duplicateDirectory => "Duplicate directory entries"
  | .bothKinds path => s!"Path '{path}' is both a file and a directory"
  | .orphanFile path parent => s!"File '{path}' has no parent directory '{parent}'"
  | .directoryNotCanonical path => s!"Directory '{path}' is not canonical"
  | .fileNotCanonical path => s!"File '{path}' is not canonical"

end TreeShell
