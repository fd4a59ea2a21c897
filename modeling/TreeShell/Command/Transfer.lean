import TreeShell.Command.Basic

namespace TreeShell.Command

inductive Transfer
  | copy
  | move
  deriving DecidableEq, Repr

namespace Transfer

def landing (source target path : Path) : Except Fault Path :=
  (Path.relativeTo path source).map (Path.join target)

def firstTaken (source target : Path) (taken : Path → Bool) : List Path → Except Fault (Option Path)
  | [] => .ok none
  | path :: rest => do
    let image ← landing source target path
    if taken image then return some image
    firstTaken source target taken rest

/-- The first path of a copy that could not be written: a directory may not land on a file, nor a
    file on a directory. -/
def conflict? (tree : Tree) (source target : Path) : Except Fault (Option Path) := do
  match ← firstTaken source target tree.hasFile (tree.directoriesBelow source) with
  | some image => return some image
  | none => firstTaken source target tree.hasDirectory (tree.filesBelow source)

def copyFolders (source target : Path) : Tree → List Path → Except Setback Tree
  | tree, [] => .ok tree
  | tree, folder :: rest => do
    let image ← stopAt tree (landing source target folder)
    copyFolders source target (tree.createDirectory image).2 rest

/-- Writes the image of each file of a list, and says whether all could be written. -/
def copyFiles (source target : Path) : Tree → List Path → Except Setback (Bool × Tree)
  | tree, [] => .ok (true, tree)
  | tree, file :: rest => do
    let image ← stopAt tree (landing source target file)
    let content ← stopAt tree (tree.lookUp file)
    let (written, tree) := tree.writeFile image content
    let (complete, tree) ← copyFiles source target tree rest
    return (written && complete, tree)

/-- Copies all that lies below the source; directories that are there already are merged into. -/
def copyTree (tree : Tree) (source target : Path) : Except Setback (Bool × Tree) := do
  let tree := (tree.createDirectory target).2
  let tree ← copyFolders source target tree (tree.directoriesBelow source)
  copyFiles source target tree (tree.filesBelow source)

structure Destination where
  word : String
  path : Path
  isDirectory : Bool

def Destination.target (destination : Destination) (source : Path) : Path :=
  if destination.isDirectory then Path.join destination.path (Path.baseName source)
  else destination.path

def file (transfer : Transfer) (command : String) (destination : Destination) (tree : Tree)
    (source target : Path) : Except Setback OperandResult := do
  if tree.hasDirectory target then
    return (tree, some
      s!"{command}: cannot overwrite directory '{destination.word}' with non-directory")
  if target = source then
    return (tree, none)
  let content ← stopAt tree (tree.lookUp source)
  match tree.writeFile target content with
  | (false, tree) =>
    return (tree, some
      s!"{command}: cannot create regular file '{destination.word}': No such file or directory")
  | (true, tree) =>
    return (if transfer = .move then (tree.removeFile source).2 else tree, none)

def intoItself (transfer : Transfer) (word target : String) : String :=
  match transfer with
  | .move => s!"mv: cannot move '{word}' to a subdirectory of itself, '{target}'"
  | .copy => s!"cp: cannot copy a directory, '{word}', into itself, '{target}'"

def folder (transfer : Transfer) (command : String) (destination : Destination) (tree : Tree)
    (word : String) (source target : Path) : Except Setback OperandResult := do
  if target = source ∨ Path.isBelow target source then
    return (tree, some (transfer.intoItself word destination.word))
  if tree.hasFile target then
    return (tree, some
      s!"{command}: cannot overwrite non-directory '{destination.word}' with directory '{word}'")
  if !tree.hasDirectory (Path.parent target) then
    return (tree, some
      s!"{command}: cannot create directory '{destination.word}': No such file or directory")
  match ← stopAt tree (conflict? tree source target) with
  | some conflict =>
    if tree.hasFile conflict then
      return (tree, some
        s!"{command}: cannot overwrite non-directory '{conflict}' with directory")
    else
      return (tree, some
        s!"{command}: cannot overwrite directory '{conflict}' with non-directory")
  | none =>
    match ← copyTree tree source target with
    | (false, tree) =>
      return (tree, some s!"{command}: cannot copy directory '{word}' to '{destination.word}'")
    | (true, tree) =>
      return (if transfer = .move then (tree.removeDirectory source true).2 else tree, none)

def one (transfer : Transfer) (ctx : Context) (recursive : Bool) (destination : Destination)
    (tree : Tree) (word : String) : Except Setback OperandResult :=
  let source := ctx.resolve word
  let target := destination.target source
  if tree.hasFile source then transfer.file ctx.name destination tree source target
  else if tree.hasDirectory source then
    if recursive then transfer.folder ctx.name destination tree word source target
    else .ok (tree, some s!"{ctx.name}: -r not specified; omitting directory '{word}'")
  else .ok (tree, some s!"{ctx.name}: cannot stat '{word}': No such file or directory")

def edit (transfer : Transfer) (ctx : Context) (tree : Tree) : Except Setback (Tree × Reply) :=
  match ctx.operands with
  | [] => .ok (tree, .text s!"{ctx.name}: missing file operand")
  | [word] =>
    .ok (tree, .text s!"{ctx.name}: missing destination file operand after '{word}'")
  | first :: second :: rest =>
    let sources := (first :: second :: rest).dropLast
    let word := (first :: second :: rest).getLastD ""
    let path := ctx.resolve word
    let destination : Destination := ⟨word, path, tree.hasDirectory path⟩
    if 1 < sources.length ∧ !destination.isDirectory then
      .ok (tree, .text s!"{ctx.name}: target '{word}' is not a directory")
    else
      let recursive := transfer = .move || ctx.hasFlag ["-r", "-R"]
      report (eachOperand (transfer.one ctx recursive destination) tree sources)

def run (transfer : Transfer) : Handler := .editing transfer.edit

end Transfer

def cp : Handler := Transfer.run .copy

def mv : Handler := Transfer.run .move

end TreeShell.Command
