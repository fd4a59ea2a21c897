import TreeShell.Command.Basic

namespace TreeShell.Command

def touchOne (ctx : Context) (tree : Tree) (word : String) : OperandResult :=
  let path := ctx.resolve word
  let parent := Path.parent path
  if parent ≠ "" ∧ !tree.hasDirectory parent then
    (tree, some s!"touch: cannot touch '{word}': No such file or directory")
  else if tree.has path then (tree, none)
  else ((tree.createFile path "").2, none)

def touch : Handler := .editing fun ctx tree =>
  if ctx.args.isEmpty then .ok (tree, .text "touch: missing file operand")
  else report (eachOperand (fun tree word => .ok (touchOne ctx tree word)) tree ctx.args)

def createAll (tree : Tree) (paths : List Path) : Tree :=
  paths.foldl (fun tree path => (tree.createDirectory path).2) tree

/-- Creates a directory; with `parents` also those above it, and one that is there is no failure. -/
def mkdirOne (ctx : Context) (parents : Bool) (tree : Tree) (word : String) : OperandResult :=
  let path := ctx.resolve word
  let parent := Path.parent path
  let fail (reason : String) : OperandResult :=
    (tree, some s!"mkdir: cannot create directory '{word}': {reason}")
  if tree.hasDirectory path then if parents then (tree, none) else fail "File exists"
  else if tree.hasFile path then fail "File exists"
  else if parent = "" ∨ tree.hasDirectory parent then ((tree.createDirectory path).2, none)
  else if !parents then fail "No such file or directory"
  else
    let chain := Path.ancestors path ++ [path]
    if chain.any tree.hasFile then fail "Not a directory"
    else (createAll tree chain, none)

def mkdir : Handler := .editing fun ctx tree =>
  if ctx.operands.isEmpty then .ok (tree, .text "mkdir: missing operand")
  else
    let parents := ctx.hasFlag ["-p"]
    report (eachOperand (fun tree word => .ok (mkdirOne ctx parents tree word)) tree ctx.operands)

/-- Removes a file, or with `recursive` a directory; `force` passes over what is not there. -/
def rmOne (ctx : Context) (recursive force : Bool) (tree : Tree) (word : String) : OperandResult :=
  let path := ctx.resolve word
  if tree.hasFile path then ((tree.removeFile path).2, none)
  else if tree.hasDirectory path then
    if !recursive then (tree, some s!"rm: cannot remove '{word}': Is a directory")
    else if path = "" then
      (tree, some s!"rm: it is dangerous to operate recursively on '{word}'")
    else ((tree.removeDirectory path true).2, none)
  else if force then (tree, none)
  else (tree, some s!"rm: cannot remove '{word}': No such file or directory")

def rm : Handler := .editing fun ctx tree =>
  if ctx.operands.isEmpty then .ok (tree, .text "rm: missing operand")
  else
    let recursive := ctx.hasFlag ["-r", "-R", "-rf", "-fr"]
    let force := ctx.hasFlag ["-f", "-rf", "-fr"]
    report (eachOperand (fun tree word => .ok (rmOne ctx recursive force tree word)) tree
      ctx.operands)

end TreeShell.Command
