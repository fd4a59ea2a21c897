import TreeShell.Environment.Basic
import TreeShell.Tree.Edit

namespace TreeShell

structure Reply where
  output : String := ""
  newDirectory : Option Path := none
  clearScreen : Bool := false
  deriving DecidableEq, Repr

namespace Reply

def text (output : String) : Reply := { output }

def lines (output : List String) : Reply := text (Text.join "\n" output)

def clear : Reply := { clearScreen := true }

end Reply

structure World where
  tree : Tree
  clock : Clock
  sizes : Twister

namespace Command

structure Context where
  name : String
  args : List String
  cwd : Path
  environment : Environment
  history : List String
  commands : OrderedMap String String

namespace Context

def resolve (ctx : Context) (word : String) : Path := Path.resolve word ctx.cwd

def hasFlag (ctx : Context) (flags : List String) : Bool := flags.any ctx.args.contains

def operands (ctx : Context) : List String := ctx.args.filter (·.toList.head? ≠ some '-')

def summary (ctx : Context) (name : String) : Except Fault String :=
  match ctx.commands.get? name with
  | some summary => .ok summary
  | none => .error (.noSuchKey name)

end Context

/-- What stopped a command that edits the tree, and the tree as it was by then. -/
structure Setback where
  fault : Fault
  tree : Tree

def stopAt {α : Type} (tree : Tree) (asked : Except Fault α) : Except Setback α :=
  asked.mapError (⟨·, tree⟩)

abbrev Handler := Context → World → Except Fault Reply × World

namespace Handler

def asking (answer : Context → Tree → Except Fault Reply) : Handler :=
  fun ctx world => (answer ctx world.tree, world)

def telling (answer : Context → Reply) : Handler := asking fun ctx _ => .ok (answer ctx)

def editing (edit : Context → Tree → Except Setback (Tree × Reply)) : Handler :=
  fun ctx world =>
    match edit ctx world.tree with
    | .ok (tree, reply) => (.ok reply, { world with tree })
    | .error setback => (.error setback.fault, { world with tree := setback.tree })

end Handler

abbrev OperandResult := Tree × Option String

/-- Handles operands one after the other and stops at the first that fails; what was done for the
    operands before it stays done. -/
def eachOperand (step : Tree → String → Except Setback OperandResult) :
    Tree → List String → Except Setback OperandResult
  | tree, [] => .ok (tree, none)
  | tree, operand :: rest =>
    match step tree operand with
    | .ok (tree, none) => eachOperand step tree rest
    | .ok (tree, some complaint) => .ok (tree, some complaint)
    | .error setback => .error setback

def report (result : Except Setback OperandResult) : Except Setback (Tree × Reply) :=
  result.map fun (tree, complaint) => (tree, .text (complaint.getD ""))

end Command

end TreeShell
