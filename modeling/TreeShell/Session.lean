import TreeShell.Command.Builtin
import TreeShell.Invocation
import TreeShell.Seed

namespace TreeShell

structure HistoryEntry where
  command : String
  directory : Path
  output : String
  deriving DecidableEq, Repr

structure Shown where
  output : String
  newDirectory : Path
  clearScreen : Bool
  deriving DecidableEq, Repr

/-- The output as the screen takes it: a clear request is a word of its own. -/
def Shown.screenText (shown : Shown) : String :=
  if shown.clearScreen then "CLEAR_TERMINAL" else shown.output

structure Session where
  id : String
  tree : Tree
  environment : Environment
  clock : Clock
  sizes : Twister
  cwd : Path
  history : List HistoryEntry
  maxHistory : Nat
  registry : Registry Command.Handler

namespace Session

def defaultMaxHistory : Nat := 1000

def start (id : String) (tree : Tree) (environment : Environment) (fresh : Twister) (cwd : Path)
    (maxHistory : Nat) : Session where
  id
  tree
  environment
  clock := environment.clock
  sizes := environment.source fresh
  cwd
  history := []
  maxHistory
  registry := Builtin.registry Builtin.run

def context (session : Session) (invocation : Invocation) (cwd : Path) : Command.Context where
  name := invocation.name
  args := invocation.args
  cwd
  environment := session.environment
  history := session.history.map HistoryEntry.command ++ [invocation.raw]
  commands := session.registry.summaries

def world (session : Session) : World := ⟨session.tree, session.clock, session.sizes⟩

def withWorld (session : Session) (world : World) : Session :=
  { session with tree := world.tree, clock := world.clock, sizes := world.sizes }

/-- The reply to a name that no command has: a file of that name seems to run. -/
def unknownCommand (session : Session) (name : String) (cwd : Path) : Reply :=
  if session.tree.hasFile (Path.join cwd name) then .text s!"Simulated execution of {name}"
  else .text s!"Command not found: {name}\nType 'help' to see available commands."

def faultReply (fault : Fault) : Reply := .text ("Error: " ++ fault.message)

/-- Hands an invocation to its command. On a broken tree no command runs. -/
def dispatch (session : Session) (invocation : Invocation) (cwd : Path) : Reply × Session :=
  if invocation.name = "" then ({}, session)
  else match session.registry.get? invocation.name with
    | none => (session.unknownCommand invocation.name cwd, session)
    | some handler =>
      if session.tree.issues = [] then
        match handler (session.context invocation cwd) session.world with
        | (.ok reply, world) => (reply, session.withWorld world)
        | (.error fault, world) => (faultReply fault, session.withWorld world)
      else (faultReply (.brokenTree session.tree.issues), session)

/-- Writes output to the target of a redirection, and gives what is left to show. A target that
    cannot be written swallows the output. -/
def redirect (tree : Tree) (name : String) (redirection : Redirection) (output : String)
    (cwd : Path) : String × Tree :=
  let path := Path.resolve redirection.target cwd
  let parent := Path.parent path
  if parent ≠ "" ∧ !tree.hasDirectory parent then
    (s!"{name}: cannot create {redirection.target}: No such file or directory", tree)
  else
    let content :=
      match redirection.append, tree.content? path with
      | true, some old => old ++ "\n" ++ output
      | _, _ => output
    ("", (tree.writeFile path content).2)

def record (history : List HistoryEntry) (limit : Nat) (entry : HistoryEntry) :
    List HistoryEntry :=
  let history := history ++ [entry]
  history.drop (history.length - limit)

def execute (session : Session) (line : String) (directory : Option Path) : Shown × Session :=
  let cwd := directory.getD session.cwd
  let invocation := Invocation.parse line
  let (reply, session) := session.dispatch invocation cwd
  let newDirectory := reply.newDirectory.getD cwd
  let session := { session with cwd := newDirectory }
  if reply.clearScreen then (⟨"", newDirectory, true⟩, { session with history := [] })
  else
    let (output, tree) :=
      match invocation.redirection with
      | some redirection =>
        if reply.output = "" then (reply.output, session.tree)
        else redirect session.tree invocation.name redirection reply.output cwd
      | none => (reply.output, session.tree)
    let history :=
      if invocation.raw = "" then session.history
      else record session.history session.maxHistory ⟨invocation.raw, cwd, output⟩
    (⟨output, newDirectory, false⟩, { session with tree, history })

def reset (session : Session) : Session :=
  { session with tree := Seed.tree, cwd := "", history := [] }

structure Snapshot where
  sessionId : String
  cwd : Path
  directoryCount : Nat
  fileCount : Nat
  historyLength : Nat
  summary : String
  issues : List Tree.Issue
  deriving DecidableEq, Repr

def snapshot (session : Session) : Snapshot where
  sessionId := session.id
  cwd := session.cwd
  directoryCount := session.tree.directoryCount
  fileCount := session.tree.fileCount
  historyLength := session.history.length
  summary := session.tree.summary
  issues := session.tree.issues

def register (session : Session) (name : String) (handler : Command.Handler) (summary : String) :
    Except Registry.Refusal Session :=
  (session.registry.register name handler summary).map fun registry => { session with registry }

end Session

end TreeShell
