import TreeShell.Command.Canned
import TreeShell.Command.Edit
import TreeShell.Command.Info
import TreeShell.Command.Manual
import TreeShell.Command.Registry
import TreeShell.Command.Transfer
import TreeShell.Command.View

namespace TreeShell

inductive Builtin
  | ls | cd | pwd
  | cat | touch | mkdir | rm | cp | mv
  | find | grep
  | npm | node | gh | git
  | echo | ps | whoami | date | help | man | history | clear
  deriving DecidableEq, Repr

namespace Builtin

def all : List Builtin :=
  [ls, cd, pwd, cat, touch, mkdir, rm, cp, mv, find, grep, npm, node, gh, git,
    echo, ps, whoami, date, help, man, history, clear]

def name : Builtin → String
  | ls => "ls"
  | cd => "cd"
  | pwd => "pwd"
  | cat => "cat"
  | touch => "touch"
  | mkdir => "mkdir"
  | rm => "rm"
  | cp => "cp"
  | mv => "mv"
  | find => "find"
  | grep => "grep"
  | npm => "npm"
  | node => "node"
  | gh => "gh"
  | git => "git"
  | echo => "echo"
  | ps => "ps"
  | whoami => "whoami"
  | date => "date"
  | help => "help"
  | man => "man"
  | history => "history"
  | clear => "clear"

def summary : Builtin → String
  | ls => "List directory contents"
  | cd => "Change directory"
  | pwd => "Print working directory"
  | cat => "Display file contents"
  | touch => "Create an empty file"
  | mkdir => "Create directory"
  | rm => "Remove files or directories"
  | cp => "Copy files or directories"
  | mv => "Move/rename files or directories"
  | find => "Search for files"
  | grep => "Search for a pattern in files"
  | npm => "Node package manager"
  | node => "Run a Node.js script"
  | gh => "GitHub CLI"
  | git => "Version control"
  | echo => "Display a line of text"
  | ps => "Report process status"
  | whoami => "Print current user"
  | date => "Show the current date and time"
  | help => "Show available commands"
  | man => "Display manual page"
  | history => "Show command history"
  | clear => "Clear the terminal screen"

def run : Builtin → Command.Handler
  | ls => Command.ls
  | cd => Command.cd
  | pwd => Command.pwd
  | cat => Command.cat
  | touch => Command.touch
  | mkdir => Command.mkdir
  | rm => Command.rm
  | cp => Command.cp
  | mv => Command.mv
  | find => Command.find
  | grep => Command.grep
  | npm => Command.npm
  | node => Command.node
  | gh => Command.gh
  | git => Command.git
  | echo => Command.echo
  | ps => Command.ps
  | whoami => Command.whoami
  | date => Command.date
  | help => Command.help
  | man => Command.man
  | history => Command.history
  | clear => Command.clear

def ofName? (name : String) : Option Builtin := all.find? (·.name = name)

def registry {η : Type} (handler : Builtin → η) : Registry η :=
  ⟨.ofList (all.map fun builtin => (builtin.name, ⟨handler builtin, builtin.summary⟩))⟩

end Builtin

end TreeShell
