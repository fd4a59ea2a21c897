import TreeShell.Command.Basic

namespace TreeShell.Command

def echo : Handler := .telling fun ctx => .text (Text.join " " ctx.args)

def processTable : List String := [
  "  PID TTY          TIME CMD",
  " 1234 pts/0    00:00:01 bash",
  " 5678 pts/0    00:00:00 npm",
  " 9012 pts/0    00:00:12 node",
  "13456 pts/0    00:00:00 ps"]

def ps : Handler := .telling fun _ => .lines processTable

def whoami : Handler := .telling fun ctx => .text ctx.environment.username

def date : Handler := fun _ world =>
  (.ok (.text world.clock.now.dateLine), { world with clock := world.clock.later })

def history : Handler := .telling fun ctx =>
  .lines ((ctx.history.zipIdx 1).map fun (line, number) =>
    s!"{Text.alignRight 5 (toString number)}  {line}")

def clear : Handler := .telling fun _ => .clear

end TreeShell.Command
