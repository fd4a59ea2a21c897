import TreeShell.Environment.Settings
import TreeShell.Session

namespace TreeShell.Session

structure Settings where
  cwd : Option Json := none
  maxHistory : Option Json := none

def Settings.checkCwd (settings : Settings) : Schema.Checked Path :=
  match settings.cwd with
  | none => .ok ""
  | some given => Schema.under (.field "current_directory") (Schema.text given)

def Settings.checkMaxHistory (settings : Settings) : Schema.Checked Nat :=
  match settings.maxHistory with
  | none => .ok defaultMaxHistory
  | some given =>
    (Schema.under (.field "max_history") (Schema.integerFrom 1 given)).map Int.toNat

def configure (settings : Settings) (id : String) (tree : Tree) (environment : Environment)
    (fresh : Twister) : Schema.Checked Session :=
  Schema.build (start id tree environment fresh)
    |>.apply settings.checkCwd |>.apply settings.checkMaxHistory

end TreeShell.Session
