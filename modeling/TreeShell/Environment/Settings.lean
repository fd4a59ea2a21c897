import TreeShell.Environment.Basic
import TreeShell.Json.Schema

namespace TreeShell.Environment

structure Variables where
  username : Option String := none
  seed : Option String := none
  deriving DecidableEq, Repr

structure Settings where
  username : Json := .null
  seed : Json := .null

inductive Refusal
  | seedVariable (text : String)
  | invalid (issues : List Schema.Issue)
  deriving DecidableEq, Repr

def Refusal.message : Refusal → String
  | .seedVariable text => "VTS_RANDOM_SEED must be an integer, got " ++ Text.quoted text
  | .invalid issues => Schema.summary issues

def Variables.usernameOrDefault (process : Variables) : String :=
  match process.username with
  | none | some "" => defaultUsername
  | some username => username

def Variables.readSeed (process : Variables) : Except Refusal (Option Int) :=
  match process.seed with
  | none | some "" => .ok none
  | some text =>
    match Text.readInt? text with
    | some seed => .ok (some seed)
    | none => .error (.seedVariable text)

def Settings.checkUsername (settings : Settings) (process : Variables) :
    Schema.Checked String :=
  match settings.username with
  | .null => .ok process.usernameOrDefault
  | given => Schema.under (.field "username") (Schema.text given)

/-- The environment for some settings. The variables are only asked for what is not given. -/
def configure (settings : Settings) (process : Variables) (clock : Clock) :
    Except Refusal Environment := do
  let fallback ← match settings.seed with
    | .null => process.readSeed
    | _ => .ok none
  let seed := match settings.seed with
    | .null => .ok fallback
    | given => (Schema.under (.field "random_seed") (Schema.integer given)).map some
  let checked := Schema.build (fun username seed => Environment.mk username seed clock)
    |>.apply (settings.checkUsername process) |>.apply seed
  checked.mapError .invalid

end TreeShell.Environment
