import TreeShell.OrderedMap
import TreeShell.Sorting
import TreeShell.Text.LowerCase

namespace TreeShell

structure Registration (η : Type) where
  handler : η
  summary : String

structure Registry (η : Type) where
  commands : OrderedMap String (Registration η)

inductive Registry.Refusal
  | emptyName
  | taken (name : String)
  deriving DecidableEq, Repr

def Registry.Refusal.message : Registry.Refusal → String
  | .emptyName => "Command name cannot be empty"
  | .taken name => s!"Command '{name}' is already registered"

namespace Registry

variable {η : Type}

def empty : Registry η := ⟨.empty⟩

def register (registry : Registry η) (name : String) (handler : η) (summary : String) :
    Except Refusal (Registry η) :=
  let key := Text.lower name
  if key = "" then .error .emptyName
  else if registry.commands.contains key then .error (.taken key)
  else .ok ⟨registry.commands.insert key ⟨handler, summary⟩⟩

def registrar (name summary : String) (handler : η) (registry : Registry η) :
    Except Refusal (η × Registry η) :=
  (registry.register name handler summary).map fun registry => (handler, registry)

def get? (registry : Registry η) (name : String) : Option η :=
  (registry.commands.get? (Text.lower name)).map Registration.handler

def summary (registry : Registry η) (name : String) : String :=
  ((registry.commands.get? (Text.lower name)).map Registration.summary).getD ""

def contains (registry : Registry η) (name : String) : Bool :=
  registry.commands.contains (Text.lower name)

def size (registry : Registry η) : Nat := registry.commands.size

def names (registry : Registry η) : List String :=
  Sorting.sort (fun a b => a ≤ b) registry.commands.keys

def summaries (registry : Registry η) : OrderedMap String String :=
  .ofList (registry.names.map fun name =>
    (name, ((registry.commands.get? name).map Registration.summary).getD ""))

end Registry

end TreeShell
