import TreeShell.Proofs.Client.Calls
import TreeShell.Proofs.Service.Browsing

namespace TreeShell.Client

variable {settings : Settings}

/-- A client is told that nothing was found at a path. -/
def Misses {α : Type} (result : Except Error α) (path message : String) : Prop :=
  ∃ rejection, result = .error (.failure (.rejected rejection)) ∧ rejection.kind = .notFound ∧
    rejection.kind.status = 404 ∧ rejection.path = .string path ∧
      rejection.message = .string message

theorem Misses.bind {α β : Type} {result : Except Error α} {path message : String}
    (misses : Misses result path message) (next : α → Except Error β) :
    Misses (result.bind next) path message := by
  obtain ⟨rejection, rfl, rest⟩ := misses
  exact ⟨rejection, rfl, rest⟩

end TreeShell.Client
