import TreeShell.Environment.Moment
import TreeShell.Environment.Twister

namespace TreeShell

/-- What a clock will answer, question by question. -/
def Clock : Type := Nat → Moment

namespace Clock

def now (clock : Clock) : Moment := clock 0

def later (clock : Clock) : Clock := fun question => clock (question + 1)

def still (moment : Moment) : Clock := fun _ => moment

end Clock

structure Environment where
  username : String
  seed : Option Int
  clock : Clock

namespace Environment

def defaultUsername : String := "user"

/-- The random source of a session: the seed's own, or `fresh` where there is no seed. -/
def source (environment : Environment) (fresh : Twister) : Twister :=
  match environment.seed with
  | some seed => .ofSeed seed
  | none => fresh

end Environment

end TreeShell
