import TreeShell.Number.Basic

namespace TreeShell.Client.Backoff

def defaultBase : Number := .real (.ofRatio false 1 2)

def limit : Binary64 := .ofRatio false 30 1

structure Overflow where
  deriving DecidableEq, Repr

def Overflow.message (_ : Overflow) : String := "int too large to convert to float"

def float (value : Int) : Except Overflow Binary64 :=
  match Binary64.ofInt? value with
  | some value => .ok value
  | none => .error {}

def ofNumber : Number → Except Overflow Binary64
  | .integer value => float value
  | .real value => .ok value

def scaled (base : Number) (attempt : Int) : Except Overflow Number :=
  if 0 ≤ attempt then
    let doubling : Int := Nat.pow 2 attempt.toNat
    match base with
    | .integer base => .ok (.integer (base * doubling))
    | .real base => (float doubling).map fun doubling => .real (base.mul doubling)
  else (ofNumber base).map fun base => .real (base.mul (.twoPow attempt))

def exceeds : Number → Bool
  | .integer value => 30 < value
  | .real value => limit.lt value

def delay (base : Number) (attempt : Int) : Except Overflow Number :=
  (scaled base attempt).map fun delay => if exceeds delay then .real limit else delay

end TreeShell.Client.Backoff
