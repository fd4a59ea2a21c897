namespace TreeShell

inductive Binary64
  /-- The number `mantissa * 2 ^ exponent`, or its negative. -/
  | finite (negative : Bool) (mantissa : Nat) (exponent : Int)
  | infinite (negative : Bool)
  | nan
  deriving DecidableEq, Repr

namespace Binary64

def precision : Nat := 53

def minExponent : Int := -1074

def maxExponent : Int := 971

def zero : Binary64 := finite false 0 minExponent

def roundDiv (num den : Nat) : Nat :=
  let quotient := num / den
  let rest := 2 * (num % den)
  if rest < den then quotient
  else if den < rest then quotient + 1
  else quotient + quotient % 2

def scaled (num den : Nat) (exponent : Int) : Nat × Nat :=
  if 0 ≤ exponent then (num, den * Nat.pow 2 exponent.toNat)
  else (num * Nat.pow 2 (-exponent).toNat, den)

/-- The exponent at which a positive quotient has a mantissa of full precision, or the least one. -/
def fitExponent (num den : Nat) : Int :=
  let guess : Int := (num.log2 : Int) - den.log2 - (precision - 1)
  let (n, d) := scaled num den guess
  max minExponent (if n / d < Nat.pow 2 (precision - 1) then guess - 1 else guess)

def ofRatio (negative : Bool) (num den : Nat) : Binary64 :=
  if num = 0 then finite negative 0 minExponent
  else
    let exponent := fitExponent num den
    let (n, d) := scaled num den exponent
    let mantissa := roundDiv n d
    let (mantissa, exponent) :=
      if mantissa = Nat.pow 2 precision then (Nat.pow 2 (precision - 1), exponent + 1)
      else (mantissa, exponent)
    if maxExponent < exponent then infinite negative else finite negative mantissa exponent

def ratio (mantissa : Nat) (exponent : Int) : Nat × Nat :=
  if 0 ≤ exponent then (mantissa * Nat.pow 2 exponent.toNat, 1)
  else (mantissa, Nat.pow 2 (-exponent).toNat)

def ofScaled (negative : Bool) (mantissa : Nat) (exponent : Int) : Binary64 :=
  let (num, den) := ratio mantissa exponent
  ofRatio negative num den

def ofInt? (value : Int) : Option Binary64 :=
  match ofRatio (value < 0) value.natAbs 1 with
  | finite negative mantissa exponent => some (finite negative mantissa exponent)
  | _ => none

def isZero : Binary64 → Bool
  | finite _ 0 _ => true
  | _ => false

def isFinite : Binary64 → Bool
  | finite .. => true
  | _ => false

def mul : Binary64 → Binary64 → Binary64
  | finite s m e, finite t n f => ofScaled (s != t) (m * n) (e + f)
  | infinite s, finite t n _ => if n = 0 then nan else infinite (s != t)
  | finite s m _, infinite t => if m = 0 then nan else infinite (s != t)
  | infinite s, infinite t => infinite (s != t)
  | _, _ => nan

def twoPow (exponent : Int) : Binary64 :=
  if exponent < minExponent - 1 then zero else ofScaled false 1 exponent

def signedRatio (negative : Bool) (mantissa : Nat) (exponent : Int) : Int × Nat :=
  let (num, den) := ratio mantissa exponent
  (if negative then -(num : Int) else num, den)

def lt : Binary64 → Binary64 → Bool
  | finite s m e, finite t n f =>
    let (num₁, den₁) := signedRatio s m e
    let (num₂, den₂) := signedRatio t n f
    num₁ * den₂ < num₂ * den₁
  | infinite s, infinite t => s && !t
  | infinite s, finite .. => s
  | finite .., infinite t => !t
  | _, _ => false

/-- The number nearest to `digits * 10 ^ exponent` with a sign. Numbers that are far out of range
    are settled by the count of their digits. -/
def ofDecimal (negative : Bool) (digits : Nat) (exponent : Int) : Binary64 :=
  let size : Int := (Nat.toDigits 10 digits).length + exponent
  if digits = 0 ∨ size < -400 then finite negative 0 minExponent
  else if 400 < size then infinite negative
  else if 0 ≤ exponent then ofRatio negative (digits * Nat.pow 10 exponent.toNat) 1
  else ofRatio negative digits (Nat.pow 10 (-exponent).toNat)

end Binary64

end TreeShell
