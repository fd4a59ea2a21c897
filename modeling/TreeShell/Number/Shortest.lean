import TreeShell.Number.Binary64

namespace TreeShell.Binary64

structure Decimal where
  digits : Nat
  exponent : Int
  deriving DecidableEq, Repr

def floorLog10 (num den : Nat) : Int :=
  if den ≤ num then (Nat.toDigits 10 (num / den)).length - 1
  else
    let places := (Nat.toDigits 10 (den / num)).length
    if den ≤ num * Nat.pow 10 (places - 1) then -(places - 1 : Int) else -(places : Int)

def scaledTen (num den : Nat) (exponent : Int) : Nat × Nat :=
  if 0 ≤ exponent then (num, den * Nat.pow 10 exponent.toNat)
  else (num * Nat.pow 10 (-exponent).toNat, den)

/-- Four times the ends of the interval that rounds to a number, in units of its exponent. Below a
    power of two the neighbour is only half as far away. -/
def roundingEnds (mantissa : Nat) (exponent : Int) : Nat × Nat :=
  let below := if mantissa = Nat.pow 2 (precision - 1) ∧ minExponent < exponent then 1 else 2
  (4 * mantissa - below, 4 * mantissa + 2)

/-- Whether a decimal rounds to a number; a tie belongs to the even mantissa. -/
def roundsTo (mantissa : Nat) (exponent : Int) (decimal : Decimal) : Bool :=
  let (low, high) := roundingEnds mantissa exponent
  let (unit, den) := ratio 1 exponent
  let (n, d) := scaledTen (4 * decimal.digits * den) unit (-decimal.exponent)
  if mantissa % 2 = 0 then low * d ≤ n && n ≤ high * d else low * d < n && n < high * d

def nearestOf (mantissa : Nat) (exponent : Int) (count : Nat) : Option Decimal :=
  let (num, den) := ratio mantissa exponent
  let place : Int := floorLog10 num den - (count - 1)
  let (n, d) := scaledTen num den place
  let below : Decimal := ⟨n / d, place⟩
  let above : Decimal := ⟨n / d + 1, place⟩
  let rest := 2 * (n % d)
  let belowIsNearer := rest < d || (rest = d && n / d % 2 = 0)
  match roundsTo mantissa exponent below, roundsTo mantissa exponent above with
  | true, true => some (if belowIsNearer then below else above)
  | true, false => some below
  | false, true => some above
  | false, false => none

def mostDigits : Nat := 17

def shortest (mantissa : Nat) (exponent : Int) : Decimal :=
  (((List.range mostDigits).map (· + 1)).findSome? (nearestOf mantissa exponent)).getD ⟨0, 0⟩

def written (digits : List Char) (point : Int) : List Char :=
  if point ≤ 0 then '0' :: '.' :: List.replicate (-point).toNat '0' ++ digits
  else
    let whole := digits.take point.toNat
    let filled := whole ++ List.replicate (point.toNat - whole.length) '0'
    let rest := digits.drop point.toNat
    filled ++ '.' :: (if rest = [] then ['0'] else rest)

def scientific (digits : List Char) (exponent : Int) : List Char :=
  let point := if digits.length ≤ 1 then [] else '.' :: digits.drop 1
  let sign := if exponent < 0 then '-' else '+'
  let size := Nat.toDigits 10 exponent.natAbs
  let size := if size.length < 2 then '0' :: size else size
  digits.take 1 ++ point ++ 'e' :: sign :: size

def Decimal.text (decimal : Decimal) : List Char :=
  let digits := Nat.toDigits 10 decimal.digits
  let exponent : Int := decimal.exponent + digits.length - 1
  let bare := (digits.reverse.dropWhile (· = '0')).reverse
  if -4 ≤ exponent ∧ exponent < 16 then written bare (exponent + 1) else scientific bare exponent

def text : Binary64 → String
  | finite negative mantissa exponent =>
    let magnitude :=
      if mantissa = 0 then ['0', '.', '0'] else (shortest mantissa exponent).text
    String.ofList (if negative then '-' :: magnitude else magnitude)
  | infinite negative => if negative then "-inf" else "inf"
  | nan => "nan"

end TreeShell.Binary64
