import GameBalance.Json.Basic

/-!
Numbers of JSON. A whole numeral is read exactly. For a double, digits are taken into a significand
as long as it stays below `2 ^ 64`, and the significand's double is scaled by one power of ten,
which can leave the result a unit away from the nearest double.
-/

namespace GameBalance.Json

/-- `-0` is no whole number but a double. -/
def integer? (n : Numeral) : Option Int :=
  if n.isWhole ∧ ¬(n.negative ∧ Decimal.valueOf n.whole = 0) then
    some (if n.negative then -(Decimal.valueOf n.whole : Int) else Decimal.valueOf n.whole)
  else none

def takeDigits (significand : Nat) : List Char → Nat × List Char
  | [] => (significand, [])
  | c :: cs =>
    let next := 10 * significand + Decimal.digitValue c
    if next < UInt64.size then takeDigits next cs else (significand, c :: cs)

/--
The significand and the exponent of a numeral. Digits of the whole part that do not fit count as
zeros; those of the fraction are dropped.
-/
def significand (n : Numeral) : Nat × Int :=
  let (whole, left) := takeDigits 0 n.whole
  let (m, dropped) := takeDigits whole n.fraction
  (m, n.exponent.getD 0 + left.length - (n.fraction.length - dropped.length))

def tenTo (n : Nat) : Float :=
  Decimal.toFloat false ⟨1, n⟩

def scaleDown (x : Float) (n : Nat) : Float :=
  if n ≤ 308 then x / tenTo n
  else if x == 0 then x
  else scaleDown (x / tenTo 308) (n - 308)
termination_by n

def scale? (x : Float) (exponent : Int) : Option Float :=
  if exponent < 0 then some (scaleDown x exponent.natAbs)
  else if exponent ≤ 308 then
    let y := x * tenTo exponent.natAbs
    if y.isInf then none else some y
  else if x == 0 then some x
  else none

def double? (n : Numeral) : Option Float :=
  let (m, exponent) := significand n
  (scale? (Double.ofInt m) exponent).map fun x => if n.negative then -x else x

end GameBalance.Json
