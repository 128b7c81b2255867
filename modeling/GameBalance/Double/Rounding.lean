import GameBalance.Double.Basic

namespace GameBalance.Double

def mapWhole (r : Nat → Nat → Nat) (x : Float) : Float :=
  if x.isFinite then ofMagnitude (isNegative x) (nearest (r (units x) one) 1) else x

def quotientDown (num den : Nat) : Nat :=
  num / den

def quotientUp (num den : Nat) : Nat :=
  (num + den - 1) / den

def floor (x : Float) : Float :=
  mapWhole (if isNegative x then quotientUp else quotientDown) x

def ceil (x : Float) : Float :=
  mapWhole (if isNegative x then quotientDown else quotientUp) x

def roundEven (x : Float) : Float :=
  mapWhole halfEven x

def roundAway (x : Float) : Float :=
  mapWhole halfUp x

/-- The whole part, kept within the signed 64-bit range; `0` for NaN. -/
def toInteger (x : Float) : Int :=
  if x.isNaN then 0
  else if isNegative x then max Int64.minValue.toInt (-(units x / one : Nat))
  else min Int64.maxValue.toInt (units x / one : Nat)

/-- The smaller of two, the second when they are equal; NaN counts as missing. -/
def lesser (x y : Float) : Float :=
  if y.isNaN || x < y then x else y

def greater (x y : Float) : Float :=
  if y.isNaN || y < x then x else y

end GameBalance.Double
