import GameBalance.Double.Basic

namespace GameBalance.Double

def isOddWhole (x : Float) : Bool :=
  x.isFinite && units x % one = 0 && units x / one % 2 = 1

def powerOfZero (negative : Bool) (y : Float) : Float :=
  if y.isNaN then y else ofMagnitude (negative && isOddWhole y) (if y < 0 then infinity else 0)

def power (x y : Float) : Float :=
  if y == 0 then 1
  else if x == 0 then powerOfZero (isNegative x) y
  else if isNegative x then x ^ y
  else (x ^ y).abs

end GameBalance.Double
