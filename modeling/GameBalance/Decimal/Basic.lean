import GameBalance.Double.Basic

namespace GameBalance

structure Decimal where
  digits : Nat
  exponent : Int
  deriving DecidableEq, Repr

namespace Decimal

-- Powers are those of the core library, also where an import has another instance for them.
attribute [local instance (high)] instPowNat

/--
The magnitude of the nearest double. Exponents far beyond the range of doubles are settled at once.
-/
def magnitude (d : Decimal) : Nat :=
  if d.digits = 0 then 0
  else if 400 < d.exponent then Double.infinity
  else if d.exponent + d.digits.log2 < -400 then 0
  else if 0 ≤ d.exponent then Double.nearest (d.digits * 10 ^ d.exponent.toNat) 1
  else Double.nearest d.digits (10 ^ (-d.exponent).toNat)

def toFloat (negative : Bool) (d : Decimal) : Float :=
  Double.ofMagnitude negative d.magnitude

def digitValue (c : Char) : Nat :=
  c.toNat - '0'.toNat

def valueOf (ds : List Char) : Nat :=
  ds.foldl (fun n c => 10 * n + digitValue c) 0

def digitsOf (n : Nat) : List Char :=
  Nat.toDigits 10 n

def ofDigits (whole fraction : List Char) (exponent : Int) : Decimal :=
  ⟨valueOf (whole ++ fraction), exponent - fraction.length⟩

end Decimal
end GameBalance
