/-!
Doubles as whole multiples of the least positive one. The magnitude of a double
is its bit pattern without the sign; magnitudes are ordered as the values they
stand for, `units` gives the value in steps of `2 ^ -1074`, and `nearest` goes
back from a quotient of natural numbers, a tie to the even neighbour.
-/

namespace GameBalance.Double

-- Powers are those of the core library, also where an import has another instance for them.
attribute [local instance (high)] instPowNat

/-- The least positive double is this many binary places after the point. -/
def binaryPlaces : Nat := 1074

def one : Nat := 2 ^ binaryPlaces

def infinity : Nat := 0x7ff * 2 ^ (52 : Nat)

def isNegative (x : Float) : Bool :=
  2 ^ (63 : Nat) ≤ x.toBits.toNat

def magnitude (x : Float) : Nat :=
  x.toBits.toNat % 2 ^ (63 : Nat)

def ofMagnitude (negative : Bool) (m : Nat) : Float :=
  .ofBits (.ofNat (if negative then 2 ^ (63 : Nat) + m else m))

/-- The value of a magnitude, in units. -/
def unitsOf (m : Nat) : Nat :=
  if m < 2 ^ (52 : Nat) then m
  else (2 ^ (52 : Nat) + m % 2 ^ (52 : Nat)) * 2 ^ (m / 2 ^ (52 : Nat) - 1)

def units (x : Float) : Nat :=
  unitsOf (magnitude x)

/-- The natural number nearest to `num / den`, a tie to the even one. -/
def halfEven (num den : Nat) : Nat :=
  let q := num / den
  let r := num % den
  if 2 * r < den then q else if den < 2 * r then q + 1 else q + q % 2

def halfUp (num den : Nat) : Nat :=
  (2 * num + den) / (2 * den)

/-- The magnitude of the double nearest to `num / den`, infinite beyond the largest one. -/
def nearest (num den : Nat) : Nat :=
  let n := num * one
  let place := (n / den).log2 - 52
  min infinity (place * 2 ^ (52 : Nat) + halfEven n (den * 2 ^ place))

def ofInt (i : Int) : Float :=
  ofMagnitude (i < 0) (nearest i.natAbs 1)

def ofUInt32 (n : UInt32) : Float :=
  ofInt n.toNat

def ofInt32 (n : Int32) : Float :=
  ofInt n.toInt

end GameBalance.Double
