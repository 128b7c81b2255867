import GameBalance.Decimal.Shortest
import GameBalance.Double.Rounding

namespace GameBalance.Decimal

-- Powers are those of the core library, also where an import has another instance for them.
attribute [local instance (high)] instPowNat

def zeros (n : Nat) : List Char :=
  List.replicate n '0'

def positional (d : Decimal) : List Char :=
  let ds := digitsOf d.digits
  if 0 ≤ d.exponent then ds ++ zeros d.exponent.toNat
  else
    let places := (-d.exponent).toNat
    if places < ds.length then ds.take (ds.length - places) ++ '.' :: ds.drop (ds.length - places)
    else '0' :: '.' :: zeros (places - ds.length) ++ ds

def signed (negative : Bool) (cs : List Char) : List Char :=
  if negative then '-' :: cs else cs

/--
The text of a double in messages and prepared formulas.
Of two equally near, the larger one is written.
-/
def plain (x : Float) : List Char :=
  if x.isNaN then "NaN".toList
  else signed (Double.isNegative x) <|
    if x.isInf then "inf".toList
    else if Double.magnitude x = 0 then ['0']
    else (shortest Double.halfUp (Double.magnitude x)).positional

def places (n : Nat) (x : Float) : List Char :=
  let ds := digitsOf (Double.halfEven (Double.units x * 10 ^ n) Double.one)
  let padded := zeros (n + 1 - ds.length) ++ ds
  let cut := padded.length - n
  signed (Double.isNegative x) (padded.take cut ++ '.' :: padded.drop cut)

def dropTrailing (c : Char) (cs : List Char) : List Char :=
  (cs.reverse.dropWhile (· == c)).reverse

/--
A number as reports show it: rounded to millionths,
without zeros at its end and without a negative zero.
-/
def brief (x : Float) : List Char :=
  if x.isFinite then
    let rounded := Double.roundAway (x * 1e6) / 1e6
    if rounded.isFinite then
      let text := dropTrailing '.' (dropTrailing '0' (places 6 rounded))
      if text = ['-', '0'] then ['0'] else text
    else plain rounded
  else plain x

end GameBalance.Decimal
