import GameBalance.Decimal.Text

namespace GameBalance

structure Numeral where
  negative : Bool
  whole : List Char
  fraction : List Char
  exponent : Option Int
  deriving DecidableEq, Repr

namespace Numeral

def text (plus : List Char) (n : Numeral) : List Char :=
  let point := if n.fraction.isEmpty then [] else '.' :: n.fraction
  let exponent := match n.exponent with
    | none => []
    | some e =>
      'e' :: if e < 0 then '-' :: Decimal.digitsOf e.natAbs else plus ++ Decimal.digitsOf e.natAbs
  Decimal.signed n.negative (n.whole ++ point ++ exponent)

def ofInt (i : Int) : Numeral :=
  ⟨i < 0, Decimal.digitsOf i.natAbs, [], none⟩

def decimal (n : Numeral) : Decimal :=
  .ofDigits n.whole n.fraction (n.exponent.getD 0)

def isWhole (n : Numeral) : Bool :=
  n.fraction.isEmpty && n.exponent.isNone

/--
The shortest numeral of a finite double: positional with at least one place, or with one digit
before the point and an exponent from `10 ^ 16` upward and below `10 ^ -5`. Of two equally near, the
one with an even last digit is taken.
-/
def ofFloat (x : Float) : Numeral :=
  let negative := Double.isNegative x
  if Double.magnitude x = 0 then ⟨negative, ['0'], ['0'], none⟩
  else
    let d := Decimal.shortest Double.halfEven (Double.magnitude x)
    let ds := Decimal.digitsOf d.digits
    let point := d.exponent + ds.length
    if point ≤ -5 ∨ 16 < point then ⟨negative, ds.take 1, ds.drop 1, some (point - 1)⟩
    else if point ≤ 0 then ⟨negative, ['0'], Decimal.zeros (-point).toNat ++ ds, none⟩
    else if 0 ≤ d.exponent then ⟨negative, ds ++ Decimal.zeros d.exponent.toNat, ['0'], none⟩
    else ⟨negative, ds.take point.toNat, ds.drop point.toNat, none⟩

end Numeral
end GameBalance
