import GameBalance.Decimal.Basic

namespace GameBalance.Decimal

def split? (cs : List Char) : Option (List Char × List Char) :=
  let whole := cs.takeWhile Char.isDigit
  match cs.dropWhile Char.isDigit with
  | [] => if whole.isEmpty then none else some (whole, [])
  | c :: fraction =>
    if c = '.' ∧ fraction.all Char.isDigit ∧ ¬(whole.isEmpty ∧ fraction.isEmpty) then
      some (whole, fraction)
    else none

def numeral? (cs : List Char) : Option Float :=
  (split? cs).map fun (whole, fraction) => (ofDigits whole fraction 0).toFloat false

def integer? (cs : List Char) : Option Int :=
  let natural (ds : List Char) : Option Nat :=
    if ds.isEmpty ∨ ¬ds.all Char.isDigit then none else some (valueOf ds)
  match cs with
  | '-' :: ds => (natural ds).map fun n => -(n : Int)
  | '+' :: ds => (natural ds).map fun n => (n : Int)
  | ds => (natural ds).map fun n => (n : Int)

def isExponentMark (c : Char) : Bool :=
  c = 'e' || c = 'E'

def scientific? (cs : List Char) : Option Decimal :=
  let mantissa := cs.takeWhile (!isExponentMark ·)
  (split? mantissa).bind fun (whole, fraction) =>
    match cs.dropWhile (!isExponentMark ·) with
    | [] => some (ofDigits whole fraction 0)
    | _ :: exponent => (integer? exponent).map (ofDigits whole fraction)

def unsigned? (negative : Bool) (cs : List Char) : Option Float :=
  match String.ofList (cs.map Char.toLower) with
  | "inf" | "infinity" => some (Double.ofMagnitude negative Double.infinity)
  | "nan" => some (Float.ofBits 0x7ff8000000000000)
  | _ => (scientific? cs).map (toFloat negative)

def number? : List Char → Option Float
  | '-' :: cs => unsigned? true cs
  | '+' :: cs => unsigned? false cs
  | cs => unsigned? false cs

end GameBalance.Decimal
