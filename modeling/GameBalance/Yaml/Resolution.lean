import GameBalance.Decimal.Literal
import GameBalance.Text.Hex

namespace GameBalance.Yaml

def isNullWord (text : String) : Bool :=
  ["", "null", "Null", "NULL", "~"].contains text

def isTruthWord (text : String) : Bool :=
  ["true", "True", "TRUE", "false", "False", "FALSE"].contains text

def hasLeadingZero : List Char → Bool
  | '0' :: c :: cs => (c :: cs).all Char.isDigit
  | _ => false

def unsigned? : List Char → Option Nat
  | '0' :: 'x' :: ds => Text.numberIn? 16 ds
  | '0' :: 'o' :: ds => Text.numberIn? 8 ds
  | '0' :: 'b' :: ds => Text.numberIn? 2 ds
  | ds => if hasLeadingZero ds then none else Text.numberIn? 10 ds

def natural? : List Char → Option Nat
  | '+' :: cs => unsigned? cs
  | cs => unsigned? cs

def integer? : List Char → Option Int
  | '-' :: cs => (unsigned? cs).map fun n => -(n : Int)
  | cs => (natural? cs).map fun n => (n : Int)

def finite? (cs : List Char) : Option Float :=
  (Decimal.number? cs).filter Float.isFinite

def double? (cs : List Char) : Option Float :=
  match String.ofList cs with
  | ".inf" | ".Inf" | ".INF" | "+.inf" | "+.Inf" | "+.INF" =>
    some (Double.ofMagnitude false Double.infinity)
  | "-.inf" | "-.Inf" | "-.INF" => some (Double.ofMagnitude true Double.infinity)
  | ".nan" | ".NaN" | ".NAN" => some (Float.ofBits 0x7ff8000000000000)
  | _ =>
    match cs with
    | '+' :: '+' :: _ | '+' :: '-' :: _ => none
    | cs => finite? cs

def isInteger (cs : List Char) : Bool :=
  (natural? cs).any (· < 0x100000000000000000000000000000000) ||
    (integer? cs).any fun i => i < 1 && -0x80000000000000000000000000000000 ≤ i

/-- Whether a plain scalar does not stand for its text, or might not for another reader. -/
def isResolved (text : String) : Bool :=
  let cs := text.toList
  let digits := match cs with
    | '-' :: cs | '+' :: cs => cs
    | cs => cs
  isNullWord text || isTruthWord text || isInteger cs || hasLeadingZero digits ||
    (double? cs).isSome

end GameBalance.Yaml
