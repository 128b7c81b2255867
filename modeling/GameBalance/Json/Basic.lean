import GameBalance.Decimal.Numeral

namespace GameBalance.Json

/-- A string that holds half of a surrogate pair has no text. -/
inductive Value
  | null
  | bool (b : Bool)
  | number (n : Numeral)
  | string (text : Option String)
  | array (items : List Value)
  | object (members : List (Option String × Value))

def Value.ofString (s : String) : Value :=
  .string (some s)

def Value.ofOption {α : Type} (f : α → Value) : Option α → Value
  | none => .null
  | some x => f x

def Value.ofFloat (x : Float) : Value :=
  if x.isFinite then .number (.ofFloat x) else .null

def Value.ofInt (i : Int) : Value :=
  .number (.ofInt i)

end GameBalance.Json
