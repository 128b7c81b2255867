import GameBalance.Json.Number
import GameBalance.Rules.Encoding

namespace GameBalance.Json

namespace Value

def isNull : Value → Bool
  | .null => true
  | _ => false

def text? : Value → Option String
  | .string s => s
  | _ => none

/-- A word is a string, or the key of an object with nothing more in it than a null. -/
def word? : Value → Option String
  | .string s => s
  | .object [(key, .null)] => key
  | _ => none

def int? : Value → Option Int
  | .number n => integer? n
  | _ => none

def nat? (v : Value) : Option Nat :=
  v.int?.bind Int.toNat?

def float? : Value → Option Float
  | .number n => double? n
  | _ => none

def items? : Value → Option (List Value)
  | .array items => some items
  | _ => none

def members? (fields : List String) : Value → Option (List (String × Value))
  | .object members =>
    (members.mapM fun (m : Option String × Value) => m.1.map (·, m.2)).bind (knownMembers? fields)
  | .array items => if items.length ≤ fields.length then some (fields.zip items) else none
  | _ => none

def ofMembers (members : List (String × Value)) : Value :=
  .object (members.map fun (key, v) => (some key, v))

end Value

def encoding : Encoding Value where
  isNull := Value.isNull
  text? := Value.text?
  word? := Value.word?
  nat? := Value.nat?
  int? := Value.int?
  float? := Value.float?
  items? := Value.items?
  members? := Value.members?
  null := .null
  ofText := Value.ofString
  ofInt := Value.ofInt
  ofFloat := Value.ofFloat
  ofItems := .array
  ofMembers := Value.ofMembers

end GameBalance.Json
