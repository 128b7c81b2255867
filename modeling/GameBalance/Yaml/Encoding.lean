import GameBalance.Rules.Encoding
import GameBalance.Decimal.Numeral
import GameBalance.Yaml.Resolution
import GameBalance.Yaml.Writer

namespace GameBalance.Yaml

namespace Node

def isNull : Node → Bool
  | .scalar true text => isNullWord text
  | _ => false

def text? : Node → Option String
  | .scalar _ text => some text
  | _ => none

def plain? : Node → Option (List Char)
  | .scalar true text => some text.toList
  | _ => none

def isMissing (n : Node) : Bool :=
  n.plain? = some []

def items? (n : Node) : Option (List Node) :=
  match n with
  | .sequence items => some items
  | n => if n.isMissing then some [] else none

def members? (fields : List String) (n : Node) : Option (List (String × Node)) :=
  match n with
  | .mapping entries =>
    (entries.mapM fun (entry : Node × Node) => entry.1.text?.map (·, entry.2)).bind
      (knownMembers? fields)
  | n => if n.isMissing then some [] else none

def ofText (s : String) : Node :=
  .scalar (canBePlain s.toList && !isResolved s) s

def ofFloat (x : Float) : Node :=
  .scalar true <|
    if x.isNaN then ".nan"
    else if x.isInf then if x < 0 then "-.inf" else ".inf"
    else .ofList ((Numeral.ofFloat x).text [])

def ofMembers (members : List (String × Node)) : Node :=
  .mapping (members.map fun (name, v) => (ofText name, v))

end Node

def encoding : Encoding Node where
  isNull := Node.isNull
  text? := Node.text?
  word? := Node.text?
  nat? n := n.plain?.bind natural?
  int? n := n.plain?.bind integer?
  float? n := n.plain?.bind double?
  items? := Node.items?
  members? := Node.members?
  null := .scalar true "null"
  ofText := Node.ofText
  ofInt i := .scalar true (.ofList ((Numeral.ofInt i).text []))
  ofFloat := Node.ofFloat
  ofItems := .sequence
  ofMembers := Node.ofMembers

end GameBalance.Yaml
