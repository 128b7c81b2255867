import GameBalance.Decimal.Literal
import GameBalance.Text.Blank
import GameBalance.Text.Split

namespace GameBalance.Formula

inductive AssignmentError
  | noEquals (text : String)
  | noName (text : String)
  | notNumber (value : String)
  deriving DecidableEq, Repr

def AssignmentError.message : AssignmentError → String
  | .noEquals text => "expected NAME=VALUE, got '" ++ text ++ "'"
  | .noName text => "missing variable name in '" ++ text ++ "'"
  | .notNumber value => "'" ++ value ++ "' is not a number"

def readAssignment (text : String) : Except AssignmentError (String × Float) :=
  match Text.cut? '=' text.toList with
  | none => .error (.noEquals text)
  | some (name, value) =>
    let name := Text.trimmed name
    let value := Text.trimmed value
    if name.isEmpty then .error (.noName text)
    else match Decimal.number? value with
      | none => .error (.notNumber (.ofList value))
      | some x => .ok (.ofList name, x)

end GameBalance.Formula
