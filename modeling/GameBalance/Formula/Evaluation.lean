import GameBalance.Formula.Grammar

namespace GameBalance.Formula

inductive EvalError
  | divisionByZero
  | token (error : TokenError)
  | parse (error : ParseError)
  | unresolvedVariable (name : String)
  | missingArguments (function : String)
  | nonFiniteBinding (name : String) (value : Float)
  | nonFiniteResult (value : Float)

def EvalError.message : EvalError → String
  | .divisionByZero => "Division by zero"
  | .token e => e.message
  | .parse e => e.message
  | .unresolvedVariable name => "Unresolved variable: " ++ name
  | .missingArguments function => "Function '" ++ function ++ "' requires at least one argument"
  | .nonFiniteBinding name value =>
    "Variable '" ++ name ++ "' has no finite value (" ++ .ofList (Decimal.plain value) ++ ")"
  | .nonFiniteResult value =>
    "Result is not a finite number (" ++ .ofList (Decimal.plain value) ++ ")"

def BinaryOp.apply : BinaryOp → Float → Float → Except EvalError Float
  | .add, x, y => .ok (x + y)
  | .sub, x, y => .ok (x - y)
  | .mul, x, y => .ok (x * y)
  | .div, x, y => if y == 0 then .error .divisionByZero else .ok (x / y)
  | .pow, x, y => .ok (Double.power x y)

def Builtin.apply (f : Builtin) : List Float → Except EvalError Float
  | [] => .error (.missingArguments f.name)
  | x :: xs => .ok (f.value x xs)

namespace Expr

mutual

/--
The value where `env` gives the variables, the first failure from the left where there is one.
-/
def evalIn (env : String → Option Float) : Expr → Except EvalError Float
  | .number x => .ok x
  | .var name => match env name with
    | some x => .ok x
    | none => .error (.unresolvedVariable name)
  | .negate e => do
    let x ← e.evalIn env
    return -x
  | .binary op l r => do
    let x ← l.evalIn env
    let y ← r.evalIn env
    op.apply x y
  | .call f args => do
    let xs ← evalAll env args
    f.apply xs

def evalAll (env : String → Option Float) : List Expr → Except EvalError (List Float)
  | [] => .ok []
  | e :: es => do
    let x ← e.evalIn env
    let xs ← evalAll env es
    return x :: xs

end

def eval (e : Expr) : Except EvalError Float :=
  e.evalIn fun _ => none

end Expr
end GameBalance.Formula
