import GameBalance.Formula.Builtin

namespace GameBalance.Formula

inductive BinaryOp
  | add | sub | mul | div | pow
  deriving DecidableEq, Repr

inductive Expr
  | number (value : Float)
  | var (name : String)
  | negate (operand : Expr)
  | binary (op : BinaryOp) (left right : Expr)
  | call (function : Builtin) (args : List Expr)

namespace Expr

mutual

def height : Expr → Nat
  | .number _ => 0
  | .var _ => 0
  | .negate e => e.height + 1
  | .binary _ l r => max l.height r.height + 1
  | .call _ args => heightAll args + 1

def heightAll : List Expr → Nat
  | [] => 0
  | e :: es => max e.height (heightAll es)

end

mutual

def vars : Expr → List String
  | .number _ => []
  | .var n => [n]
  | .negate e => e.vars
  | .binary _ l r => l.vars ++ r.vars
  | .call _ args => varsAll args

def varsAll : List Expr → List String
  | [] => []
  | e :: es => e.vars ++ varsAll es

end

mutual

def calls : Expr → List Builtin
  | .number _ => []
  | .var _ => []
  | .negate e => e.calls
  | .binary _ l r => l.calls ++ r.calls
  | .call f args => f :: callsAll args

def callsAll : List Expr → List Builtin
  | [] => []
  | e :: es => e.calls ++ callsAll es

end

end Expr
end GameBalance.Formula
