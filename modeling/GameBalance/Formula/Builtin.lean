import GameBalance.Double.Rounding
import GameBalance.Double.Power
import GameBalance.Text.Case

namespace GameBalance.Formula

inductive Builtin
  | floor | ceil | round | abs | sqrt | min | max | pow
  deriving DecidableEq, Repr

namespace Builtin

def all : List Builtin :=
  [.floor, .ceil, .round, .abs, .sqrt, .min, .max, .pow]

def name : Builtin → String
  | .floor => "floor"
  | .ceil => "ceil"
  | .round => "round"
  | .abs => "abs"
  | .sqrt => "sqrt"
  | .min => "min"
  | .max => "max"
  | .pow => "pow"

def lookup? (name : String) : Option Builtin :=
  all.find? fun f => Text.sameIgnoringCase f.name name

def isName (name : String) : Bool :=
  (lookup? name).isSome

/-- How many arguments are used; further ones are ignored. -/
def arity : Builtin → Nat
  | .min | .max | .pow => 2
  | _ => 1

def value : Builtin → Float → List Float → Float
  | .floor, x, _ => Double.floor x
  | .ceil, x, _ => Double.ceil x
  | .round, x, _ => Double.roundEven x
  | .abs, x, _ => x.abs
  | .sqrt, x, _ => x.sqrt
  | .min, x, y :: _ => Double.lesser x y
  | .max, x, y :: _ => Double.greater x y
  | .pow, x, y :: _ => Double.power x y
  | _, x, [] => x

end Builtin
end GameBalance.Formula
