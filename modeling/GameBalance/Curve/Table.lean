import GameBalance.Curve.Basic
import GameBalance.Formula.Verdict

namespace GameBalance

def xpLeast : Int :=
  Int64.minValue.toInt

def xpMost : Int :=
  Int64.maxValue.toInt

def clampXp (xp : Int) : Int :=
  max xpLeast (min xpMost xp)

namespace Curve

def formulaNames : List String :=
  ["Level", "BaseXP"]

def values (c : Curve) (level : UInt32) : Formula.Bindings :=
  Formula.Bindings.ofList [("Level", Double.ofUInt32 level), ("BaseXP", c.baseXp)]

def customXp (c : Curve) (level : UInt32) : Except Formula.EvalError Int := do
  let x ← Formula.evaluate c.formula (c.values level)
  if x.isFinite then return Double.toInteger x else throw (.nonFiniteResult x)

def fallbackXp (level : UInt32) : Int :=
  level.toNat * 100

def xpAt (c : Curve) (level : UInt32) : Int :=
  let steps := Double.ofUInt32 level - 1
  match c.kind with
  | .linear => Double.toInteger (c.baseXp + steps * c.linearMultiplier)
  | .exponential => Double.toInteger (c.baseXp * Double.power c.exponentialBase steps)
  | .custom => match c.customXp level with
    | .ok xp => xp
    | .error _ => fallbackXp level

structure Row where
  level : UInt32
  xp : Int
  total : Int
  deriving DecidableEq, Repr

/-- The rows of `count` levels that begin with `level`, where `total` has been spent before. -/
def rowsFrom (c : Curve) (level : UInt32) (total : Int) : (count : Nat) → List Row
  | 0 => []
  | count + 1 =>
    let xp := c.xpAt level
    let total := clampXp (total + xp)
    ⟨level, xp, total⟩ :: rowsFrom c (level + 1) total count

def table (c : Curve) (maxLevel : UInt32) : List Row :=
  c.rowsFrom 1 0 maxLevel.toNat

def verdict (c : Curve) (level : UInt32) : Formula.Verdict :=
  match c.kind with
  | .custom => Formula.validate c.formula formulaNames (some (c.values level))
  | _ => .valid none

end Curve
end GameBalance
