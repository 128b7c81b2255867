import GameBalance.Text.Case

namespace GameBalance

inductive CurveKind
  | linear
  | exponential
  | custom
  deriving DecidableEq, Repr

def CurveKind.ofName? (name : String) : Option CurveKind :=
  match Text.lowerAscii name with
  | "linear" => some .linear
  | "exponential" | "exp" => some .exponential
  | "custom" | "customformula" | "custom_formula" | "formula" => some .custom
  | _ => none

def CurveKind.unknownMessage (name : String) : String :=
  "unknown curve kind '" ++ Text.lowerAscii name ++ "' (expected linear, exponential or custom)"

/-- The formula counts for a custom curve only. -/
structure Curve where
  kind : CurveKind
  baseXp : Float
  linearMultiplier : Float
  exponentialBase : Float
  formula : String
  deriving BEq

def Curve.standard : Curve :=
  ⟨.exponential, 100, 100, 1.15, "Level * 100"⟩

end GameBalance
