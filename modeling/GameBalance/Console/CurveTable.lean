import GameBalance.Console.Command
import GameBalance.Console.Outcome
import GameBalance.Curve.Table

namespace GameBalance.Console

def CurveChange.apply (change : CurveChange) (c : Curve) : Curve where
  kind := change.kind.getD (if change.formula.isSome then .custom else c.kind)
  baseXp := change.baseXp.getD c.baseXp
  linearMultiplier := change.multiplier.getD c.linearMultiplier
  exponentialBase := change.expBase.getD c.exponentialBase
  formula := change.formula.getD c.formula

def curveLines (c : Curve) (level : UInt32) : List String :=
  match c.kind with
  | .linear => ["   Linear: " ++ shown c.baseXp ++ " + (Level - 1) * " ++ shown c.linearMultiplier]
  | .exponential =>
    ["   Exponential: " ++ shown c.baseXp ++ " * " ++ shown c.exponentialBase ++ "^(Level - 1)"]
  | .custom =>
    ("   Formula: " ++ c.formula) ::
      ((c.verdict level).message?.map fun message =>
        "   ⚠️ " ++ message ++ " (falling back to Level * 100)").toList

def integer (i : Int) : String :=
  .ofList ((Numeral.ofInt i).text [])

def columns (level xp total : String) : String :=
  "   " ++ padded 5 level ++ "  " ++ padded 14 xp ++ "  " ++ padded 16 total

def rowLine (row : Curve.Row) : String :=
  columns (integer row.level.toNat) (integer row.xp) (integer row.total)

def tableLines (file : Option String) (c : Curve) (level maxLevel : UInt32) : List String :=
  "📈 Statforge - XP Curve" :: (file.map ("   File: " ++ ·)).toList ++ curveLines c level ++
    ["", columns "Level" "XP Required" "Total XP", "   " ++ .ofList (List.replicate 39 '─')] ++
    (c.table maxLevel).map rowLine

def curve (files : Files) (file : Option String) (change : CurveChange) (maxLevel : UInt32) :
    Outcome :=
  match file.elim (.ok .empty) fun path => readRules files path none with
  | .error f => .fail [] f
  | .ok rules => .success (tableLines file (change.apply rules.curve) rules.previewLevel maxLevel)

end GameBalance.Console
