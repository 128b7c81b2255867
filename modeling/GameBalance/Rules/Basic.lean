import GameBalance.Curve.Basic
import GameBalance.Skill.Basic
import GameBalance.Stat.Basic

namespace GameBalance

structure LevelUp where
  statPoints : UInt32
  skillPoints : UInt32
  bonusRule : String
  deriving DecidableEq, Repr

def LevelUp.standard : LevelUp :=
  ⟨5, 1, ""⟩

/-- Samples are taken at `previewLevel`, those of skills at `previewRank`. -/
structure Rules where
  stats : List Stat
  skills : List Skill
  curve : Curve
  levelUp : LevelUp
  previewLevel : UInt32
  previewRank : UInt32
  deriving BEq

namespace Rules

def empty : Rules :=
  ⟨[], [], .standard, .standard, 10, 1⟩

def stat? (r : Rules) (name : String) : Option Stat :=
  r.stats.find? fun s => Text.sameIgnoringCase s.name name

end Rules
end GameBalance
