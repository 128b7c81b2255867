import GameBalance.Skill.Basic
import GameBalance.Stat.Preview

namespace GameBalance

inductive SkillFormula
  | damage
  | manaCost
  | cooldown
  | passiveEffect
  deriving DecidableEq, Repr

namespace SkillFormula

def all : List SkillFormula :=
  [.damage, .manaCost, .cooldown, .passiveEffect]

def label : SkillFormula → String
  | .damage => "damage"
  | .manaCost => "mana cost"
  | .cooldown => "cooldown"
  | .passiveEffect => "passive effect"

def of? : SkillFormula → Skill → Option String
  | .damage, s => s.damageFormula
  | .manaCost, s => s.manaCostFormula
  | .cooldown, s => s.cooldownFormula
  | .passiveEffect, s => s.passiveEffectFormula

end SkillFormula

structure SkillReport where
  skill : String
  results : List (SkillFormula × Formula.Verdict)

def SkillReport.isValid (r : SkillReport) : Bool :=
  r.results.all (·.2.isValid)

namespace Skill

def formulaNames : List String :=
  ["Level", "SkillRank", "BaseValue"]

def values (stats : List Stat) (level rank : UInt32) : Formula.Bindings :=
  ((Stat.previews stats level).set "SkillRank" (Double.ofUInt32 rank)).set "BaseValue" 0

def report (s : Skill) (stats : List Stat) (level rank : UInt32) : SkillReport :=
  let known := stats.map Stat.name ++ formulaNames
  let values := values stats level rank
  { skill := s.name
    results := SkillFormula.all.map fun kind =>
      (kind, (kind.of? s).elim (.valid none) fun formula =>
        Formula.validate formula known (some values)) }

end Skill
end GameBalance
