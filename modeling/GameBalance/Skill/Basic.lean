namespace GameBalance

inductive SkillType
  | active
  | passive
  deriving DecidableEq, Repr

structure Skill where
  name : String
  description : String
  skillType : SkillType
  maxRank : UInt32
  requiredLevel : UInt32
  requiredClass : Option String
  damageFormula : Option String
  manaCostFormula : Option String
  cooldownFormula : Option String
  passiveEffectFormula : Option String
  deriving DecidableEq, Repr

namespace Skill

def ofType (name : String) (skillType : SkillType) : Skill :=
  ⟨name, "", skillType, 5, 1, none, none, none, none, none⟩

def newActive (name : String) : Skill :=
  { ofType name .active with
    description := "New active skill"
    maxRank := 10
    damageFormula := some "INT * 2 + SkillRank * 5"
    manaCostFormula := some "20 + SkillRank * 2"
    cooldownFormula := some "Max(1, 5 - SkillRank * 0.5)" }

def newPassive (name : String) : Skill :=
  { ofType name .passive with
    description := "New passive skill"
    passiveEffectFormula := some "Level * SkillRank * 0.5" }

def copy (s : Skill) : Skill :=
  { s with name := s.name ++ "_Copy" }

end Skill
end GameBalance
