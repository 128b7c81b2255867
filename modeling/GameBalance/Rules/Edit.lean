import GameBalance.Rules.Basic

namespace GameBalance.Rules

def addStats (r : Rules) (stats : List Stat) : Rules :=
  { r with stats := r.stats ++ stats }

def addSkills (r : Rules) (skills : List Skill) : Rules :=
  { r with skills := r.skills ++ skills }

def copyStat? (r : Rules) (name : String) : Option Rules :=
  (r.stat? name).map fun s => r.addStats [s.copy]

def removeStat? (r : Rules) (name : String) : Option Rules :=
  (r.stat? name).map fun _ =>
    { r with stats := r.stats.eraseP fun s => Text.sameIgnoringCase s.name name }

def changeFirst {α : Type} (p : α → Bool) (f : α → α) : List α → List α
  | [] => []
  | x :: xs => if p x then f x :: xs else x :: changeFirst p f xs

def setFormula? (r : Rules) (name : String) (formula : Option String) : Option Rules :=
  (r.stat? name).map fun _ =>
    { r with
      stats :=
        changeFirst (fun s => Text.sameIgnoringCase s.name name) ({ · with formula }) r.stats }

def copySkill (r : Rules) : Rules :=
  r.addSkills (r.skills.head?.map Skill.copy).toList

end GameBalance.Rules
