import GameBalance.Curve.Table
import GameBalance.Rules.Basic
import GameBalance.Skill.Verdict

namespace GameBalance

inductive Problem
  | duplicateStat (name : String)
  | duplicateSkill (name : String)
  | cycle (stat : String)
  deriving DecidableEq, Repr

def circularMessage (stat : String) : String :=
  "Circular dependency detected: stat '" ++ stat ++ "' depends on itself"

def Problem.message : Problem → String
  | .duplicateStat name => "duplicate stat name '" ++ name ++ "'"
  | .duplicateSkill name => "duplicate skill name '" ++ name ++ "'"
  | .cycle stat => circularMessage stat

structure StatReport where
  stat : String
  formula : String
  verdict : Formula.Verdict

structure Report where
  stats : List StatReport
  skills : List SkillReport
  curve : Formula.Verdict
  resolutionOrder : Option (List String)
  problems : List Problem

namespace Report

def isValid (r : Report) : Bool :=
  r.problems.isEmpty && r.curve.isValid && r.stats.all (·.verdict.isValid) &&
    r.skills.all (·.isValid)

def errors (r : Report) : List String :=
  r.problems.map Problem.message ++
    r.stats.filterMap (fun s => s.verdict.message?.map ("stat '" ++ s.stat ++ "': " ++ ·)) ++
    r.skills.flatMap (fun s => s.results.filterMap fun (kind, verdict) =>
      verdict.message?.map ("skill '" ++ s.skill ++ "' (" ++ kind.label ++ "): " ++ ·)) ++
    (r.curve.message?.map ("xp curve: " ++ ·)).toList

end Report

def repeatedNames (seen : List String) : List String → List String
  | [] => []
  | name :: names =>
    let key := Text.lowercase name
    if key ∈ seen then name :: repeatedNames seen names else repeatedNames (key :: seen) names

namespace Rules

def statReports (r : Rules) : List StatReport :=
  r.stats.filterMap fun s => s.formula?.map fun formula =>
    ⟨s.name, formula, s.verdict r.stats r.previewLevel⟩

def report (r : Rules) : Report :=
  let duplicates :=
    (repeatedNames [] (r.stats.map Stat.name)).map Problem.duplicateStat ++
      (repeatedNames [] (r.skills.map Skill.name)).map Problem.duplicateSkill
  let order := (DependencyGraph.ofStats r.stats).resolutionOrder
  { stats := r.statReports
    skills := r.skills.map (·.report r.stats r.previewLevel r.previewRank)
    curve := r.curve.verdict r.previewLevel
    resolutionOrder := order.toOption
    problems := duplicates ++ match order with
      | .ok _ => []
      | .error stat => [.cycle stat] }

end Rules
end GameBalance
