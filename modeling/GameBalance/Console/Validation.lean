import GameBalance.Console.Outcome
import GameBalance.Rules.Report

namespace GameBalance.Console

def nat (n : Nat) : String :=
  .ofList (Decimal.digitsOf n)

def arrows (names : List String) : String :=
  " → ".intercalate names

def sizeLine (r : Rules) : String :=
  if r.stats.isEmpty && r.skills.isEmpty then "⚠️  No stats or skills found in rules file"
  else "   Found " ++ nat r.stats.length ++ " stats, " ++ nat r.skills.length ++
    " skills (preview level " ++ nat r.previewLevel.toNat ++ ")"

def levelUpLines (l : LevelUp) : List String :=
  ("   Level up: " ++ nat l.statPoints.toNat ++ " stat points, " ++ nat l.skillPoints.toNat ++
    " skill points") ::
    if l.bonusRule.isEmpty then [] else ["   Bonus: " ++ l.bonusRule]

def statLines (s : StatReport) : List String :=
  ["   " ++ s.stat ++ " = " ++ s.formula, verdictLine s.verdict]

def skillFormulaLine? : SkillFormula × Formula.Verdict → Option String
  | (_, .valid none) => none
  | (kind, verdict) => some ("   " ++ padded 15 kind.label ++ ":" ++ verdictLine verdict)

def skillLines (s : SkillReport) : List String :=
  ("   " ++ s.skill) :: s.results.filterMap skillFormulaLine?

def headed (heading : String) (lines : List String) : List String :=
  if lines.isEmpty then [] else "" :: heading :: lines

def reportLines (r : Report) : List String :=
  headed "📊 Stats:" (r.stats.flatMap statLines) ++
    headed "✨ Skills:" (r.skills.flatMap skillLines) ++
    match r.resolutionOrder with
    | some order => ["", "🔗 Resolution order:", "   " ++ arrows order]
    | none => []

def validateFile (files : Files) (level : Option UInt32) (path : String) : Outcome :=
  let heading := ["✅ Validating rules", "   File: " ++ path, ""]
  match readRules files path level with
  | .error f => .fail heading f
  | .ok rules =>
    let report := rules.report
    let lines := heading ++ sizeLine rules :: levelUpLines rules.levelUp ++ reportLines report
    match report.errors with
    | [] => .success (lines ++ ["", "✅ All formulas are valid!"])
    | errors =>
      .fail (lines ++ "" :: ("❌ Found " ++ nat errors.length ++ " formula errors!") ::
        errors.map ("   " ++ ·))
        (.invalid (nat errors.length ++ " formula errors"))

def validate (files : Files) (paths : List String) (level : Option UInt32) : Outcome :=
  let outcomes := paths.map fun path => (path, validateFile files level path)
  let lines := outcomes.flatMap fun (_, o) => o.lines ++ [""]
  let failed := outcomes.filterMap fun (path, o) => o.failure.map fun f => path ++ ": " ++ f.message
  if failed.isEmpty then
    .success (lines ++
      if 1 < paths.length then ["✅ All " ++ nat paths.length ++ " files are valid!"] else [])
  else
    .fail lines (.invalid (nat failed.length ++ " of " ++ nat paths.length ++
      " files failed validation:\n" ++ "\n".intercalate failed))

end GameBalance.Console
