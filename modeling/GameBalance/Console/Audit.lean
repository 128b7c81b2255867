import GameBalance.Console.Validation

namespace GameBalance.Console

def statInformation (s : Stat) (r : Rules) : List String :=
  let description := if s.description.isEmpty then [] else ["   Description: " ++ s.description]
  let sample := "   At level " ++ nat r.previewLevel.toNat ++ ":"
  description ++ match s.formula? with
    | some formula =>
      ["   Type: derived", "   Formula: " ++ formula,
        sample ++ verdictLine (s.verdict r.stats r.previewLevel)]
    | none => ["   Type: base", sample ++ " " ++ shown (s.baseAt r.previewLevel)]

def valued (values : Formula.Bindings) (name : String) : String :=
  match values.lookup name with
  | some x => name ++ " (" ++ shown x ++ ")"
  | none => name

def listed (names : List String) (line : String → String) (none : String) : List String :=
  if names.isEmpty then [none] else names.map fun name => "   └─ " ++ line name

def orderLine (d : DependencyGraph) : String :=
  match d.resolutionOrder with
  | .ok order => "   " ++ arrows order
  | .error stat => "   ❌ " ++ circularMessage stat

def auditLines (s : Stat) (r : Rules) : List String :=
  let d := DependencyGraph.ofStats r.stats
  let values := Stat.previews r.stats r.previewLevel
  let direct := (s.dependents r.stats).map Stat.name
  let mark (name : String) := if direct.contains name then "direct" else "indirect"
  ["📋 Stat Information:"] ++ statInformation s r ++
    ["", "🌳 References:"] ++
    listed (d.dependenciesOf s.name) (valued values) "   No stat references" ++
    ["", "⬆️  Used by:"] ++
    listed (d.dependentsOf s.name) (fun name => valued values name ++ " [" ++ mark name ++ "]")
      "   No dependent stats" ++
    ["", "🧮 Resolution order:", orderLine d, "", "✅ Audit complete"]

def audit (files : Files) (path stat : String) (level : Option UInt32) : Outcome :=
  let heading := ["🔍 Statforge - Stat Audit", "   File: " ++ path, "   Stat: " ++ stat, ""]
  match readRules files path level with
  | .error f => .fail heading f
  | .ok rules =>
    match rules.stat? stat with
    | none => .fail heading (.invalid ("Stat '" ++ stat ++ "' not found"))
    | some s => .success (heading ++ auditLines s rules)

end GameBalance.Console
