import GameBalance.Json.Encoding
import GameBalance.Json.Reader
import GameBalance.Json.Writer
import GameBalance.Rules.Format
import GameBalance.Text.Quoted
import GameBalance.Yaml.Encoding
import GameBalance.Yaml.Reader

namespace GameBalance

inductive ReadError
  | yaml
  | json
  | unnamedStat (formula : String)
  | unnamedSkill
  deriving DecidableEq, Repr

def notRules : String :=
  "the text does not stand for rules"

def ReadError.message : ReadError → String
  | .yaml => "YAML parsing error: " ++ notRules
  | .json => "JSON parsing error: " ++ notRules
  | .unnamedStat formula =>
    "Validation error: Stat with formula " ++ Text.quoted formula ++ " has an empty name"
  | .unnamedSkill => "Validation error: Skill with an empty name"

namespace Rules

def ofJson? (text : String) : Option Rules :=
  (Json.read? text).bind Json.encoding.rules?

def ofYaml? (text : String) : Option Rules :=
  if Text.isBlankText text then some empty else (Yaml.read? text).bind Yaml.encoding.rules?

def ofText? (format : Format) (text : String) : Except ReadError Rules :=
  match format with
  | .yaml => (ofYaml? text).elim (.error .yaml) .ok
  | .json => (ofJson? text).elim (.error .json) .ok

def checkNames (r : Rules) : Except ReadError Rules :=
  match r.stats.find? fun s => Text.isBlankText s.name with
  | some s => .error (.unnamedStat (s.formula.getD ""))
  | none => if r.skills.any fun s => Text.isBlankText s.name then .error .unnamedSkill else .ok r

def read (format : Format) (text : String) : Except ReadError Rules :=
  (ofText? format text).bind checkNames

def write (format : Format) (r : Rules) : String :=
  match format with
  | .yaml => Yaml.write (Yaml.encoding.ofRules r)
  | .json => Json.write (Json.encoding.ofRules r)

end Rules
end GameBalance
