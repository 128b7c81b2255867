import GameBalance.Rules.Basic

namespace GameBalance

/--
The readers fail on values of another kind. A word is a text that names one of a few choices.
`members?` gives the members whose names are among `fields`.
-/
structure Encoding (V : Type) where
  isNull : V → Bool
  text? : V → Option String
  word? : V → Option String
  nat? : V → Option Nat
  int? : V → Option Int
  float? : V → Option Float
  items? : V → Option (List V)
  members? : (fields : List String) → V → Option (List (String × V))
  null : V
  ofText : String → V
  ofInt : Int → V
  ofFloat : Float → V
  ofItems : List V → V
  ofMembers : List (String × V) → V

def SkillType.ofWord? : String → Option SkillType
  | "Active" | "active" => some .active
  | "Passive" | "passive" => some .passive
  | _ => none

def SkillType.word : SkillType → String
  | .active => "Active"
  | .passive => "Passive"

def CurveKind.ofWord? : String → Option CurveKind
  | "Linear" | "linear" => some .linear
  | "Exponential" | "exponential" => some .exponential
  | "CustomFormula" | "custom" | "custom_formula" => some .custom
  | _ => none

def CurveKind.word : CurveKind → String
  | .linear => "Linear"
  | .exponential => "Exponential"
  | .custom => "CustomFormula"

namespace Encoding

variable {V : Type} (e : Encoding V)

def int32? (v : V) : Option Int32 :=
  (e.int? v).bind fun i =>
    if Int32.minValue.toInt ≤ i ∧ i ≤ Int32.maxValue.toInt then some (.ofInt i) else none

def uint32? (v : V) : Option UInt32 :=
  (e.nat? v).bind fun n => if n < UInt32.size then some (.ofNat n) else none

def option? {α : Type} (read : V → Option α) (v : V) : Option (Option α) :=
  if e.isNull v then some none else (read v).map some

def list? {α : Type} (read : V → Option α) (v : V) : Option (List α) :=
  (e.items? v).bind (·.mapM read)

def member? {α : Type} (members : List (String × V)) (name : String) (read : V → Option α)
    (default : α) : Option α :=
  match members.lookup name with
  | none => some default
  | some v => read v

def needed? {α : Type} (members : List (String × V)) (name : String) (read : V → Option α) :
    Option α :=
  (members.lookup name).bind read

def statFields : List String :=
  ["name", "description", "base_value", "growth_per_level", "min_value", "max_value", "formula"]

def stat? (v : V) : Option Stat := do
  let ms ← e.members? statFields v
  return {
    name := ← needed? ms "name" e.text?
    description := ← member? ms "description" e.text? ""
    baseValue := ← member? ms "base_value" (e.option? e.int32?) none
    growthPerLevel := ← member? ms "growth_per_level" (e.option? e.int32?) none
    minValue := ← member? ms "min_value" (e.option? e.int32?) none
    maxValue := ← member? ms "max_value" (e.option? e.int32?) none
    formula := ← member? ms "formula" (e.option? e.text?) none }

def skillFields : List String :=
  ["name", "description", "skill_type", "max_rank", "required_level", "required_class",
   "damage_formula", "mana_cost_formula", "cooldown_formula", "passive_effect_formula"]

def skill? (v : V) : Option Skill := do
  let ms ← e.members? skillFields v
  return {
    name := ← needed? ms "name" e.text?
    description := ← member? ms "description" e.text? ""
    skillType := ← member? ms "skill_type" (fun v => (e.word? v).bind SkillType.ofWord?) .active
    maxRank := ← member? ms "max_rank" e.uint32? 5
    requiredLevel := ← member? ms "required_level" e.uint32? 1
    requiredClass := ← member? ms "required_class" (e.option? e.text?) none
    damageFormula := ← member? ms "damage_formula" (e.option? e.text?) none
    manaCostFormula := ← member? ms "mana_cost_formula" (e.option? e.text?) none
    cooldownFormula := ← member? ms "cooldown_formula" (e.option? e.text?) none
    passiveEffectFormula := ← member? ms "passive_effect_formula" (e.option? e.text?) none }

def curveFields : List String :=
  ["kind", "base_xp", "linear_multiplier", "exponential_base", "formula"]

def curve? (v : V) : Option Curve := do
  let ms ← e.members? curveFields v
  return {
    kind := ← member? ms "kind" (fun v => (e.word? v).bind CurveKind.ofWord?) Curve.standard.kind
    baseXp := ← member? ms "base_xp" e.float? Curve.standard.baseXp
    linearMultiplier := ← member? ms "linear_multiplier" e.float? Curve.standard.linearMultiplier
    exponentialBase := ← member? ms "exponential_base" e.float? Curve.standard.exponentialBase
    formula := ← member? ms "formula" e.text? Curve.standard.formula }

def levelUpFields : List String :=
  ["stat_points_per_level", "skill_points_per_level", "bonus_rule_description"]

def levelUp? (v : V) : Option LevelUp := do
  let ms ← e.members? levelUpFields v
  return {
    statPoints := ← member? ms "stat_points_per_level" e.uint32? LevelUp.standard.statPoints
    skillPoints := ← member? ms "skill_points_per_level" e.uint32? LevelUp.standard.skillPoints
    bonusRule := ← member? ms "bonus_rule_description" e.text? LevelUp.standard.bonusRule }

def rulesFields : List String :=
  ["stats", "skills", "xp_curve", "level_up", "preview_level", "preview_skill_rank"]

def rules? (v : V) : Option Rules := do
  let ms ← e.members? rulesFields v
  return {
    stats := ← member? ms "stats" (e.list? e.stat?) []
    skills := ← member? ms "skills" (e.list? e.skill?) []
    curve := ← member? ms "xp_curve" e.curve? .standard
    levelUp := ← member? ms "level_up" e.levelUp? .standard
    previewLevel := ← member? ms "preview_level" e.uint32? Rules.empty.previewLevel
    previewRank := ← member? ms "preview_skill_rank" e.uint32? Rules.empty.previewRank }

def ofInt32 (i : Int32) : V :=
  e.ofInt i.toInt

def ofUInt32 (n : UInt32) : V :=
  e.ofInt n.toNat

def ofOption {α : Type} (write : α → V) : Option α → V
  | none => e.null
  | some x => write x

def ofStat (s : Stat) : V :=
  e.ofMembers [
    ("name", e.ofText s.name),
    ("description", e.ofText s.description),
    ("base_value", e.ofOption e.ofInt32 s.baseValue),
    ("growth_per_level", e.ofOption e.ofInt32 s.growthPerLevel),
    ("min_value", e.ofOption e.ofInt32 s.minValue),
    ("max_value", e.ofOption e.ofInt32 s.maxValue),
    ("formula", e.ofOption e.ofText s.formula)]

def ofSkill (s : Skill) : V :=
  e.ofMembers [
    ("name", e.ofText s.name),
    ("description", e.ofText s.description),
    ("skill_type", e.ofText s.skillType.word),
    ("max_rank", e.ofUInt32 s.maxRank),
    ("required_level", e.ofUInt32 s.requiredLevel),
    ("required_class", e.ofOption e.ofText s.requiredClass),
    ("damage_formula", e.ofOption e.ofText s.damageFormula),
    ("mana_cost_formula", e.ofOption e.ofText s.manaCostFormula),
    ("cooldown_formula", e.ofOption e.ofText s.cooldownFormula),
    ("passive_effect_formula", e.ofOption e.ofText s.passiveEffectFormula)]

def ofCurve (c : Curve) : V :=
  e.ofMembers [
    ("kind", e.ofText c.kind.word),
    ("base_xp", e.ofFloat c.baseXp),
    ("linear_multiplier", e.ofFloat c.linearMultiplier),
    ("exponential_base", e.ofFloat c.exponentialBase),
    ("formula", e.ofText c.formula)]

def ofLevelUp (l : LevelUp) : V :=
  e.ofMembers [
    ("stat_points_per_level", e.ofUInt32 l.statPoints),
    ("skill_points_per_level", e.ofUInt32 l.skillPoints),
    ("bonus_rule_description", e.ofText l.bonusRule)]

def ofRules (r : Rules) : V :=
  e.ofMembers [
    ("stats", e.ofItems (r.stats.map e.ofStat)),
    ("skills", e.ofItems (r.skills.map e.ofSkill)),
    ("xp_curve", e.ofCurve r.curve),
    ("level_up", e.ofLevelUp r.levelUp),
    ("preview_level", e.ofUInt32 r.previewLevel),
    ("preview_skill_rank", e.ofUInt32 r.previewRank)]

end Encoding

def knownMembers? {V : Type} (fields : List String) (members : List (String × V)) :
    Option (List (String × V)) :=
  let known := members.filter fun m => fields.contains m.1
  if (known.map Prod.fst).Nodup then some known else none

end GameBalance
