import GameBalance.Proofs.Json.Encoding
import GameBalance.Proofs.Json.Number
import GameBalance.Proofs.Yaml.Encoding
import GameBalance.Rules.Document

namespace GameBalance.Rules

structure Named (r : Rules) : Prop where
  stats : ∀ s ∈ r.stats, Text.isBlankText s.name = false
  skills : ∀ s ∈ r.skills, Text.isBlankText s.name = false

theorem Named.checkNames {r : Rules} (h : r.Named) : r.checkNames = .ok r := by
  have stats : r.stats.find? (fun s => Text.isBlankText s.name) = none :=
    List.find?_eq_none.2 fun s hs => Bool.eq_false_iff.1 (h.stats s hs)
  have skills : r.skills.any (fun s => Text.isBlankText s.name) = false :=
    List.any_eq_false.2 fun s hs => Bool.eq_false_iff.1 (h.skills s hs)
  rw [Rules.checkNames, stats, skills]
  rfl

def withBase (x : Float) : Rules :=
  { empty with
    stats := [(Stat.base "STR" 10 2).describe "tab\there, \"quote\"\n"]
    curve := { Curve.standard with baseXp := x } }

theorem named_withBase (x : Float) : (withBase x).Named where
  stats := List.forall_mem_singleton.2 (by decide)
  skills := List.forall_mem_nil _

section Yaml

variable {r : Rules}

theorem isBlankText_write_yaml (r : Rules) : Text.isBlankText (r.write .yaml) = false := by
  have key : Yaml.renderKey 0 (Yaml.encoding.ofText "stats") = 's' :: "tats:".toList := by
    decide +kernel
  have first : (r.write .yaml).toList.head? = some 's' := by
    change (String.ofList
      (Yaml.renderKey 0 (Yaml.encoding.ofText "stats") ++ _ ++ _)).toList.head? = _
    rw [key, String.toList_ofList]
    rfl
  have letter : Text.isBlank 's' = false := by decide
  exact List.all_eq_false.2 ⟨'s', List.mem_of_head? first, Bool.eq_false_iff.1 letter⟩

/-- All rules come back from YAML. -/
theorem read_write_yaml (r : Rules) (named : r.Named)
    (numbers : ∀ x ∈ r.curve.floats, x.isNaN = false) :
    read .yaml (r.write .yaml) = .ok r := by
  have floats : ∀ x ∈ r.curve.floats, Yaml.encoding.float? (Yaml.encoding.ofFloat x) =
      some x := fun x hx =>
    Yaml.float?_ofFloat (numbers x hx)
  have back : ofYaml? (r.write .yaml) = some r := by
    rw [ofYaml?, isBlankText_write_yaml, if_neg Bool.false_ne_true, write, Yaml.read?_write_rules,
      Option.bind_some]
    exact (Yaml.lawful.rules?_ofRules_eq_self r).2 floats
  rw [read, ofText?, back]
  exact named.checkNames

/--
Rules with texts that look like a number and like nothing,
with white space at an end, and an infinite double.
-/
def disguised : Rules :=
  { withBase (1 / 0) with
    stats := [(Stat.base "12" 10 2).describe "null", (Stat.base "~" 1 0).describe " - #: 'a'\n\n"] }

theorem read_write_yaml_disguised :
    disguised.Named ∧ (∀ x ∈ disguised.curve.floats, x.isNaN = false) ∧
    read .yaml (disguised.write .yaml) = .ok disguised := by
  have named : disguised.Named := ⟨by decide, by decide⟩
  have numbers : ∀ x ∈ disguised.curve.floats, x.isNaN = false := by decide +kernel
  exact ⟨named, numbers, read_write_yaml _ named numbers⟩

end Yaml

section Json

variable {r : Rules}

theorem ofJson?_write (r : Rules) : ofJson? (r.write .json) =
    (r.curve.mapFloats? fun x => Json.encoding.float? (Json.encoding.ofFloat x)).map fun c =>
      { r with curve := c } := by
  rw [ofJson?, write, Json.read?_write_rules, Option.bind_some, Json.lawful.rules?_ofRules]

theorem read_json_eq (named : r.Named) : read .json (r.write .json) =
    (r.curve.mapFloats? fun x => Json.encoding.float? (Json.encoding.ofFloat x)).elim (.error .json)
      fun c => .ok { r with curve := c } := by
  rw [read, ofText?, ofJson?_write]
  cases r.curve.mapFloats? fun x => Json.encoding.float? (Json.encoding.ofFloat x) with
  | none => rfl
  | some c =>
    have named' : Named { r with curve := c } := ⟨named.stats, named.skills⟩
    exact named'.checkNames

theorem read_json_eq_self (named : r.Named) : read .json (r.write .json) = .ok r ↔
    ∀ x ∈ r.curve.floats, Json.encoding.float? (Json.encoding.ofFloat x) = some x := by
  rw [read_json_eq named, ← Curve.mapFloats?_eq_some_self]
  cases r.curve.mapFloats? fun x => Json.encoding.float? (Json.encoding.ofFloat x) with
  | none => simp
  | some c =>
    cases r
    simp

/--
Nothing but doubles comes back changed from JSON. Finite ones come back if each of their numerals is
read as what it was written for, as short ones are; where one is not finite, the text is refused.
-/
theorem read_write_json (r : Rules) (named : r.Named) :
    (∀ r', read .json (r.write .json) = .ok r' → r' = { r with
      curve := { r.curve with
        baseXp := r'.curve.baseXp
        linearMultiplier := r'.curve.linearMultiplier
        exponentialBase := r'.curve.exponentialBase } }) ∧
      ((∀ x ∈ r.curve.floats, x.isFinite = true) →
        (read .json (r.write .json) = .ok r ↔
          ∀ x ∈ r.curve.floats, Json.double? (.ofFloat x) = some x) ∧
          ((∀ x ∈ r.curve.floats, Json.Short (Numeral.ofFloat x).decimal) →
            read .json (r.write .json) = .ok r)) ∧
        ((∃ x ∈ r.curve.floats, x.isFinite = false) →
          read .json (r.write .json) = .error .json) := by
  refine ⟨fun r' back => ?_, fun finite => ?_, fun ⟨x, hx, infinite⟩ => ?_⟩
  · rw [read_json_eq named] at back
    cases read : r.curve.mapFloats? fun x => Json.encoding.float? (Json.encoding.ofFloat x) with
    | none =>
      rw [read] at back
      cases back
    | some c =>
      rw [read] at back
      obtain rfl := Except.ok.inj back
      exact congrArg (fun c => { r with curve := c }) (Curve.mapFloats?_eq_some read)
  · have iff : read .json (r.write .json) = .ok r ↔
        ∀ x ∈ r.curve.floats, Json.double? (.ofFloat x) = some x := by
      rw [read_json_eq_self named]
      exact forall₂_congr fun x hx => by rw [Json.float?_ofFloat (finite x hx)]
    refine ⟨iff, fun short => iff.2 fun x hx => ?_⟩
    rw [Json.double?_short (short x hx), Numeral.toFloat_ofFloat (finite x hx)]
  · have none :
        r.curve.mapFloats? (fun x => Json.encoding.float? (Json.encoding.ofFloat x)) = none :=
      Curve.mapFloats?_eq_none ⟨x, hx, Json.float?_ofFloat_not_finite infinite⟩
    rw [read_json_eq named, none]
    rfl

theorem read_write_json_short : read .json ((withBase 12.5).write .json) = .ok (withBase 12.5) ∧
    read .json ((withBase (1 / 0)).write .json) = .error .json := by
  constructor
  · have finite : ∀ x ∈ (withBase 12.5).curve.floats, x.isFinite = true := by decide +kernel
    have short : ∀ x ∈ (withBase 12.5).curve.floats, Json.Short (Numeral.ofFloat x).decimal := by
      simp only [Json.Short]
      decide +kernel
    exact ((read_write_json _ (named_withBase _)).2.1 finite).2 short
  · exact (read_write_json _ (named_withBase _)).2.2 ⟨1 / 0, List.mem_cons_self, by decide +kernel⟩

/-- Two doubles that stand for one after JSON. -/
theorem json_rounds : (withBase 9.200000000000001).Named ∧
    (∀ x ∈ (withBase 9.200000000000001).curve.floats, x.isFinite = true) ∧
      read .json ((withBase 9.200000000000001).write .json) = .ok (withBase 9.2) ∧
        (9.2 : Float) ≠ 9.200000000000001 := by
  have finite : ∀ x ∈ (withBase 9.200000000000001).curve.floats, x.isFinite = true := by
    decide +kernel
  have base : Json.double? (.ofFloat 9.200000000000001) = some 9.2 := by decide +kernel
  have multiplier : Json.double? (.ofFloat 100) = some 100 := by decide +kernel
  have exponential : Json.double? (.ofFloat 1.15) = some 1.15 := by decide +kernel
  have curve : (withBase 9.200000000000001).curve.mapFloats?
      (fun x => Json.encoding.float? (Json.encoding.ofFloat x)) =
      some (withBase 9.2).curve := by
    simp only [Curve.floats, List.forall_mem_cons] at finite
    rw [Curve.mapFloats?, Json.float?_ofFloat finite.1, Json.float?_ofFloat finite.2.1,
      Json.float?_ofFloat finite.2.2.1]
    simp only [withBase, Curve.standard, base, multiplier, exponential, Option.bind_eq_bind,
      Option.bind_some, Option.pure_def]
  refine ⟨named_withBase _, finite, ?_, by decide +kernel⟩
  rw [read_json_eq (named_withBase _), curve]
  rfl

end Json

end GameBalance.Rules
