import GameBalance.Curve.Table
import GameBalance.Proofs.Formula.Acceptance

namespace GameBalance.Curve

open Formula Text

variable {c : Curve} {level : UInt32} {x : Float}

theorem values_eq (c : Curve) (level : UInt32) :
    c.values level = [("Level", Double.ofUInt32 level), ("BaseXP", c.baseXp)] :=
  Bindings.ofList_eq (by simp)

theorem proper_values (c : Curve) (level : UInt32) : (c.values level).Proper := by
  rw [values_eq]
  constructor
  · simp only [List.forall_mem_cons]
    exact ⟨by decide, by decide, by simp⟩
  · simp only [List.forall_mem_cons]
    exact ⟨by decide, by decide, by simp⟩
  · have apart : sameIgnoringCase "Level" "BaseXP" = false := by decide
    exact List.pairwise_pair.2 apart

theorem mem_formulaNames : ∀ p ∈ c.values level, p.1 ∈ formulaNames := by
  intro p hp
  rw [values_eq] at hp
  exact List.mem_map_of_mem (f := Prod.fst) hp

section Custom

variable (custom : c.kind = .custom)

include custom

theorem verdict_custom :
    c.verdict level = validate c.formula formulaNames (some (c.values level)) := by
  rw [verdict, custom]

theorem xpAt_of_evaluate (value : evaluate c.formula (c.values level) = .ok x)
    (finite : x.isFinite = true) :
    c.xpAt level = Double.toInteger x := by
  have cost : c.customXp level = .ok (Double.toInteger x) := by
    rw [customXp, value]
    exact if_pos finite
  rw [xpAt, custom]
  dsimp only
  rw [cost]

theorem xpAt_eq_fallbackXp
    (h : ∀ x, evaluate c.formula (c.values level) = .ok x → x.isFinite = false) :
    c.xpAt level = fallbackXp level := by
  have failed : ∃ e, c.customXp level = .error e := by
    rw [customXp]
    cases value : evaluate c.formula (c.values level) with
    | error e => exact ⟨e, rfl⟩
    | ok x => exact ⟨_, if_neg (Bool.eq_false_iff.1 (h x value))⟩
  obtain ⟨e, failed⟩ := failed
  rw [xpAt, custom]
  dsimp only
  rw [failed]

end Custom

/--
Where the scans can be trusted, a custom curve that is refused at a level costs the fallback there;
one whose trial has a finite value costs that value, towards zero.
-/
theorem xpAt_of_verdict (c : Curve) (level : UInt32) (custom : c.kind = .custom) :
    (Conventional c.formula formulaNames → (c.verdict level).isValid = false →
      c.xpAt level = fallbackXp level) ∧
      ∀ x, c.verdict level = .valid (some x) → x.isFinite = true →
      c.xpAt level = Double.toInteger x := by
  rw [verdict_custom custom]
  cases blank : isBlankText c.formula with
  | true =>
    have passes : validate c.formula formulaNames (some (c.values level)) = .valid none := by
      rw [validate.eq_def, blank, if_pos rfl]
    rw [passes]
    constructor
    · intro _ refused
      cases refused
    · intro x valid
      cases valid
  | false =>
    constructor
    · intro conventional refused
      refine xpAt_eq_fallbackXp custom fun x value => ?_
      -- a value would be the sample of a curve that passes
      have clear := staticIssue?_eq_none_of_evaluate conventional (proper_values c level)
          mem_formulaNames blank value
      rw [(validate_eq_valid_iff blank).2 ⟨x, value, clear, rfl⟩] at refused
      cases refused
    · intro x valid finite
      obtain ⟨y, value, -, sample⟩ := (validate_eq_valid_iff blank).1 valid
      cases sample
      exact xpAt_of_evaluate custom value finite

theorem verdict_of_staticIssue? (custom : c.kind = .custom)
    (notBlank : isBlankText c.formula = false)
    (h : staticIssue? c.formula (knownNames formulaNames) = some issue) :
    c.verdict level = .invalid issue := by
  rw [verdict_custom custom, validate, notBlank, h]
  rfl

theorem xpAt_of_verdict_unbalanced :
    Curve.verdict ⟨.custom, 50, 0, 0, "BaseXP * (Level - 1"⟩ 3 =
      .invalid (.unbalancedParens .missingClosing) ∧
      Curve.xpAt ⟨.custom, 50, 0, 0, "BaseXP * (Level - 1"⟩ 3 = 300 := by
  have refused : Curve.verdict ⟨.custom, 50, 0, 0, "BaseXP * (Level - 1"⟩ 3 =
      .invalid (.unbalancedParens .missingClosing) := by
    refine verdict_of_staticIssue? rfl (by decide) ?_
    have unknown : unknownVariables "BaseXP * (Level - 1" (knownNames formulaNames) = [] := by
      decide +kernel
    have open' : imbalance? "BaseXP * (Level - 1" = some .missingClosing := by decide
    rw [staticIssue?, unknown, open']
    rfl
  have letters : (words "BaseXP * (Level - 1".toList).all (·.all isNamePart) = true := by
    decide +kernel
  have conventional : Conventional "BaseXP * (Level - 1" formulaNames := by
    refine ⟨fun before after eq => ?_, fun w hw _ _ _ c hc => ?_⟩
    · have plus : '+' ∈ solid "BaseXP * (Level - 1".toList := eq ▸ by simp
      exact absurd plus (by decide)
    · exact toNat_lt_of_isNamePart (List.all_eq_true.1 (List.all_eq_true.1 letters w hw) c hc)
  refine ⟨refused, ((xpAt_of_verdict _ 3 rfl).1 conventional ?_).trans (by decide)⟩
  rw [refused]
  rfl

/-- The scan refuses a `+` after `*`, and yet the formula is worth 50. -/
theorem refused_sign :
    Curve.verdict ⟨.custom, 100, 0, 0, "Level * +50"⟩ 1 = .invalid .invalidOperators ∧
    Curve.xpAt ⟨.custom, 100, 0, 0, "Level * +50"⟩ 1 = 50 ∧ fallbackXp 1 = 100 := by
  refine ⟨verdict_of_staticIssue? rfl (by decide) ?_, ?_, by decide⟩
  · have unknown : unknownVariables "Level * +50" (knownNames formulaNames) = [] := by
      decide +kernel
    have balanced : imbalance? "Level * +50" = none := by decide
    have clash : operatorsClash "Level * +50" = true := by decide
    rw [staticIssue?, unknown, balanced, clash]
    rfl
  · have inOrder : Bindings.inOrder [("Level", Double.ofUInt32 1), ("BaseXP", 100)] =
        [("BaseXP", 100), ("Level", Double.ofUInt32 1)] := by
      refine Bindings.inOrder_eq (List.reverse_perm [(_, _), (_, 100)]) ?_ (by decide)
      simp only [List.pairwise_cons]
      decide +kernel
    have value : evaluate "Level * +50" (Curve.values ⟨.custom, 100, 0, 0, "Level * +50"⟩ 1) =
        .ok 50 := by
      rw [values_eq, evaluate_of_inOrder inOrder]
      exact ok_of_toOption (by decide +kernel)
    rw [xpAt_of_evaluate rfl value (by decide +kernel)]
    decide +kernel

end GameBalance.Curve
