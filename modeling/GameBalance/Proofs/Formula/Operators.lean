import GameBalance.Formula.Verdict
import GameBalance.Text.Blank
import Mathlib.Data.List.DropRight

namespace GameBalance.Formula

open Text

def solid (cs : List Char) : List Char :=
  cs.filter (!isBlank ·)

def minuses (cs : List Char) : Nat :=
  (cs.rtakeWhile (· = '-')).length

def beforeMinuses (cs : List Char) : Option Char :=
  (cs.rdropWhile (· = '-')).getLast?

/--
The text ends in a `-` that is a sign. Those at the end are then odd in number after the start, `(`
or another operator, and even after an operand.
-/
def EndsInSign (cs : List Char) : Prop :=
  minuses cs ≠ 0 ∧
    (minuses cs % 2 = 1 ↔ opensOperand (beforeMinuses cs) = true ∨
      (beforeMinuses cs).any isOperator = true)

def EndsBinary (cs : List Char) : Prop :=
  cs.getLast?.any isOperator = true ∧ ¬EndsInSign cs

/--
In what follows `before`, an operator other than `-` stands directly after one that is no sign.
-/
def MeetAfter (before cs : List Char) : Prop :=
  ∃ first c last, cs = first ++ c :: last ∧ isOperator c = true ∧ c ≠ '-' ∧
    EndsBinary (before ++ first)

def OperatorsMeet (cs : List Char) : Prop :=
  MeetAfter [] cs

instance {cs : List Char} : Decidable (EndsInSign cs) :=
  inferInstanceAs (Decidable (_ ∧ _))

instance {cs : List Char} : Decidable (EndsBinary cs) :=
  inferInstanceAs (Decidable (_ ∧ _))

variable {cs before after : List Char} {c : Char} {flag : Bool} {f : String}

theorem not_endsBinary_nil : ¬EndsBinary [] := by
  decide

@[simp] theorem minuses_concat_minus : minuses (cs ++ ['-']) = minuses cs + 1 := by
  simp [minuses]

@[simp] theorem beforeMinuses_concat_minus : beforeMinuses (cs ++ ['-']) = beforeMinuses cs := by
  simp [beforeMinuses]

theorem minuses_concat (h : c ≠ '-') : minuses (cs ++ [c]) = 0 := by
  simp [minuses, h]

theorem beforeMinuses_concat (h : c ≠ '-') : beforeMinuses (cs ++ [c]) = some c := by
  simp [beforeMinuses, h]

theorem endsInSign_concat (h : c ≠ '-') : ¬EndsInSign (cs ++ [c]) :=
  fun sign => sign.1 (minuses_concat h)

theorem endsInSign_concat_minus :
    EndsInSign (cs ++ ['-']) ↔ EndsBinary cs ∨ opensOperand cs.getLast? = true := by
  obtain rfl | ⟨before, d, rfl⟩ := cs.eq_nil_or_concat'
  · decide
  rw [EndsInSign, minuses_concat_minus, beforeMinuses_concat_minus, EndsBinary,
    List.getLast?_concat, Option.any_some]
  by_cases minus : d = '-'
  · -- the parity changes, and the place before the run stays
    subst minus
    have operator : isOperator '-' = true := rfl
    have inside : opensOperand (some '-') = false := rfl
    rw [EndsInSign, minuses_concat_minus, beforeMinuses_concat_minus, operator, inside]
    by_cases opens : opensOperand (beforeMinuses before) = true ∨
      (beforeMinuses before).any isOperator = true
    · simp [opens]
      omega
    · simp [opens]
      omega
  · have first : ¬EndsInSign (before ++ [d]) := endsInSign_concat minus
    simp [first, minuses_concat minus, beforeMinuses_concat minus, or_comm]

theorem endsBinary_concat : EndsBinary (cs ++ [c]) ↔
    isOperator c = true ∧ (c = '-' → ¬(EndsBinary cs ∨ opensOperand cs.getLast? = true)) := by
  rw [EndsBinary, List.getLast?_concat, Option.any_some]
  refine and_congr_right fun _ => ?_
  by_cases minus : c = '-'
  · subst minus
    rw [endsInSign_concat_minus]
    simp
  · simp [endsInSign_concat minus, minus]

theorem not_meetAfter_nil : ¬MeetAfter before [] := by
  rintro ⟨first, c, last, eq, -⟩
  simp at eq

theorem meetAfter_cons : MeetAfter before (c :: after) ↔
    (isOperator c = true ∧ c ≠ '-' ∧ EndsBinary before) ∨ MeetAfter (before ++ [c]) after := by
  constructor
  · rintro ⟨first, d, last, eq, operator, other, binary⟩
    cases first with
    | nil =>
      obtain ⟨rfl, -⟩ := List.cons.inj eq
      exact .inl ⟨operator, other, List.append_nil before ▸ binary⟩
    | cons e first =>
      obtain ⟨rfl, rfl⟩ := List.cons.inj eq
      exact .inr ⟨first, d, last, rfl, operator, other, List.append_cons before c first ▸ binary⟩
  · rintro (⟨operator, other, binary⟩ | ⟨first, d, last, rfl, operator, other, binary⟩)
    · exact ⟨[], c, after, rfl, operator, other, (List.append_nil before).symm ▸ binary⟩
    · exact ⟨c :: first, d, last, rfl, operator, other,
        (List.append_cons before c first).symm ▸ binary⟩

/-- The flag of the scan tells whether what it has read ends in an operator that is no sign. -/
theorem operatorsClashFrom_iff (ends : flag = true ↔ EndsBinary before) :
    operatorsClashFrom flag before.getLast? after = true ↔ EndsBinary (before ++ after) ∨
    MeetAfter before after := by
  induction after generalizing flag before with
  | nil => rw [operatorsClashFrom, List.append_nil, ends, or_iff_left not_meetAfter_nil]
  | cons c after ih =>
    have next := @endsBinary_concat before c
    have last : (before ++ [c]).getLast? = some c := List.getLast?_concat
    rw [operatorsClashFrom, meetAfter_cons, List.append_cons]
    split
    · rename_i sign
      obtain ⟨rfl, sign⟩ := sign
      rw [ends] at sign
      have free : false = true ↔ EndsBinary (before ++ ['-']) := by
        simpa using fun binary => (next.1 binary).2 rfl sign
      rw [← last, ih free]
      simp
    · rename_i noSign
      split
      · rename_i clash
        obtain ⟨operator, flagged⟩ := clash
        have other : c ≠ '-' := fun minus => noSign ⟨minus, .inl flagged⟩
        simp [operator, other, ends.1 flagged]
      · rename_i apart
        have here : isOperator c = true ↔ EndsBinary (before ++ [c]) :=
          ⟨fun operator => next.2
            ⟨operator, fun minus sign => noSign ⟨minus, sign.imp_left ends.2⟩⟩,
            fun binary => (next.1 binary).1⟩
        have free : ¬(isOperator c = true ∧ c ≠ '-' ∧ EndsBinary before) :=
          fun ⟨operator, _, binary⟩ =>
          apart ⟨operator, ends.2 binary⟩
        rw [← last, ih here, or_iff_right free]

theorem operatorsClash_iff :
    operatorsClash f = true ↔ EndsBinary (solid f.toList) ∨ OperatorsMeet (solid f.toList) := by
  have start : false = true ↔ EndsBinary [] := by decide
  exact operatorsClashFrom_iff start

theorem OperatorsMeet.adjacent (h : OperatorsMeet cs) :
    ∃ before d c after, cs = before ++ d :: c :: after ∧
    isOperator d = true ∧ isOperator c = true ∧ c ≠ '-' ∧ EndsBinary (before ++ [d]) := by
  obtain ⟨first, c, last, rfl, operator, other, binary⟩ := h
  obtain rfl | ⟨before, d, rfl⟩ := first.eq_nil_or_concat'
  · exact absurd binary not_endsBinary_nil
  · exact ⟨before, d, c, last, by simp, (endsBinary_concat.1 binary).1, operator, other, binary⟩

theorem isBlankText_of_solid (h : (solid f.toList).getLast?.any isOperator = true) :
    isBlankText f = false := by
  rw [Bool.eq_false_iff]
  intro blank
  have none : solid f.toList = [] := List.filter_eq_nil_iff.2 fun c hc => by
    simp [List.all_eq_true.1 blank c hc]
  rw [none] at h
  cases h

theorem exists_staticIssue?_of_clash (clash : operatorsClash f = true) (known : List String) :
    ∃ issue, staticIssue? f known = some issue := by
  rw [staticIssue?, clash]
  by_cases unknown : unknownVariables f known = []
  · rw [if_neg (not_not_intro unknown)]
    cases imbalance? f with
    | none => exact ⟨_, rfl⟩
    | some imbalance => exact ⟨_, rfl⟩
  · rw [if_pos unknown]
    exact ⟨_, rfl⟩

theorem isValid_of_staticIssue? (notBlank : isBlankText f = false)
    (h : staticIssue? f (knownNames names) = some issue)
    (values : Option Bindings) : (validate f names values).isValid = false := by
  rw [validate.eq_def, notBlank, if_neg Bool.false_ne_true, h]
  rfl

/--
A formula that ends in an operator is refused where that operator is no sign, and else only for
other operators that meet in it.
-/
theorem operatorsClash_trailing (f : String)
    (trailing : (solid f.toList).getLast?.any isOperator = true) :
    (operatorsClash f = true ↔ ¬EndsInSign (solid f.toList) ∨ OperatorsMeet (solid f.toList)) ∧
      (operatorsClash f = true → ∀ names, (validate f names none).isValid = false) := by
  constructor
  · rw [operatorsClash_iff, EndsBinary, and_iff_right trailing]
  · intro clash names
    obtain ⟨issue, static⟩ := exists_staticIssue?_of_clash clash (knownNames names)
    exact isValid_of_staticIssue? (isBlankText_of_solid trailing) static none

theorem operatorsClash_trailing_signs :
    (solid "(STR) - - -".toList).getLast?.any isOperator = true ∧
    (operatorsClash "(STR) - - -" = true ↔
      ¬EndsInSign (solid "(STR) - - -".toList) ∨ OperatorsMeet (solid "(STR) - - -".toList)) ∧
    (operatorsClash "(STR) - - -" = true →
      ∀ names, (validate "(STR) - - -" names none).isValid = false) := by
  have trailing : (solid "(STR) - - -".toList).getLast?.any isOperator = true := by decide
  exact ⟨trailing, operatorsClash_trailing _ trailing⟩

/-- The second `-` is taken for a sign, so the formula passes although no operand follows. -/
theorem sign_passes :
    (solid "2 - -".toList).getLast?.any isOperator = true ∧ operatorsClash "2 - -" = false ∧
    validate "2 - -" [] none = .valid none := by
  have clear : operatorsClash "2 - -" = false := by decide
  refine ⟨by decide, clear, ?_⟩
  have notBlank : isBlankText "2 - -" = false := by decide
  have static : staticIssue? "2 - -" (knownNames []) = none := by decide +kernel
  rw [validate.eq_def, notBlank, static]
  rfl

end GameBalance.Formula
