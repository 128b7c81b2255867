import GameBalance.Formula.Name
import GameBalance.Formula.Substitution

namespace GameBalance.Formula

def reservedNames : List String :=
  ["Level", "BaseValue"]

inductive Imbalance
  | extraClosing
  | missingClosing
  deriving DecidableEq, Repr

def Imbalance.message : Imbalance → String
  | .extraClosing => "extra closing parenthesis"
  | .missingClosing => "missing closing parenthesis"

inductive Issue
  | unknownVariables (names : List String)
  | unbalancedParens (imbalance : Imbalance)
  | invalidOperators
  | evaluation (error : EvalError)

def Issue.message : Issue → String
  | .unknownVariables names => "Unknown variable(s): " ++ ", ".intercalate names
  | .unbalancedParens imbalance => "Unbalanced parentheses: " ++ imbalance.message
  | .invalidOperators => "Invalid operator sequence detected"
  | .evaluation e => "Evaluation error: " ++ e.message

inductive Verdict
  | valid (sample : Option Float)
  | invalid (issue : Issue)

namespace Verdict

def isValid : Verdict → Bool
  | .valid _ => true
  | .invalid _ => false

def message? : Verdict → Option String
  | .valid _ => none
  | .invalid issue => some issue.message

def sample? : Verdict → Option Float
  | .valid sample => sample
  | .invalid _ => none

end Verdict

def addSpelling (seen : List String) (name : String) : List String :=
  if seen.contains name then seen else seen ++ [name]

def unknownVariables (formula : String) (known : List String) : List String :=
  ((referencedNames formula).filter fun name => !known.contains (Text.lowercase name)).foldl
    addSpelling []

def imbalanceAt (depth : Nat) : List Char → Option Imbalance
  | [] => if depth = 0 then none else some .missingClosing
  | c :: cs =>
    if c = '(' then imbalanceAt (depth + 1) cs
    else if c = ')' then
      match depth with
      | 0 => some .extraClosing
      | depth + 1 => imbalanceAt depth cs
    else imbalanceAt depth cs

def imbalance? (formula : String) : Option Imbalance :=
  imbalanceAt 0 formula.toList

def isOperator (c : Char) : Bool :=
  (Operator.ofChar? c).isSome

/-- Whether a `-` after `last` is a sign, provided that `last` is no operator. -/
def opensOperand : Option Char → Bool
  | none => true
  | some c => c = '('

/--
Whether two binary operators meet or the text ends in one. A `-` at the start, after `(` or after an
operator is a sign, and what follows a sign is free again.
-/
def operatorsClashFrom (afterOperator : Bool) (last : Option Char) : List Char → Bool
  | [] => afterOperator
  | c :: cs =>
    if c = '-' ∧ (afterOperator ∨ opensOperand last) then operatorsClashFrom false (some c) cs
    else if isOperator c ∧ afterOperator then true
    else operatorsClashFrom (isOperator c) (some c) cs

def operatorsClash (formula : String) : Bool :=
  operatorsClashFrom false none (formula.toList.filter (!Text.isBlank ·))

def staticIssue? (formula : String) (known : List String) : Option Issue :=
  let unknown := unknownVariables formula known
  if unknown ≠ [] then some (.unknownVariables unknown)
  else match imbalance? formula with
    | some imbalance => some (.unbalancedParens imbalance)
    | none => if operatorsClash formula then some .invalidOperators else none

def knownNames (names : List String) : List String :=
  (names ++ reservedNames).map Text.lowercase

/--
The verdict on a formula that may use `names`, with a trial evaluation where there are `values`.
-/
def validate (formula : String) (names : List String) (values : Option Bindings) : Verdict :=
  if Text.isBlankText formula then .valid none
  else match staticIssue? formula (knownNames names) with
    | some issue => .invalid issue
    | none => match values with
      | none => .valid none
      | some b => match evaluate formula b with
        | .ok sample => .valid (some sample)
        | .error e => .invalid (.evaluation e)

end GameBalance.Formula
