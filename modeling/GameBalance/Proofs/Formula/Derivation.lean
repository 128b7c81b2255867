import GameBalance.Formula.Grammar

namespace GameBalance.Formula.Grammar

inductive SumOperator : Token → BinaryOp → Prop
  | plus : SumOperator (.operator .plus) .add
  | minus : SumOperator (.operator .minus) .sub

inductive ProductOperator : Token → BinaryOp → Prop
  | star : ProductOperator (.operator .star) .mul
  | slash : ProductOperator (.operator .slash) .div

def spelling : Builtin → String
  | .floor => "floor"
  | .ceil => "ceil"
  | .round => "round"
  | .abs => "abs"
  | .sqrt => "sqrt"
  | .min => "min"
  | .max => "max"
  | .pow => "pow"

@[irreducible] def Denotes (name : String) (f : Builtin) : Prop :=
  Text.lowerAscii name = spelling f

mutual

/-- `Expression n ts e d`: `ts` is a sum of `n + 1` terms with tree `e`, nested `d` levels deep. -/
inductive Expression : Nat → List Token → Expr → Nat → Prop
  | first : Term n ts e d → Expression 0 ts e d
  | link : Expression n ts l d → SumOperator t op → Term k us r d' →
      Expression (n + 1) (ts ++ t :: us) (.binary op l r) (max d (n + 1 + d'))

inductive Term : Nat → List Token → Expr → Nat → Prop
  | first : Power ts e d → Term 0 ts e d
  | link : Term n ts l d → ProductOperator t op → Power us r d' →
      Term (n + 1) (ts ++ t :: us) (.binary op l r) (max d (n + 1 + d'))

inductive Power : List Token → Expr → Nat → Prop
  | base : Unary ts e d → Power ts e d
  | raised : Unary ts l d → Power us r d' →
      Power (ts ++ .operator .caret :: us) (.binary .pow l r) (max d (1 + d'))

inductive Unary : List Token → Expr → Nat → Prop
  | primary : Primary ts e d → Unary ts e d
  | plus : Unary ts e d → Unary (.operator .plus :: ts) e (1 + d)
  | minus : Unary ts e d → Unary (.operator .minus :: ts) (.negate e) (1 + d)

/--
No token that may follow a variable opens a parenthesis,
so a name before one is always that of a function.
-/
inductive Primary : List Token → Expr → Nat → Prop
  | number : Primary [.number x] (.number x) 0
  | var : (¬∃ f, Denotes name f) → Primary [.identifier name] (.var name) 0
  | parens : Expression n ts e d → Primary (.openParen :: (ts ++ [.closeParen])) e (1 + d)
  | call : Denotes name f → Arguments ts es d →
      Primary (.identifier name :: .openParen :: (ts ++ [.closeParen])) (.call f es) (1 + d)

inductive Arguments : List Token → List Expr → Nat → Prop
  | last : Expression n ts e d → Arguments ts [e] d
  | more : Expression n ts e d → Arguments us es d' →
      Arguments (ts ++ .comma :: us) (e :: es) (max d d')

end

def Derives (ts : List Token) (e : Expr) (d : Nat) : Prop :=
  ∃ n, Expression n ts e d

theorem sumOp?_eq_some_iff : sumOp? t = some op ↔ SumOperator t op := by
  constructor
  · intro h
    unfold sumOp? at h
    split at h <;> cases h
    · exact .plus
    · exact .minus
  · intro h
    cases h <;> rfl

theorem productOp?_eq_some_iff : productOp? t = some op ↔ ProductOperator t op := by
  constructor
  · intro h
    unfold productOp? at h
    split at h <;> cases h
    · exact .star
    · exact .slash
  · intro h
    cases h <;> rfl

theorem denotes_iff : Denotes name f ↔ Text.sameIgnoringCase f.name name = true := by
  have lower : Text.lowerAscii f.name = spelling f := by cases f <;> decide
  rw [Text.sameIgnoringCase, decide_eq_true_iff, lower, Denotes, eq_comm]

theorem Denotes.unique (h : Denotes name f) (h' : Denotes name f') : f = f' := by
  rw [Denotes] at h h'
  have same : spelling f = spelling f' := h.symm.trans h'
  revert same
  cases f <;> cases f' <;> decide

theorem lookup?_eq_none_iff : Builtin.lookup? name = none ↔ ¬∃ f, Denotes name f := by
  have all : ∀ f, f ∈ Builtin.all := by
    intro f
    cases f <;> decide
  rw [Builtin.lookup?, List.find?_eq_none, not_exists]
  exact ⟨fun h f denotes => h f (all f) (denotes_iff.1 denotes),
    fun h f _ same => h f (denotes_iff.2 same)⟩

theorem denotes_of_lookup? (h : Builtin.lookup? name = some f) : Denotes name f := by
  have same := List.find?_some h
  exact denotes_iff.2 same

theorem lookup?_eq_some_iff : Builtin.lookup? name = some f ↔ Denotes name f := by
  refine ⟨denotes_of_lookup?, fun h => ?_⟩
  cases found : Builtin.lookup? name with
  | none => exact absurd ⟨f, h⟩ (lookup?_eq_none_iff.1 found)
  | some f' => rw [(denotes_of_lookup? found).unique h]

/-- What holds of tokens and tree however the grammar puts them together, at whatever depth. -/
structure Compositional (P : List Token → Expr → Prop) (Q : List Token → List Expr → Prop) :
    Prop where
  number : ∀ x, P [.number x] (.number x)
  var : Builtin.lookup? name = none → P [.identifier name] (.var name)
  link : P ts l → P us r → P (ts ++ .operator o :: us) (.binary op l r)
  plus : P ts e → P (.operator .plus :: ts) e
  minus : P ts e → P (.operator .minus :: ts) (.negate e)
  parens : P ts e → P (.openParen :: (ts ++ [.closeParen])) e
  call : Builtin.lookup? name = some f → Q ts es →
    P (.identifier name :: .openParen :: (ts ++ [.closeParen])) (.call f es)
  last : P ts e → Q ts [e]
  more : P ts e → Q us es → Q (ts ++ .comma :: us) (e :: es)

theorem SumOperator.exists_operator (h : SumOperator t op) : ∃ o, t = .operator o := by
  cases h with
  | plus => exact ⟨.plus, rfl⟩
  | minus => exact ⟨.minus, rfl⟩

theorem ProductOperator.exists_operator (h : ProductOperator t op) : ∃ o, t = .operator o := by
  cases h with
  | star => exact ⟨.star, rfl⟩
  | slash => exact ⟨.slash, rfl⟩

namespace Compositional

variable {P : List Token → Expr → Prop} {Q : List Token → List Expr → Prop} (h : Compositional P Q)

include h

mutual

theorem expression : Expression n ts e d → P ts e
  | .first operand => term operand
  | .link left ht right => by
    obtain ⟨o, rfl⟩ := ht.exists_operator
    exact h.link (expression left) (term right)

theorem term : Term n ts e d → P ts e
  | .first operand => power operand
  | .link left ht right => by
    obtain ⟨o, rfl⟩ := ht.exists_operator
    exact h.link (term left) (power right)

theorem power : Power ts e d → P ts e
  | .base operand => unary operand
  | .raised base exponent => h.link (unary base) (power exponent)

theorem unary : Unary ts e d → P ts e
  | .primary operand => primary operand
  | .plus operand => h.plus (unary operand)
  | .minus operand => h.minus (unary operand)

theorem primary : Primary ts e d → P ts e
  | .number => h.number _
  | .var free => h.var (lookup?_eq_none_iff.2 free)
  | .parens inner => h.parens (expression inner)
  | .call function args => h.call (lookup?_eq_some_iff.2 function) (arguments args)

theorem arguments : Arguments ts es d → Q ts es
  | .last only => h.last (expression only)
  | .more first others => h.more (expression first) (arguments others)

end

end Compositional

theorem ne_nil_compositional : Compositional (fun ts _ => ts ≠ []) fun ts _ => ts ≠ [] where
  number _ := List.cons_ne_nil _ _
  var _ := List.cons_ne_nil _ _
  link _ _ := by simp
  plus _ := List.cons_ne_nil _ _
  minus _ := List.cons_ne_nil _ _
  parens _ := List.cons_ne_nil _ _
  call _ _ := List.cons_ne_nil _ _
  last h := h
  more _ _ := by simp

theorem Expression.ne_nil (h : Expression n ts e d) : ts ≠ [] :=
  ne_nil_compositional.expression h

theorem Unary.ne_nil (h : Unary ts e d) : ts ≠ [] :=
  ne_nil_compositional.unary h

theorem Term.links_le (h : Term n ts e d) : n ≤ d := by
  cases h with
  | first => exact Nat.zero_le _
  | link => omega

theorem Expression.links_le (h : Expression n ts e d) : n ≤ d := by
  cases h with
  | first => exact Nat.zero_le _
  | link => omega

end GameBalance.Formula.Grammar
