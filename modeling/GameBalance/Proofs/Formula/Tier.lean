import GameBalance.Proofs.Formula.Answer

/-!
Sums of terms and products of powers are chains of one shape, read in one way. What holds of the
readers of either is proved of a tier.
-/

namespace GameBalance.Formula.Grammar

/-- A part of the grammar where operands stand in a chain, with the readers that go along it. -/
structure Tier where
  kind : Token → Option BinaryOp
  Operand : List Token → Expr → Nat → Prop
  /-- One operand more than the number says. -/
  Chain : Nat → List Token → Expr → Nat → Prop
  readOperand : State → Except ParseError (Expr × State)
  /-- What follows the links before it. -/
  readLinks : Expr → State → Except ParseError (Expr × State)
  first : Operand ts e d → Chain 0 ts e d
  link : Chain n ts l d → kind t = some op → Operand us r d' →
    Chain (n + 1) (ts ++ t :: us) (.binary op l r) (max d (n + 1 + d'))
  readOperand_lt : readOperand s = .ok (e, s') → s'.rest.length < s.rest.length
  readLinks_eq : ∀ left s, readLinks left s =
    match nextOperator? kind s with
    | none => .ok (left, s)
    | some (op, s₁) => do
      let s₂ ← s₁.enter
      let (right, s₃) ← readOperand s₂
      readLinks (.binary op left right) s₃

theorem length_lt_of_taken {r : Except ParseError (Taken α s)}
    (h : r.map Taken.answer = .ok (a, t)) :
    t.rest.length < s.rest.length := by
  cases r with
  | error => cases h
  | ok r =>
    cases h
    exact r.length_lt

def sumTier : Tier where
  kind := sumOp?
  Operand ts e d := ∃ n, Term n ts e d
  Chain := Expression
  readOperand := readTerm
  readLinks := readSums
  first := fun ⟨_, term⟩ => .first term
  link := fun before operator ⟨_, term⟩ => .link before (sumOp?_eq_some_iff.1 operator) term
  readOperand_lt := length_lt_of_taken
  readLinks_eq := readSums_eq

def productTier : Tier where
  kind := productOp?
  Operand := Power
  Chain := Term
  readOperand := readPower
  readLinks := readProducts
  first := .first
  link := fun before operator power => .link before (productOp?_eq_some_iff.1 operator) power
  readOperand_lt := length_lt_of_taken
  readLinks_eq := readProducts_eq

namespace Tier

variable (tier : Tier)

def readChain (s : State) : Except ParseError (Expr × State) :=
  tier.readOperand s >>= fun r => tier.readLinks r.1 r.2

def read (s : State) : Except ParseError (Expr × State) :=
  (tier.readChain s).map fun r => (r.1, { r.2 with depth := s.depth })

theorem readLinks_none {tier : Tier} (h : nextOperator? tier.kind s = none) :
    tier.readLinks e s = .ok (e, s) := by
  rw [tier.readLinks_eq, h]

theorem readLinks_some {tier : Tier} (h : nextOperator? tier.kind s = some (op, s₁)) :
    tier.readLinks e s = s₁.enter >>= fun s₂ => tier.readOperand s₂ >>= fun r =>
      tier.readLinks (.binary op e r.1) r.2 := by
  rw [tier.readLinks_eq, h]

end Tier

theorem sumTier_read : sumTier.read = readExpression :=
  funext fun s => (readExpression_eq s).symm

theorem productTier_read : productTier.read = readTerm :=
  funext fun s => (readTerm_eq s).symm

end GameBalance.Formula.Grammar
