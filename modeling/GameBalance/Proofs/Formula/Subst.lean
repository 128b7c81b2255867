import GameBalance.Proofs.Formula.Image

namespace GameBalance.Formula

namespace Expr

def literal (x : Float) : Expr :=
  let size := .number (Double.ofMagnitude false (Double.magnitude x))
  if Double.isNegative x then .negate size else size

mutual

def subst (env : String → Option Float) : Expr → Expr
  | .number x => .number x
  | .var name => match env name with
    | some x => literal x
    | none => .var name
  | .negate e => .negate (e.subst env)
  | .binary op l r => .binary op (l.subst env) (r.subst env)
  | .call f args => .call f (substAll env args)

def substAll (env : String → Option Float) : List Expr → List Expr
  | [] => []
  | e :: es => e.subst env :: substAll env es

end

theorem eval_literal {x : Float} (h : x.isFinite = true) : (literal x).eval = .ok x := by
  have bound := Double.isFinite_iff.1 h
  have whole := Double.eq_ofMagnitude bound
  rw [literal]
  cases sign : Double.isNegative x with
  | true =>
    rw [sign] at whole
    rw [if_pos rfl, eval, evalIn, evalIn]
    change Except.ok (-_) = _
    rw [Double.neg_ofMagnitude bound, ← whole]
  | false =>
    rw [sign] at whole
    rw [if_neg Bool.false_ne_true, eval, evalIn, ← whole]

mutual

theorem eval_subst : (e : Expr) → (∀ n ∈ e.vars, ∀ x, env n = some x → x.isFinite = true) →
    (e.subst env).eval = e.evalIn env
  | .number x, _ => by rw [subst, eval, evalIn, evalIn]
  | .var name, finite => by
    rw [subst, evalIn]
    cases value : env name with
    | none => rw [eval, evalIn]
    | some x => rw [eval_literal (finite name (by simp [vars]) x value)]
  | .negate e, finite => by
    have operand : (e.subst env).eval = e.evalIn env := eval_subst e finite
    rw [eval] at operand
    rw [subst, eval, evalIn, evalIn, operand]
  | .binary op l r, finite => by
    have left : (l.subst env).eval = l.evalIn env :=
      eval_subst l fun n hn => finite n (by simp [vars, hn])
    have right : (r.subst env).eval = r.evalIn env :=
      eval_subst r fun n hn => finite n (by simp [vars, hn])
    rw [eval] at left right
    rw [subst, eval, evalIn, evalIn, left, right]
  | .call f args, finite => by
    have operands : evalAll (fun _ => none) (substAll env args) = evalAll env args :=
      evalAll_substAll args finite
    rw [subst, eval, evalIn, evalIn, operands]

theorem evalAll_substAll :
    (es : List Expr) → (∀ n ∈ varsAll es, ∀ x, env n = some x → x.isFinite = true) →
    evalAll (fun _ => none) (substAll env es) = evalAll env es
  | [], _ => by rw [substAll, evalAll, evalAll]
  | e :: es, finite => by
    have first : (e.subst env).eval = e.evalIn env :=
      eval_subst e fun n hn => finite n (by simp [varsAll, hn])
    have others : evalAll (fun _ => none) (substAll env es) = evalAll env es :=
      evalAll_substAll es fun n hn => finite n (by simp [varsAll, hn])
    rw [eval] at first
    rw [substAll, evalAll, evalAll, first, others]

end

/-- No variable of the tree has a value with a minus sign. -/
def Unsigned (env : String → Option Float) (names : List String) : Prop :=
  ∀ n ∈ names, ∀ x, env n = some x → Double.isNegative x = false

end Expr

open GameBalance.Formula.Expr

namespace Grammar

def CallsFree (env : String → Option Float) : Prop :=
  ∀ name f, Builtin.lookup? name = some f → env name = none

/-- What is `d` levels deep becomes `d'` deep, which is the same where no value has a minus sign. -/
structure Deepens (env : String → Option Float) (names : List String) (d d' : Nat) : Prop where
  le : d ≤ d'
  eq : Unsigned env names → d' = d

namespace Deepens

theorem refl (env : String → Option Float) (names : List String) (d : Nat) :
    Deepens env names d d :=
  ⟨Nat.le_refl d, fun _ => rfl⟩

theorem below (h : Deepens env names d d') : Deepens env names (1 + d) (1 + d') :=
  ⟨Nat.add_le_add_left h.le 1, fun unsigned => congrArg (1 + ·) (h.eq unsigned)⟩

theorem link {op : BinaryOp} (k : Nat) (left : Deepens env l.vars a a')
    (right : Deepens env r.vars b b') :
    Deepens env (Expr.binary op l r).vars (max a (k + b)) (max a' (k + b')) where
  le := by
    have := left.le
    have := right.le
    omega
  eq unsigned := by
    rw [left.eq fun n hn => unsigned n (by simp [vars, hn]),
      right.eq fun n hn => unsigned n (by simp [vars, hn])]

theorem cons (first : Deepens env e.vars a a') (others : Deepens env (varsAll es) b b') :
    Deepens env (varsAll (e :: es)) (max a b) (max a' b') where
  le := by
    have := first.le
    have := others.le
    omega
  eq unsigned := by
    rw [first.eq fun n hn => unsigned n (by simp [varsAll, hn]),
      others.eq fun n hn => unsigned n (by simp [varsAll, hn])]

end Deepens

theorem Unary.literal (x : Float) :
    ∃ d, Unary (literalTokens x) (Expr.literal x) d ∧ (Double.isNegative x = false → d = 0) := by
  rw [literalTokens, Expr.literal]
  cases sign : Double.isNegative x with
  | true => exact ⟨_, .minus (.primary .number), fun h => Bool.noConfusion h⟩
  | false => exact ⟨_, .primary .number, fun _ => rfl⟩

theorem flatMap_link (env : String → Option Float) (ts us : List Token) (ht : t.isOperand = false) :
    (ts ++ t :: us).flatMap (Token.image env) =
      ts.flatMap (Token.image env) ++ t :: us.flatMap (Token.image env) := by
  rw [List.flatMap_append, List.flatMap_cons, image_of_isOperand ht, List.singleton_append]

mutual

theorem Expression.subst (calls : CallsFree env) : Expression n ts e d →
    ∃ d', Expression n (ts.flatMap (Token.image env)) (e.subst env) d' ∧ Deepens env e.vars d d'
  | .first h => by
    obtain ⟨d', h', deep⟩ := h.subst calls
    exact ⟨d', .first h', deep⟩
  | @Expression.link n ts _ _ _ _ _ us _ _ h ht h' => by
    obtain ⟨a, hl, left⟩ := h.subst calls
    obtain ⟨b, hr, right⟩ := h'.subst calls
    rw [flatMap_link env ts us (isOperand_of_endsOperand ht.endsOperand), Expr.subst]
    exact ⟨_, .link hl ht hr, left.link (n + 1) right⟩

theorem Term.subst (calls : CallsFree env) : Term n ts e d →
    ∃ d', Term n (ts.flatMap (Token.image env)) (e.subst env) d' ∧ Deepens env e.vars d d'
  | .first h => by
    obtain ⟨d', h', deep⟩ := h.subst calls
    exact ⟨d', .first h', deep⟩
  | @Term.link n ts _ _ _ _ us _ _ h ht h' => by
    obtain ⟨a, hl, left⟩ := h.subst calls
    obtain ⟨b, hr, right⟩ := h'.subst calls
    rw [flatMap_link env ts us (isOperand_of_endsOperand ht.endsOperand), Expr.subst]
    exact ⟨_, .link hl ht hr, left.link (n + 1) right⟩

theorem Power.subst (calls : CallsFree env) : Power ts e d →
    ∃ d', Power (ts.flatMap (Token.image env)) (e.subst env) d' ∧ Deepens env e.vars d d'
  | .base h => by
    obtain ⟨d', h', deep⟩ := h.subst calls
    exact ⟨d', .base h', deep⟩
  | @Power.raised ts _ _ us _ _ h h' => by
    obtain ⟨a, hl, left⟩ := h.subst calls
    obtain ⟨b, hr, right⟩ := h'.subst calls
    rw [flatMap_link env ts us rfl, Expr.subst]
    exact ⟨_, .raised hl hr, left.link 1 right⟩

theorem Unary.subst (calls : CallsFree env) : Unary ts e d →
    ∃ d', Unary (ts.flatMap (Token.image env)) (e.subst env) d' ∧ Deepens env e.vars d d'
  | .primary h => h.subst calls
  | .plus h => by
    obtain ⟨d', h', deep⟩ := h.subst calls
    exact ⟨1 + d', .plus h', deep.below⟩
  | .minus h => by
    obtain ⟨d', h', deep⟩ := h.subst calls
    exact ⟨1 + d', .minus h', deep.below⟩

theorem Primary.subst (calls : CallsFree env) : Primary ts e d →
    ∃ d', Unary (ts.flatMap (Token.image env)) (e.subst env) d' ∧ Deepens env e.vars d d'
  | .number => ⟨0, .primary .number, .refl ..⟩
  | @Primary.var name h => by
    rw [List.flatMap_singleton, Token.image, Expr.subst]
    cases value : env name with
    | none => exact ⟨0, .primary (.var h), .refl ..⟩
    | some x =>
      obtain ⟨d', h', eq⟩ := Unary.literal x
      exact ⟨d', h', Nat.zero_le d', fun unsigned => eq (unsigned name (by simp [vars]) x value)⟩
  | @Primary.parens _ ts _ _ h => by
    obtain ⟨d', h', deep⟩ := h.subst calls
    rw [List.flatMap_cons, flatMap_link env ts [] rfl]
    exact ⟨1 + d', .primary (.parens h'), deep.below⟩
  | @Primary.call name f ts _ _ hf h => by
    obtain ⟨d', h', deep⟩ := h.subst calls
    rw [List.flatMap_cons, List.flatMap_cons, flatMap_link env ts [] rfl, Token.image,
      calls name f (lookup?_eq_some_iff.2 hf)]
    exact ⟨1 + d', .primary (.call hf h'), deep.below⟩

theorem Arguments.subst (calls : CallsFree env) : Arguments ts es d →
    ∃ d', Arguments (ts.flatMap (Token.image env)) (substAll env es) d' ∧
    Deepens env (varsAll es) d d'
  | .last h => by
    obtain ⟨d', h', deep⟩ := h.subst calls
    exact ⟨d', .last h', deep.le,
      fun unsigned => deep.eq fun n hn => unsigned n (by simp [varsAll, hn])⟩
  | @Arguments.more _ ts _ _ us _ _ h h' => by
    obtain ⟨a, first, deep⟩ := h.subst calls
    obtain ⟨b, others, deep'⟩ := h'.subst calls
    rw [flatMap_link env ts us rfl, substAll]
    exact ⟨_, .more first others, deep.cons deep'⟩

end

end Grammar

end GameBalance.Formula
