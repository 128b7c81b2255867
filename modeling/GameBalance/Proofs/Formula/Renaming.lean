import GameBalance.Formula.Evaluation

namespace GameBalance.Formula

def Token.rename (ρ : String → String) : Token → Token
  | .identifier name => .identifier (ρ name)
  | t => t

theorem Token.eq_or_identifier_of_rename {ρ : String → String} {t u : Token}
    (h : t.rename ρ = u.rename ρ) :
    t = u ∨ ∃ m n, t = .identifier m ∧ u = .identifier n ∧ ρ m = ρ n := by
  cases t with
  | identifier m =>
    cases u with
    | identifier n => exact .inr ⟨m, n, rfl, rfl, Token.identifier.inj h⟩
    | _ => cases h
  | _ =>
    cases u with
    | identifier => cases h
    | _ => exact .inl h

theorem Token.rename_id (t : Token) : t.rename id = t := by
  cases t <;> rfl

namespace Expr

mutual

def rename (ρ : String → String) : Expr → Expr
  | .number x => .number x
  | .var name => .var (ρ name)
  | .negate e => .negate (e.rename ρ)
  | .binary op l r => .binary op (l.rename ρ) (r.rename ρ)
  | .call f args => .call f (renameAll ρ args)

def renameAll (ρ : String → String) : List Expr → List Expr
  | [] => []
  | e :: es => e.rename ρ :: renameAll ρ es

end

end Expr

def ParseError.rename (ρ : String → String) : ParseError → ParseError
  | .unknownFunction name p => .unknownFunction (ρ name) p
  | .functionWithoutCall name p => .functionWithoutCall (ρ name) p
  | .unexpectedToken t p => .unexpectedToken (t.rename ρ) p
  | e => e

theorem ParseError.rename_id (e : ParseError) : e.rename id = e := by
  cases e with
  | unexpectedToken t => rw [rename, t.rename_id]
  | _ => rfl

def EvalError.rename (ρ : String → String) : EvalError → EvalError
  | .parse e => .parse (e.rename ρ)
  | .unresolvedVariable name => .unresolvedVariable (ρ name)
  | e => e

theorem mapError_bind (r : Except ε α) (f : α → Except ε β) (g : ε → ε') :
    (r >>= f).mapError g = r.mapError g >>= fun a => (f a).mapError g := by
  cases r <;> rfl

@[simp] theorem mapError_ok (a : α) (g : ε → ε') : (Except.ok a).mapError g = .ok a :=
  rfl

variable {ρ : String → String}

theorem BinaryOp.mapError_apply (op : BinaryOp) (x y : Float) :
    (op.apply x y).mapError (EvalError.rename ρ) = op.apply x y := by
  cases op with
  | div =>
    rw [apply]
    split <;> rfl
  | _ => rfl

theorem Builtin.mapError_apply (f : Builtin) (xs : List Float) :
    (f.apply xs).mapError (EvalError.rename ρ) = f.apply xs := by
  cases xs <;> rfl

namespace Expr

mutual

theorem evalIn_rename : (e : Expr) →
    (e.rename ρ).evalIn (fun _ => none) = (e.evalIn fun _ => none).mapError (EvalError.rename ρ)
  | .number x => by rw [rename, evalIn, mapError_ok]
  | .var name => by
    rw [rename, evalIn, evalIn]
    rfl
  | .negate e => by
    rw [rename, evalIn, evalIn, mapError_bind, evalIn_rename e]
    rfl
  | .binary op l r => by
    rw [rename, evalIn, evalIn, mapError_bind, evalIn_rename l]
    simp only [mapError_bind, evalIn_rename r, BinaryOp.mapError_apply]
  | .call f args => by
    rw [rename, evalIn, evalIn, mapError_bind, evalAll_renameAll args]
    simp only [Builtin.mapError_apply]

theorem evalAll_renameAll : (es : List Expr) →
    evalAll (fun _ => none) (renameAll ρ es) =
      (evalAll (fun _ => none) es).mapError (EvalError.rename ρ)
  | [] => by rw [renameAll, evalAll, mapError_ok]
  | e :: es => by
    rw [renameAll, evalAll, evalAll, mapError_bind, evalIn_rename e]
    simp only [mapError_bind, evalAll_renameAll es]
    rfl

end

theorem eval_rename (e : Expr) : (e.rename ρ).eval = e.eval.mapError (EvalError.rename ρ) :=
  evalIn_rename e

end Expr

end GameBalance.Formula
