import GameBalance.Formula.Expr
import GameBalance.Formula.Token

/-!
Reading a token list as a tree, by recursive descent from the loosest binding to the tightest:

    expression := term (('+' | '-') term)*
    term       := power (('*' | '/') power)*
    power      := unary ('^' power)?
    unary      := ('+' | '-') unary | primary
    primary    := number | name | function '(' arguments ')' | '(' expression ')'
    arguments  := expression (',' expression)*

Every parenthesis, call, sign and right side of `^` goes one level deeper, and so does each further
link of a chain of `+` and `-` or of `*` and `/`. No formula may go deeper than `maxDepth`.
-/

namespace GameBalance.Formula

def maxDepth : Nat := 256

/-- Positions count tokens. -/
inductive ParseError
  | empty
  | unknownFunction (name : String) (position : Nat)
  | functionWithoutCall (name : String) (position : Nat)
  | missingCloseParen (position : Nat)
  | unexpectedToken (found : Token) (position : Nat)
  | unexpectedEnd
  | tooDeep (position : Nat)

def ParseError.message : ParseError → String
  | .empty => "Empty expression"
  | .unknownFunction name _ => "Unknown function: " ++ name
  | .functionWithoutCall name _ => "Function '" ++ name ++ "' must be called with arguments"
  | .missingCloseParen position => "Expected ')' at token " ++ toString position
  | .unexpectedToken found position =>
    "Unexpected token " ++ found.describe ++ " at token " ++ toString position
  | .unexpectedEnd => "Unexpected end of expression"
  | .tooDeep position => "Expression nested too deeply at token " ++ toString position

namespace Grammar

structure State where
  rest : List Token
  position : Nat
  depth : Nat

namespace State

def start (tokens : List Token) : State :=
  ⟨tokens, 0, 0⟩

def past (s : State) (rest : List Token) : State :=
  { s with rest, position := s.position + 1 }

/--
Counts the level first; a state that then is too deep is given up, with no reader run from it.
-/
def enter (s : State) : Except ParseError State :=
  let inside := { s with depth := s.depth + 1 }
  if inside.depth ≤ maxDepth then .ok inside else .error (.tooDeep inside.position)

def leave (s : State) : State :=
  { s with depth := s.depth - 1 }

theorem rest_of_enter {s t : State} (h : s.enter = .ok t) : t.rest = s.rest := by
  rw [enter] at h
  split at h <;> cases h
  rfl

end State

/-- What a reader returns that may stay where it is. -/
structure Kept (α : Type) (s : State) where
  value : α
  state : State
  length_le : state.rest.length ≤ s.rest.length

/-- What a reader returns that takes at least one token. -/
structure Taken (α : Type) (s : State) where
  value : α
  state : State
  length_lt : state.rest.length < s.rest.length

def sumOp? : Token → Option BinaryOp
  | .operator .plus => some .add
  | .operator .minus => some .sub
  | _ => none

def productOp? : Token → Option BinaryOp
  | .operator .star => some .mul
  | .operator .slash => some .div
  | _ => none

def caretOp? : Token → Option BinaryOp
  | .operator .caret => some .pow
  | _ => none

def operator? (kind : Token → Option BinaryOp) (s : State) : Option (Taken BinaryOp s) :=
  match h : s.rest with
  | [] => none
  | token :: rest => (kind token).map fun op => ⟨op, s.past rest, by simp [State.past, h]⟩

def deeper (s : State) : Except ParseError (Kept Unit s) :=
  match h : s.enter with
  | .ok t => .ok ⟨(), t, by simp [State.rest_of_enter h]⟩
  | .error e => .error e

def closeParen (s : State) : Except ParseError (Taken Unit s) :=
  match h : s.rest with
  | .closeParen :: rest => .ok ⟨(), s.past rest, by simp [State.past, h]⟩
  | _ => .error (.missingCloseParen s.position)

mutual

def expression (s : State) : Except ParseError (Taken Expr s) := do
  let ⟨first, s₁, _⟩ ← term s
  let ⟨e, s₂, _⟩ ← sums first s₁
  return ⟨e, { s₂ with depth := s.depth }, by simp only; omega⟩
termination_by 6 * s.rest.length + 4

def sums (left : Expr) (s : State) : Except ParseError (Kept Expr s) :=
  match operator? sumOp? s with
  | none => .ok ⟨left, s, Nat.le_refl _⟩
  | some ⟨op, s₁, _⟩ => do
    let ⟨_, s₂, _⟩ ← deeper s₁
    let ⟨right, s₃, _⟩ ← term s₂
    let ⟨e, s₄, _⟩ ← sums (.binary op left right) s₃
    return ⟨e, s₄, by omega⟩
termination_by 6 * s.rest.length

def term (s : State) : Except ParseError (Taken Expr s) := do
  let ⟨first, s₁, _⟩ ← power s
  let ⟨e, s₂, _⟩ ← products first s₁
  return ⟨e, { s₂ with depth := s.depth }, by simp only; omega⟩
termination_by 6 * s.rest.length + 3

def products (left : Expr) (s : State) : Except ParseError (Kept Expr s) :=
  match operator? productOp? s with
  | none => .ok ⟨left, s, Nat.le_refl _⟩
  | some ⟨op, s₁, _⟩ => do
    let ⟨_, s₂, _⟩ ← deeper s₁
    let ⟨right, s₃, _⟩ ← power s₂
    let ⟨e, s₄, _⟩ ← products (.binary op left right) s₃
    return ⟨e, s₄, by omega⟩
termination_by 6 * s.rest.length

def power (s : State) : Except ParseError (Taken Expr s) := do
  let ⟨base, s₁, _⟩ ← unary s
  match operator? caretOp? s₁ with
  | none => return ⟨base, s₁, by omega⟩
  | some ⟨op, s₂, _⟩ =>
    let ⟨_, s₃, _⟩ ← deeper s₂
    let ⟨exponent, s₄, _⟩ ← power s₃
    return ⟨.binary op base exponent, s₄.leave, by simp only [State.leave]; omega⟩
termination_by 6 * s.rest.length + 2

def unary (s : State) : Except ParseError (Taken Expr s) :=
  match operator? sumOp? s with
  | none => primary s
  | some ⟨op, s₁, _⟩ => do
    let ⟨_, s₂, _⟩ ← deeper s₁
    let ⟨e, s₃, _⟩ ← unary s₂
    return ⟨if op = .sub then .negate e else e, s₃.leave, by simp only [State.leave]; omega⟩
termination_by 6 * s.rest.length + 1

def primary (s : State) : Except ParseError (Taken Expr s) :=
  match h : s.rest with
  | [] => .error .unexpectedEnd
  | .number x :: rest => .ok ⟨.number x, s.past rest, by simp [State.past, h]⟩
  | .identifier name :: rest => do
    have : (s.past rest).rest.length < s.rest.length := by simp [State.past, h]
    let ⟨e, s₁, _⟩ ← identifier name s.position (s.past rest)
    return ⟨e, s₁, by omega⟩
  | .openParen :: rest => do
    have : (s.past rest).rest.length < s.rest.length := by simp [State.past, h]
    let ⟨_, s₁, _⟩ ← deeper (s.past rest)
    let ⟨e, s₂, _⟩ ← expression s₁
    let ⟨_, s₃, _⟩ ← closeParen s₂.leave
    return ⟨e, s₃, by simp only [State.leave] at *; omega⟩
  | token :: _ => .error (.unexpectedToken token s.position)
termination_by 6 * s.rest.length

def identifier (name : String) (start : Nat) (s : State) : Except ParseError (Kept Expr s) :=
  match h : s.rest with
  | .openParen :: rest =>
    match Builtin.lookup? name with
    | none => .error (.unknownFunction name start)
    | some function => do
      have : (s.past rest).rest.length < s.rest.length := by simp [State.past, h]
      let ⟨_, s₁, _⟩ ← deeper (s.past rest)
      let ⟨args, s₂, _⟩ ← arguments s₁
      let ⟨_, s₃, _⟩ ← closeParen s₂.leave
      return ⟨.call function args, s₃, by simp only [State.leave] at *; omega⟩
  | _ =>
    if Builtin.isName name then .error (.functionWithoutCall name start)
    else .ok ⟨.var name, s, Nat.le_refl _⟩
termination_by 6 * s.rest.length

def arguments (s : State) : Except ParseError (Taken (List Expr) s) := do
  let ⟨first, s₁, _⟩ ← expression s
  let ⟨others, s₂, _⟩ ← moreArguments s₁
  return ⟨first :: others, s₂, by omega⟩
termination_by 6 * s.rest.length + 5

def moreArguments (s : State) : Except ParseError (Kept (List Expr) s) :=
  match h : s.rest with
  | .comma :: rest => do
    have : (s.past rest).rest.length < s.rest.length := by simp [State.past, h]
    let ⟨e, s₁, _⟩ ← expression (s.past rest)
    let ⟨others, s₂, _⟩ ← moreArguments s₁
    return ⟨e :: others, s₂, by omega⟩
  | _ => .ok ⟨[], s, Nat.le_refl _⟩
termination_by 6 * s.rest.length

end

end Grammar

def parse : List Token → Except ParseError Expr
  | [] => .error .empty
  | tokens => do
    let ⟨e, s, _⟩ ← Grammar.expression (.start tokens)
    match s.rest with
    | [] => .ok e
    | token :: _ => .error (.unexpectedToken token s.position)

end GameBalance.Formula
