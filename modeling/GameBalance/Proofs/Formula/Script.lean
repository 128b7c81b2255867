import GameBalance.Proofs.Formula.Answer

namespace GameBalance.Formula.Grammar

inductive Call
  | expression
  | sums (left : Expr)
  | term
  | products (left : Expr)
  | power
  | unary
  | primary
  | identifier (name : String) (start : Nat)
  | arguments
  | moreArguments

abbrev Call.Value : Call → Type
  | .arguments | .moreArguments => List Expr
  | _ => Expr

def Call.read : (c : Call) → State → Except ParseError (c.Value × State)
  | .expression => readExpression
  | .sums left => readSums left
  | .term => readTerm
  | .products left => readProducts left
  | .power => readPower
  | .unary => readUnary
  | .primary => readPrimary
  | .identifier name start => readIdentifier name start
  | .arguments => readArguments
  | .moreArguments => readMoreArguments

inductive Script (α : Type)
  | fail (e : ParseError)
  | answer (a : α) (s : State)
  | move (s : State) (next : Script α)
  | ask (c : Call) (s : State) (next : c.Value → State → Script α)

def Script.attempt (s : State) (r : Except ParseError State) (next : State → Script α) : Script α :=
  .move s (match r with
    | .ok s' => next s'
    | .error e => .fail e)

def Call.script : (c : Call) → State → Script c.Value
  | .expression, s =>
    .ask .term s fun first s₁ =>
    .ask (.sums first) s₁ fun e s₂ =>
    .answer e { s₂ with depth := s.depth }
  | .sums left, s =>
    match nextOperator? sumOp? s with
    | none => .answer left s
    | some (op, s₁) =>
      .attempt s₁ s₁.enter fun s₂ =>
      .ask .term s₂ fun right s₃ =>
      .ask (.sums (.binary op left right)) s₃ .answer
  | .term, s =>
    .ask .power s fun first s₁ =>
    .ask (.products first) s₁ fun e s₂ =>
    .answer e { s₂ with depth := s.depth }
  | .products left, s =>
    match nextOperator? productOp? s with
    | none => .answer left s
    | some (op, s₁) =>
      .attempt s₁ s₁.enter fun s₂ =>
      .ask .power s₂ fun right s₃ =>
      .ask (.products (.binary op left right)) s₃ .answer
  | .power, s =>
    .ask .unary s fun base s₁ =>
    match nextOperator? caretOp? s₁ with
    | none => .answer base s₁
    | some (op, s₂) =>
      .attempt s₂ s₂.enter fun s₃ =>
      .ask .power s₃ fun exponent s₄ =>
      .answer (.binary op base exponent) s₄.leave
  | .unary, s =>
    match nextOperator? sumOp? s with
    | none => .ask .primary s .answer
    | some (op, s₁) =>
      .attempt s₁ s₁.enter fun s₂ =>
      .ask .unary s₂ fun e s₃ =>
      .answer (if op = .sub then .negate e else e) s₃.leave
  | .primary, s =>
    match s.rest with
    | [] => .fail .unexpectedEnd
    | .number x :: rest => .answer (.number x) (s.past rest)
    | .identifier name :: rest => .ask (.identifier name s.position) (s.past rest) .answer
    | .openParen :: rest =>
      .attempt (s.past rest) (s.past rest).enter fun s₁ =>
      .ask .expression s₁ fun e s₂ =>
      .attempt s₂.leave (readClose s₂.leave) fun s₃ =>
      .answer e s₃
    | token :: rest => .move (s.past rest) (.fail (.unexpectedToken token s.position))
  | .identifier name start, s =>
    match s.rest with
    | .openParen :: rest =>
      match Builtin.lookup? name with
      | none => .move (s.past rest) (.fail (.unknownFunction name start))
      | some function =>
        .attempt (s.past rest) (s.past rest).enter fun s₁ =>
        .ask .arguments s₁ fun args s₂ =>
        .attempt s₂.leave (readClose s₂.leave) fun s₃ =>
        .answer (.call function args) s₃
    | _ =>
      if Builtin.isName name then .fail (.functionWithoutCall name start) else .answer (.var name) s
  | .arguments, s =>
    .ask .expression s fun first s₁ =>
    .ask .moreArguments s₁ fun others s₂ =>
    .answer (first :: others) s₂
  | .moreArguments, s =>
    match s.rest with
    | .comma :: rest =>
      .ask .expression (s.past rest) fun e s₁ =>
      .ask .moreArguments s₁ fun others s₂ =>
      .answer (e :: others) s₂
    | _ => .answer [] s

namespace Script

def run : Script α → Except ParseError (α × State)
  | .fail e => .error e
  | .answer a s => .ok (a, s)
  | .move _ next => next.run
  | .ask c s next => c.read s >>= fun r => (next r.1 r.2).run

theorem run_attempt (s : State) (r : Except ParseError State) (next : State → Script α) :
    (attempt s r next).run = r >>= fun s' => (next s').run := by
  cases r <;> rfl

theorem run_ask_answer (c : Call) (s : State) : (ask c s .answer).run = c.read s := by
  rw [run]
  cases c.read s <;> rfl

theorem run_enclosed (c : Call) (s : State) (value : c.Value → α) :
    (attempt s s.enter fun s₁ => ask c s₁ fun a s₂ =>
      attempt s₂.leave (readClose s₂.leave) fun s₃ => answer (value a) s₃).run = (do
    let s₁ ← s.enter
    let (a, s₂) ← c.read s₁
    let s₃ ← readClose s₂.leave
    return (value a, s₃)) := by
  rw [run_attempt]
  exact bind_congr fun s₁ => bind_congr fun r => run_attempt _ _ _

end Script

theorem readPrimary_eq_run (s : State) : readPrimary s = (Call.primary.script s).run := by
  rw [readPrimary_eq, Call.script]
  cases s.rest with
  | nil => rfl
  | cons t rest =>
    cases t with
    | identifier name =>
      exact (Script.run_ask_answer (.identifier name s.position) (s.past rest)).symm
    | openParen => exact (Script.run_enclosed .expression (s.past rest) id).symm
    | number | operator | closeParen | comma => rfl

theorem readIdentifier_eq_run (name : String) (start : Nat) (s : State) :
    readIdentifier name start s = ((Call.identifier name start).script s).run := by
  rw [readIdentifier_eq, Call.script]
  cases s.rest with
  | nil =>
    dsimp only
    split <;> rfl
  | cons t rest =>
    cases t with
    | openParen =>
      dsimp only
      cases Builtin.lookup? name with
      | none => rfl
      | some f => exact (Script.run_enclosed .arguments (s.past rest) (Expr.call f)).symm
    | identifier | number | operator | closeParen | comma =>
      dsimp only
      split <;> rfl

theorem Call.read_eq_run (c : Call) (s : State) : c.read s = (c.script s).run := by
  cases c with
  | expression =>
    rw [read, readExpression_eq, readSumChain, script, Script.run, read]
    cases readTerm s with
    | error => rfl
    | ok r =>
      change (readSums r.1 r.2).map _ = readSums r.1 r.2 >>= _
      cases readSums r.1 r.2 <;> rfl
  | term =>
    rw [read, readTerm_eq, readProductChain, script, Script.run, read]
    cases readPower s with
    | error => rfl
    | ok r =>
      change (readProducts r.1 r.2).map _ = readProducts r.1 r.2 >>= _
      cases readProducts r.1 r.2 <;> rfl
  | sums left =>
    rw [read, readSums_eq, script]
    cases nextOperator? sumOp? s with
    | none => rfl
    | some r =>
      dsimp only
      rw [Script.run_attempt]
      refine bind_congr fun s₂ => bind_congr fun r => ?_
      exact (Script.run_ask_answer (.sums _) _).symm
  | products left =>
    rw [read, readProducts_eq, script]
    cases nextOperator? productOp? s with
    | none => rfl
    | some r =>
      dsimp only
      rw [Script.run_attempt]
      refine bind_congr fun s₂ => bind_congr fun r => ?_
      exact (Script.run_ask_answer (.products _) _).symm
  | power =>
    rw [read, readPower_eq, script]
    refine bind_congr fun r => ?_
    dsimp only
    cases nextOperator? caretOp? r.2 with
    | none => rfl
    | some r =>
      dsimp only
      rw [Script.run_attempt]
      rfl
  | unary =>
    rw [read, readUnary_eq, script]
    cases nextOperator? sumOp? s with
    | none => exact (Script.run_ask_answer .primary s).symm
    | some r =>
      dsimp only
      rw [Script.run_attempt]
      rfl
  | primary => exact readPrimary_eq_run s
  | identifier name start => exact readIdentifier_eq_run name start s
  | arguments =>
    rw [read, readArguments_eq, script]
    rfl
  | moreArguments =>
    rw [read, readMoreArguments_eq, script]
    cases s.rest with
    | nil => rfl
    | cons t rest => cases t <;> rfl

mutual

/--
From `s` on, the reader `c` and those that it asks
pass through the states `log`, and `r` comes of it.
-/
inductive Call.Trace : (c : Call) → State → List State → Except ParseError (c.Value × State) → Prop
  | body {c : Call} {r : Except ParseError (c.Value × State)} :
      Script.Trace (c.script s) log r → Call.Trace c s (s :: log) r

inductive Script.Trace : {α : Type} → Script α → List State → Except ParseError (α × State) → Prop
  | fail : Script.Trace (.fail e) [] (.error e)
  | answer : Script.Trace (.answer a s) [s] (.ok (a, s))
  | move {next : Script α} : Script.Trace next log r → Script.Trace (.move s next) (s :: log) r
  | refused {c : Call} {next : c.Value → State → Script α} : Call.Trace c s log (.error e) →
      Script.Trace (.ask c s next) log (.error e)
  | asked {c : Call} {a : c.Value} {next : c.Value → State → Script α} :
      Call.Trace c s log (.ok (a, s')) →
      Script.Trace (next a s') log' r → Script.Trace (.ask c s next) (log ++ log') r

end

inductive Script.Asks : {α : Type} → Script α → Call → State → Prop
  | here {c : Call} {next : c.Value → State → Script α} : Script.Asks (.ask c s next) c s
  | move {next : Script α} : Script.Asks next c s → Script.Asks (.move s' next) c s
  | later {c : Call} {a : c.Value} {next : c.Value → State → Script α} : c.read s = .ok (a, s') →
      Script.Asks (next a s') c' s'' → Script.Asks (.ask c s next) c' s''

mutual

theorem Call.Trace.result {c : Call} {r : Except ParseError (c.Value × State)} :
    c.Trace s log r → r = c.read s
  | .body h => h.result.trans (c.read_eq_run _).symm

theorem Script.Trace.result {p : Script α} {r : Except ParseError (α × State)} :
    p.Trace log r → r = p.run
  | .fail => rfl
  | .answer => rfl
  | .move h => h.result
  | .refused h => by
    rw [Script.run, ← h.result]
    rfl
  | .asked h h' => by
    rw [Script.run, ← h.result]
    exact h'.result

end

mutual

theorem Call.Trace.unique {c : Call} {r r' : Except ParseError (c.Value × State)} :
    c.Trace s log r → c.Trace s log' r' → log = log'
  | .body h, .body h' => congrArg _ (h.unique h')

theorem Script.Trace.unique {p : Script α} {r r' : Except ParseError (α × State)} :
    p.Trace log r → p.Trace log' r' → log = log'
  | .fail, .fail => rfl
  | .answer, .answer => rfl
  | .move h, .move h' => congrArg _ (h.unique h')
  | .refused h, .refused h' => h.unique h'
  | .refused h, .asked h' _ => nomatch h.result.trans h'.result.symm
  | .asked h _, .refused h' => nomatch h.result.trans h'.result.symm
  | .asked h k, .asked h' k' => by
    obtain ⟨⟩ := h.result.trans h'.result.symm
    rw [h.unique h', k.unique k']

end

end GameBalance.Formula.Grammar
