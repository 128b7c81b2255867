import GameBalance.Proofs.Formula.Derivation

namespace GameBalance.Formula.Grammar

def Taken.answer (r : Taken α s) : α × State :=
  (r.value, r.state)

def Kept.answer (r : Kept α s) : α × State :=
  (r.value, r.state)

def readExpression (s : State) : Except ParseError (Expr × State) :=
  (expression s).map Taken.answer

def readSums (left : Expr) (s : State) : Except ParseError (Expr × State) :=
  (sums left s).map Kept.answer

def readTerm (s : State) : Except ParseError (Expr × State) :=
  (term s).map Taken.answer

def readProducts (left : Expr) (s : State) : Except ParseError (Expr × State) :=
  (products left s).map Kept.answer

def readPower (s : State) : Except ParseError (Expr × State) :=
  (power s).map Taken.answer

def readUnary (s : State) : Except ParseError (Expr × State) :=
  (unary s).map Taken.answer

def readPrimary (s : State) : Except ParseError (Expr × State) :=
  (primary s).map Taken.answer

def readIdentifier (name : String) (start : Nat) (s : State) : Except ParseError (Expr × State) :=
  (identifier name start s).map Kept.answer

def readArguments (s : State) : Except ParseError (List Expr × State) :=
  (arguments s).map Taken.answer

def readMoreArguments (s : State) : Except ParseError (List Expr × State) :=
  (moreArguments s).map Kept.answer

def nextOperator? (kind : Token → Option BinaryOp) (s : State) : Option (BinaryOp × State) :=
  match s.rest with
  | [] => none
  | t :: rest => (kind t).map fun op => (op, s.past rest)

def readClose (s : State) : Except ParseError State :=
  match s.rest with
  | .closeParen :: rest => .ok (s.past rest)
  | _ => .error (.missingCloseParen s.position)

theorem operator?_answer (kind : Token → Option BinaryOp) (s : State) :
    (operator? kind s).map Taken.answer = nextOperator? kind s := by
  unfold operator? nextOperator?
  split
  · rename_i h
    simp [h]
  · rename_i t rest h
    simp only [h, Option.map_map]
    rfl

theorem deeper_answer (s : State) : (deeper s).map (fun r => r.state) = s.enter := by
  unfold deeper
  split
  · rename_i h
    simp [h, Except.map]
  · rename_i h
    simp [h, Except.map]

theorem closeParen_answer (s : State) : (closeParen s).map (fun r => r.state) = readClose s := by
  unfold closeParen readClose
  split
  · rename_i h
    simp [h, Except.map]
  · rename_i h
    split
    · rename_i h'
      exact absurd h' (h _)
    · rfl

def readSumChain (s : State) : Except ParseError (Expr × State) :=
  readTerm s >>= fun r => readSums r.1 r.2

theorem readExpression_eq (s : State) :
    readExpression s = (readSumChain s).map fun r => (r.1, { r.2 with depth := s.depth }) := by
  unfold readExpression readSumChain readTerm readSums
  rw [expression]
  cases term s with
  | error => rfl
  | ok r =>
    simp only [bind, Except.bind, Except.map, Taken.answer]
    cases sums r.value r.state <;> rfl

theorem links_answer (kind : Token → Option BinaryOp)
    (operand : ∀ s, Except ParseError (Taken Expr s))
    (links : Expr → ∀ s, Except ParseError (Kept Expr s)) (left : Expr) (s : State) :
    (match operator? kind s with
    | none => .ok ⟨left, s, Nat.le_refl _⟩
    | some ⟨op, s₁, lt⟩ => do
      let ⟨_, s₂, le⟩ ← deeper s₁
      let ⟨right, s₃, lt'⟩ ← operand s₂
      let ⟨e, s₄, le'⟩ ← links (.binary op left right) s₃
      return ⟨e, s₄, Nat.le_trans le'
        (Nat.le_of_lt (Nat.lt_trans (Nat.lt_of_lt_of_le lt' le) lt))⟩ :
        Except ParseError (Kept Expr s)).map Kept.answer = (
    match nextOperator? kind s with
    | none => .ok (left, s)
    | some (op, s₁) => do
      let s₂ ← s₁.enter
      let (right, s₃) ← (operand s₂).map Taken.answer
      (links (.binary op left right) s₃).map Kept.answer) := by
  rw [← operator?_answer]
  cases operator? kind s with
  | none => rfl
  | some r =>
    simp only [Option.map, Taken.answer]
    rw [← deeper_answer]
    simp only [bind, Except.bind, Except.map]
    cases deeper r.state with
    | error => rfl
    | ok u =>
      simp only
      cases operand u.state with
      | error => rfl
      | ok r' =>
        simp only [Taken.answer]
        cases links (.binary r.value left r'.value) r'.state <;> rfl

theorem readSums_eq (left : Expr) (s : State) : readSums left s = (
    match nextOperator? sumOp? s with
    | none => .ok (left, s)
    | some (op, s₁) => do
      let s₂ ← s₁.enter
      let (right, s₃) ← readTerm s₂
      readSums (.binary op left right) s₃) := by
  conv => lhs; unfold readSums
  rw [sums]
  exact links_answer sumOp? term sums left s

def readProductChain (s : State) : Except ParseError (Expr × State) :=
  readPower s >>= fun r => readProducts r.1 r.2

theorem readTerm_eq (s : State) :
    readTerm s = (readProductChain s).map fun r => (r.1, { r.2 with depth := s.depth }) := by
  unfold readTerm readProductChain readPower readProducts
  rw [term]
  cases power s with
  | error => rfl
  | ok r =>
    simp only [bind, Except.bind, Except.map, Taken.answer]
    cases products r.value r.state <;> rfl

theorem readProducts_eq (left : Expr) (s : State) : readProducts left s = (
    match nextOperator? productOp? s with
    | none => .ok (left, s)
    | some (op, s₁) => do
      let s₂ ← s₁.enter
      let (right, s₃) ← readPower s₂
      readProducts (.binary op left right) s₃) := by
  conv => lhs; unfold readProducts
  rw [products]
  exact links_answer productOp? power products left s

theorem readPower_eq (s : State) : readPower s = (do
    let (base, s₁) ← readUnary s
    match nextOperator? caretOp? s₁ with
    | none => return (base, s₁)
    | some (op, s₂) =>
      let s₃ ← s₂.enter
      let (exponent, s₄) ← readPower s₃
      return (.binary op base exponent, s₄.leave)) := by
  conv => lhs; unfold readPower
  rw [power]
  simp only [readUnary]
  cases unary s with
  | error => rfl
  | ok r =>
    simp only [bind, Except.bind, Except.map, Taken.answer]
    rw [← operator?_answer]
    cases operator? caretOp? r.state with
    | none => rfl
    | some r' =>
      simp only [Option.map, Taken.answer]
      rw [← deeper_answer]
      simp only [Except.map, readPower]
      cases deeper r'.state with
      | error => rfl
      | ok u =>
        simp only
        cases power u.state <;> rfl

theorem readUnary_eq (s : State) : readUnary s = (
    match nextOperator? sumOp? s with
    | none => readPrimary s
    | some (op, s₁) => do
      let s₂ ← s₁.enter
      let (e, s₃) ← readUnary s₂
      return (if op = .sub then .negate e else e, s₃.leave)) := by
  rw [← operator?_answer]
  conv => lhs; unfold readUnary
  rw [unary]
  cases operator? sumOp? s with
  | none => rfl
  | some r =>
    simp only [Option.map, Taken.answer]
    rw [← deeper_answer]
    simp only [bind, Except.bind, Except.map, readUnary]
    cases deeper r.state with
    | error => rfl
    | ok u =>
      simp only
      cases unary u.state <;> rfl

theorem enclosed_answer (read : ∀ s, Except ParseError (Taken α s)) (s : State)
    (answer : γ → β × State) (value : α → β)
    (build : ∀ (r : Kept Unit s) (r' : Taken α r.state), Taken Unit r'.state.leave → γ)
    (h : ∀ r r' r'', answer (build r r' r'') = (value r'.value, r''.state)) :
    (do
      let r ← deeper s
      let r' ← read r.state
      let r'' ← closeParen r'.state.leave
      return build r r' r'' : Except ParseError γ).map answer = (do
    let s₁ ← s.enter
    let (a, s₂) ← (read s₁).map Taken.answer
    let s₃ ← readClose s₂.leave
    return (value a, s₃)) := by
  rw [← deeper_answer]
  simp only [bind, Except.bind, Except.map]
  cases deeper s with
  | error => rfl
  | ok r =>
    simp only
    cases read r.state with
    | error => rfl
    | ok r' =>
      simp only [Taken.answer]
      rw [← closeParen_answer]
      cases closeParen r'.state.leave with
      | error => rfl
      | ok r'' => exact congrArg Except.ok (h r r' r'')

theorem readPrimary_eq (s : State) : readPrimary s = (
    match s.rest with
    | [] => .error .unexpectedEnd
    | .number x :: rest => .ok (.number x, s.past rest)
    | .identifier name :: rest => readIdentifier name s.position (s.past rest)
    | .openParen :: rest => do
      let s₁ ← (s.past rest).enter
      let (e, s₂) ← readExpression s₁
      let s₃ ← readClose s₂.leave
      return (e, s₃)
    | token :: _ => .error (.unexpectedToken token s.position)) := by
  unfold readPrimary
  rw [primary]
  split
  · rename_i h
    simp only [h]
    rfl
  · rename_i h
    simp only [h]
    rfl
  · rename_i name rest h
    simp only [h, readIdentifier]
    cases identifier name s.position (s.past rest) <;> rfl
  · rename_i rest h
    simp only [h]
    exact enclosed_answer expression (s.past rest) Taken.answer id _ fun _ _ _ => rfl
  · rename_i token rest _ _ _ h
    simp only [h]
    rfl

theorem readIdentifier_eq (name : String) (start : Nat) (s : State) :
    readIdentifier name start s = (
    match s.rest with
    | .openParen :: rest =>
      match Builtin.lookup? name with
      | none => .error (.unknownFunction name start)
      | some function => do
        let s₁ ← (s.past rest).enter
        let (args, s₂) ← readArguments s₁
        let s₃ ← readClose s₂.leave
        return (.call function args, s₃)
    | _ =>
      if Builtin.isName name then .error (.functionWithoutCall name start)
        else .ok (.var name, s)) := by
  unfold readIdentifier
  rw [identifier]
  split
  · rename_i rest h
    simp only [h]
    cases Builtin.lookup? name with
    | none => rfl
    | some f =>
      exact enclosed_answer arguments (s.past rest) Kept.answer (Expr.call f) _ fun _ _ _ => rfl
  · rename_i h
    split
    · split
      · rename_i h'
        exact absurd h' (h _)
      · rfl
    · split
      · rename_i h'
        exact absurd h' (h _)
      · rfl

theorem readArguments_eq (s : State) : readArguments s = (do
    let (first, s₁) ← readExpression s
    let (others, s₂) ← readMoreArguments s₁
    return (first :: others, s₂)) := by
  unfold readArguments readExpression readMoreArguments
  rw [arguments]
  cases expression s with
  | error => rfl
  | ok r =>
    simp only [bind, Except.bind, Except.map, Taken.answer]
    cases moreArguments r.state <;> rfl

theorem readMoreArguments_eq (s : State) : readMoreArguments s = (
    match s.rest with
    | .comma :: rest => do
      let (e, s₁) ← readExpression (s.past rest)
      let (others, s₂) ← readMoreArguments s₁
      return (e :: others, s₂)
    | _ => .ok ([], s)) := by
  conv => lhs; unfold readMoreArguments
  rw [moreArguments]
  split
  · rename_i rest h
    simp only [h, readExpression]
    cases expression (s.past rest) with
    | error => rfl
    | ok r =>
      simp only [bind, Except.bind, Except.map, Taken.answer, readMoreArguments]
      cases moreArguments r.state <;> rfl
  · rename_i h
    split
    · rename_i h'
      exact absurd h' (h _)
    · rfl

end Grammar

theorem parse_eq (h : ts ≠ []) : parse ts = (do
    let (e, s) ← Grammar.readExpression (.start ts)
    match s.rest with
    | [] => .ok e
    | token :: _ => .error (.unexpectedToken token s.position)) := by
  obtain ⟨t, ts, rfl⟩ := List.exists_cons_of_ne_nil h
  simp only [parse, Grammar.readExpression]
  cases Grammar.expression (.start (t :: ts)) <;> rfl

end GameBalance.Formula
