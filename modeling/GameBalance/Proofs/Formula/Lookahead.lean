import GameBalance.Proofs.Formula.Renaming
import GameBalance.Proofs.Formula.Tier

/-!
Two token lists read side by side. As long as their tokens are the
same but for names that stand for the same functions, the readers
answer the same, and an answer depends on no token past the next one.
-/

namespace GameBalance.Formula

/--
How many of `total` tokens an error leaves uncontested;
a name that lacks its call or function is one of them.
-/
def ParseError.reach (total : Nat) : ParseError → Nat
  | .empty => 0
  | .unknownFunction _ p | .functionWithoutCall _ p => p + 1
  | .missingCloseParen p | .unexpectedToken _ p | .tooDeep p => p
  | .unexpectedEnd => total

namespace Grammar

/--
Tokens are compared before place `bound`, up to a renaming
that keeps the functions. The first list has `total`.
-/
structure Comparison where
  rename : String → String
  keeps : ∀ name, Builtin.lookup? (rename name) = Builtin.lookup? name
  bound : Nat
  total : Nat

/--
The readers stand at the same place of both lists, with
the same tokens ahead as far as they are compared.
-/
structure SameAhead (c : Comparison) (s s' : State) : Prop where
  position : s.position = s'.position
  depth : s.depth = s'.depth
  tokens : (s.rest.take (c.bound - s.position)).map (Token.rename c.rename) =
    (s'.rest.take (c.bound - s.position)).map (Token.rename c.rename)
  total : s.position + s.rest.length = c.total

def SameAnswer (c : Comparison) (change : α → α) (s : State)
    (r r' : Except ParseError (α × State)) : Prop :=
  match r with
  | .ok (a, t) => s.position ≤ t.position ∧ t.position + t.rest.length = c.total ∧
      (t.position < c.bound → ∃ a' t', r' = .ok (a', t') ∧ change a = change a' ∧ SameAhead c t t')
  | .error e => s.position ≤ e.reach c.total ∧
      (e.reach c.total < c.bound → ∃ e', r' = .error e' ∧ e.rename c.rename = e'.rename c.rename)

variable {c : Comparison} {s s' t t' : State} {change : α → α} {change' : β → β}
  {r r' : Except ParseError (α × State)}

namespace SameAhead

theorem refl (total : s.position + s.rest.length = c.total) : SameAhead c s s :=
  ⟨rfl, rfl, rfl, total⟩

theorem withDepth (h : SameAhead c s s') (k : Nat) :
    SameAhead c { s with depth := k } { s' with depth := k } :=
  ⟨h.position, rfl, h.tokens, h.total⟩

theorem leave (h : SameAhead c s s') : SameAhead c s.leave s'.leave := by
  rw [State.leave, State.leave, ← h.depth]
  exact h.withDepth _

theorem nil (h : SameAhead c s s') (within : s.position < c.bound) (hs : s.rest = []) :
    s'.rest = [] := by
  have tokens := h.tokens
  rw [hs, List.take_nil, List.map_nil, eq_comm, List.map_eq_nil_iff, List.take_eq_nil_iff] at tokens
  exact tokens.resolve_left (by omega)

theorem cons {u : Token} {rest : List Token} (h : SameAhead c s s') (within : s.position < c.bound)
    (hs : s.rest = u :: rest) :
    ∃ u' rest', s'.rest = u' :: rest' ∧ u.rename c.rename = u'.rename c.rename ∧
      SameAhead c (s.past rest) (s'.past rest') := by
  have tokens := h.tokens
  have total := h.total
  obtain ⟨k, hk⟩ : ∃ k, c.bound - s.position = k + 1 := ⟨c.bound - s.position - 1, by omega⟩
  rw [hs, hk, List.take_succ_cons, List.map_cons] at tokens
  cases hs' : s'.rest with
  | nil => simp [hs'] at tokens
  | cons u' rest' =>
    rw [hs', List.take_succ_cons, List.map_cons, List.cons.injEq] at tokens
    refine ⟨u', rest', rfl, tokens.1, ?_, h.depth, ?_, ?_⟩
    · simp only [State.past, h.position]
    · simp only [State.past, show c.bound - (s.position + 1) = k by omega, tokens.2]
    · rw [hs, List.length_cons] at total
      simp only [State.past]
      omega

end SameAhead

namespace SameAnswer

theorem ok (h : SameAhead c t t') (le : s.position ≤ t.position) (same : change a = change a') :
    SameAnswer c change s (.ok (a, t)) (.ok (a', t')) :=
  ⟨le, h.total, fun _ => ⟨a', t', rfl, same, h⟩⟩

theorem error {e e' : ParseError} (le : s.position ≤ e.reach c.total)
    (same : e.rename c.rename = e'.rename c.rename) :
    SameAnswer c change s (.error e) (.error e') :=
  ⟨le, fun _ => ⟨e', rfl, same⟩⟩

theorem since (h : SameAnswer c change t r r') (le : s.position ≤ t.position) :
    SameAnswer c change s r r' := by
  cases r with
  | error e => exact ⟨Nat.le_trans le h.1, h.2⟩
  | ok a => exact ⟨Nat.le_trans le h.1, h.2⟩

theorem beyond (h : SameAnswer c change s r r') (le : c.bound ≤ s.position)
    (r'' : Except ParseError (α × State)) :
    SameAnswer c change s r r'' := by
  cases r with
  | error e => exact ⟨h.1, fun lt => absurd (Nat.le_trans le h.1) (Nat.not_le.2 lt)⟩
  | ok a => exact ⟨h.1, h.2.1, fun lt => absurd (Nat.le_trans le h.1) (Nat.not_le.2 lt)⟩

theorem bind {f f' : α × State → Except ParseError (β × State)} (h : SameAnswer c change s r r')
    (step : ∀ a a' t t', r = .ok (a, t) → change a = change a' → SameAhead c t t' →
      SameAnswer c change' t (f (a, t)) (f' (a', t'))) : SameAnswer c change' s (r >>=
        f) (r' >>= f') := by
  cases r with
  | error e =>
    refine ⟨h.1, fun within => ?_⟩
    obtain ⟨e', rfl, same⟩ := h.2 within
    exact ⟨e', rfl, same⟩
  | ok a =>
    obtain ⟨a, t⟩ := a
    obtain ⟨le, total, same⟩ := h
    change SameAnswer c change' s (f (a, t)) _
    by_cases within : t.position < c.bound
    · obtain ⟨a', t', rfl, value, ahead⟩ := same within
      exact (step a a' t t' rfl value ahead).since le
    · exact ((step a a t t rfl rfl (.refl total)).beyond (Nat.le_of_not_lt within) _).since le

theorem withDepth (h : SameAnswer c change s r r') (k : Nat) :
    SameAnswer c change s (r.map fun p => (p.1, { p.2 with depth := k }))
      (r'.map fun p => (p.1, { p.2 with depth := k })) := by
  cases r with
  | error e =>
    refine ⟨h.1, fun within => ?_⟩
    obtain ⟨e', rfl, same⟩ := h.2 within
    exact ⟨e', rfl, same⟩
  | ok a =>
    refine ⟨h.1, h.2.1, fun within => ?_⟩
    obtain ⟨a', t', rfl, value, ahead⟩ := h.2.2 within
    exact ⟨a', _, rfl, value, ahead.withDepth k⟩

end SameAnswer

section Cases

variable {x : Except ParseError (α × State)} {y : State → Except ParseError (α × State)}

theorem SameAhead.within (h : SameAhead c s s')
    (same : ∀ s', SameAhead c s s' → (s.position < c.bound ∨ s' = s) →
      SameAnswer c change s x (y s')) :
    SameAnswer c change s x (y s') := by
  by_cases within : s.position < c.bound
  · exact same s' h (.inl within)
  · exact (same s (.refl h.total) (.inr rfl)).beyond (Nat.le_of_not_lt within) _

theorem SameAhead.cases (h : SameAhead c s s')
    (nil : ∀ s', SameAhead c s s' → s.rest = [] → s'.rest = [] → SameAnswer c change s x (y s'))
    (cons : ∀ s' u u' rest rest', SameAhead c s s' → s.rest = u :: rest → s'.rest = u' :: rest' →
      u.rename c.rename = u'.rename c.rename → SameAhead c (s.past rest) (s'.past rest') →
      SameAnswer c change s x (y s')) : SameAnswer c change s x (y s') := by
  refine h.within fun s' h within => ?_
  cases hs : s.rest with
  | nil =>
    obtain within | rfl := within
    · exact nil s' h hs (h.nil within hs)
    · exact nil s' h hs hs
  | cons u rest =>
    obtain within | rfl := within
    · obtain ⟨u', rest', hs', same, ahead⟩ := h.cons within hs
      exact cons s' u u' rest rest' h hs hs' same ahead
    · have total := h.total
      refine cons s' u u rest rest h hs hs rfl (.refl ?_)
      simp only [hs, List.length_cons, State.past] at total ⊢
      omega

theorem nextOperator?_cases {kind : Token → Option BinaryOp} (h : SameAhead c s s')
    (kept : ∀ t, kind (t.rename c.rename) = kind t)
    (none : ∀ s', SameAhead c s s' → nextOperator? kind s = none → nextOperator? kind s' = none →
      SameAnswer c change s x (y s'))
    (some : ∀ s' op t t', SameAhead c s s' → nextOperator? kind s = some (op, t) →
      nextOperator? kind s' = some (op, t') → SameAhead c t t' → t.position = s.position + 1 →
      t.rest.length < s.rest.length →
      SameAnswer c change s x (y s')) : SameAnswer c change s x (y s') := by
  refine h.cases (fun s' h hs hs' => none s' h ?_ ?_)
    fun s' u u' rest rest' h hs hs' same ahead => ?_
  · rw [nextOperator?, hs]
  · rw [nextOperator?, hs']
  · have same : kind u' = kind u := by rw [← kept, ← same, kept]
    cases op : kind u with
    | none =>
      refine none s' h ?_ ?_
      · simp [nextOperator?, hs, op]
      · simp [nextOperator?, hs', same, op]
    | some o =>
      refine some s' o _ _ h ?_ ?_ ahead rfl ?_
      · simp [nextOperator?, hs, op]
      · simp [nextOperator?, hs', same, op]
      · simp [State.past, hs]

theorem enter_bind {f f' : State → Except ParseError (α × State)} (h : SameAhead c s s')
    (step : ∀ t t', t.rest = s.rest → SameAhead c t t' → SameAnswer c change t (f t) (f' t')) :
    SameAnswer c change s (s.enter >>= f) (s'.enter >>= f') := by
  rw [State.enter, State.enter, ← h.depth]
  split
  · exact (step { s with depth := s.depth + 1 } _ rfl (h.withDepth _)).since (Nat.le_refl _)
  · exact .error (Nat.le_refl _) (by rw [h.position])

theorem readClose_bind {f f' : State → Except ParseError (α × State)} (h : SameAhead c s s')
    (step : ∀ t t', SameAhead c t t' → SameAnswer c change t (f t) (f' t')) :
    SameAnswer c change s (readClose s >>= f) (readClose s' >>= f') := by
  refine h.cases (y := fun s' => readClose s' >>= f') (fun s' h hs hs' => ?_)
    fun s' u u' rest rest' h hs hs' same ahead => ?_
  · rw [readClose, readClose, hs, hs']
    exact .error (Nat.le_refl _) (by rw [h.position])
  · rw [readClose, readClose, hs, hs']
    obtain rfl | ⟨m, n, rfl, rfl, -⟩ := Token.eq_or_identifier_of_rename same
    · cases u with
      | closeParen => exact (step _ _ ahead).since (Nat.le_succ _)
      | _ => exact .error (Nat.le_refl _) (by rw [h.position])
    · exact .error (Nat.le_refl _) (by rw [h.position])

end Cases

/-- All readers answer the same from `s` on as from any state with the same tokens ahead. -/
structure Parallel (c : Comparison) (s : State) : Prop where
  expression : ∀ s', SameAhead c s s' →
    SameAnswer c (Expr.rename c.rename) s (readExpression s) (readExpression s')
  sums : ∀ left left' s', left.rename c.rename = left'.rename c.rename → SameAhead c s s' →
    SameAnswer c (Expr.rename c.rename) s (readSums left s) (readSums left' s')
  term : ∀ s', SameAhead c s s' → SameAnswer c (Expr.rename c.rename) s (readTerm s) (readTerm s')
  products : ∀ left left' s', left.rename c.rename = left'.rename c.rename → SameAhead c s s' →
    SameAnswer c (Expr.rename c.rename) s (readProducts left s) (readProducts left' s')
  power : ∀ s', SameAhead c s s' →
    SameAnswer c (Expr.rename c.rename) s (readPower s) (readPower s')
  unary : ∀ s', SameAhead c s s' →
    SameAnswer c (Expr.rename c.rename) s (readUnary s) (readUnary s')
  arguments : ∀ s', SameAhead c s s' →
    SameAnswer c (Expr.renameAll c.rename) s (readArguments s) (readArguments s')
  moreArguments : ∀ s', SameAhead c s s' →
    SameAnswer c (Expr.renameAll c.rename) s (readMoreArguments s) (readMoreArguments s')

theorem sumOp?_rename (ρ : String → String) (t : Token) : sumOp? (t.rename ρ) = sumOp? t := by
  cases t <;> rfl

theorem productOp?_rename (ρ : String → String) (t : Token) :
    productOp? (t.rename ρ) = productOp? t := by
  cases t <;> rfl

theorem caretOp?_rename (ρ : String → String) (t : Token) : caretOp? (t.rename ρ) = caretOp? t := by
  cases t <;> rfl

namespace Tier

def SameOperand (tier : Tier) (c : Comparison) (s : State) : Prop :=
  ∀ s', SameAhead c s s' →
    SameAnswer c (Expr.rename c.rename) s (tier.readOperand s) (tier.readOperand s')

def SameLinks (tier : Tier) (c : Comparison) (s : State) : Prop :=
  ∀ left left' s', left.rename c.rename = left'.rename c.rename → SameAhead c s s' →
    SameAnswer c (Expr.rename c.rename) s (tier.readLinks left s) (tier.readLinks left' s')

variable {tier : Tier}

theorem sameLinks (kept : ∀ t, tier.kind (t.rename c.rename) = tier.kind t)
    (operand : ∀ t : State, t.rest.length < s.rest.length → tier.SameOperand c t)
    (links : ∀ t : State, t.rest.length < s.rest.length → tier.SameLinks c t) :
    tier.SameLinks c s := by
  intro left left' s' value h
  refine nextOperator?_cases (y := tier.readLinks left') h kept (fun s' h hop hop' => ?_)
    fun s' op t t' h hop hop' ahead next shorter => ?_
  · rw [readLinks_none hop, readLinks_none hop']
    exact .ok h (Nat.le_refl _) value
  · rw [readLinks_some hop, readLinks_some hop']
    refine (enter_bind ahead fun t t' rest ahead => ?_).since (by omega)
    rw [← rest] at shorter
    refine (operand t shorter t' ahead).bind fun e e' u u' read value' ahead => ?_
    refine links u (Nat.lt_trans (tier.readOperand_lt read) shorter) _ _ u' ?_ ahead
    rw [Expr.rename, Expr.rename, value, value']

theorem same_read (operand : tier.SameOperand c s)
    (links : ∀ t : State, t.rest.length < s.rest.length → tier.SameLinks c t)
    (h : SameAhead c s s') :
    SameAnswer c (Expr.rename c.rename) s (tier.read s) (tier.read s') := by
  rw [read, read, ← h.depth]
  refine SameAnswer.withDepth ?_ _
  refine (operand s' h).bind fun e e' t t' read value ahead => ?_
  exact links t (tier.readOperand_lt read) e e' t' value ahead

end Tier

def readExponent (base : Expr) (s : State) : Except ParseError (Expr × State) :=
  match nextOperator? caretOp? s with
  | none => .ok (base, s)
  | some (op, s₁) => do
    let s₂ ← s₁.enter
    let (exponent, s₃) ← readPower s₂
    return (.binary op base exponent, s₃.leave)

theorem readPower_eq_readExponent (s : State) :
    readPower s = readUnary s >>= fun r => readExponent r.1 r.2 :=
  readPower_eq s

theorem same_bare (start : Nat) {name name' : String} (same : c.rename name = c.rename name')
    (h : SameAhead c s s') (next : s.position = start + 1) : SameAnswer c (Expr.rename c.rename) s
      (if Builtin.isName name then .error (.functionWithoutCall name start) else .ok (.var name, s))
      (if Builtin.isName name' then .error (.functionWithoutCall name' start)
        else .ok (.var name', s')) := by
  rw [Builtin.isName, Builtin.isName, ← c.keeps name, ← c.keeps name', same]
  split
  · exact .error (Nat.le_of_eq next) (by rw [ParseError.rename, ParseError.rename, same])
  · exact .ok h (Nat.le_refl _) (by rw [Expr.rename, Expr.rename, same])

section Readers

variable (ih : ∀ t : State, t.rest.length < s.rest.length → Parallel c t)

include ih

theorem same_identifier (start : Nat) {name name' : String} (same : c.rename name = c.rename name')
    (h : SameAhead c t t') (shorter : t.rest.length < s.rest.length)
    (next : t.position = start + 1) :
    SameAnswer c (Expr.rename c.rename) t (readIdentifier name start t)
      (readIdentifier name' start t') := by
  refine h.cases (y := readIdentifier name' start) (fun t' h hr hr' => ?_)
    fun t' u u' rest rest' h hr hr' head ahead => ?_
  · simp only [readIdentifier_eq, hr, hr']
    exact same_bare start same h next
  · simp only [readIdentifier_eq, hr, hr']
    obtain rfl | ⟨m, n, rfl, rfl, -⟩ := Token.eq_or_identifier_of_rename head
    · cases u with
      | openParen =>
        simp only [← c.keeps name, ← c.keeps name', same]
        split
        · exact .error (Nat.le_of_eq next) (by rw [ParseError.rename, ParseError.rename, same])
        · refine (enter_bind ahead fun u u' rest ahead => ?_).since (Nat.le_succ _)
          have shorter : u.rest.length < s.rest.length := by
            rw [hr, List.length_cons] at shorter
            rw [rest]
            exact Nat.lt_trans (Nat.lt_succ_self _) shorter
          refine ((ih u shorter).arguments u' ahead).bind fun es es' v v' read values ahead => ?_
          refine (readClose_bind ahead.leave fun w w' ahead => ?_).since (Nat.le_refl _)
          exact .ok ahead (Nat.le_refl _) (by rw [Expr.rename, Expr.rename, values])
      | _ => exact same_bare start same h next
    · exact same_bare start same h next

theorem same_primary (h : SameAhead c s s') :
    SameAnswer c (Expr.rename c.rename) s (readPrimary s) (readPrimary s') := by
  refine h.cases (y := readPrimary) (fun s' h hr hr' => ?_)
    fun s' u u' rest rest' h hr hr' head ahead => ?_
  · simp only [readPrimary_eq, hr, hr']
    refine .error ?_ rfl
    rw [ParseError.reach, ← h.total]
    exact Nat.le_add_right _ _
  · have shorter : (s.past rest).rest.length < s.rest.length := by simp [State.past, hr]
    simp only [readPrimary_eq, hr, hr', ← h.position]
    obtain rfl | ⟨m, n, rfl, rfl, same⟩ := Token.eq_or_identifier_of_rename head
    · cases u with
      | number x => exact .ok ahead (Nat.le_succ _) rfl
      | identifier name =>
        exact (same_identifier ih s.position rfl ahead shorter rfl).since (Nat.le_succ _)
      | openParen =>
        refine (enter_bind ahead fun t t' rest ahead => ?_).since (Nat.le_succ _)
        refine ((ih t (by rwa [rest])).expression t' ahead).bind
          fun e e' u u' read value ahead => ?_
        refine (readClose_bind ahead.leave fun v v' ahead => ?_).since (Nat.le_refl _)
        exact .ok ahead (Nat.le_refl _) value
      | _ => exact .error (Nat.le_refl _) rfl
    · exact (same_identifier ih s.position same ahead shorter rfl).since (Nat.le_succ _)

theorem same_unary (h : SameAhead c s s') :
    SameAnswer c (Expr.rename c.rename) s (readUnary s) (readUnary s') := by
  refine nextOperator?_cases (y := readUnary) h (sumOp?_rename _) (fun s' h hop hop' => ?_)
    fun s' op t t' h hop hop' ahead next shorter => ?_
  · rw [readUnary_eq s, hop, readUnary_eq s', hop']
    exact same_primary ih h
  · rw [readUnary_eq s, hop, readUnary_eq s', hop']
    refine (enter_bind ahead fun t t' rest ahead => ?_).since (by omega)
    refine ((ih t (by rwa [rest])).unary t' ahead).bind fun e e' u u' read value ahead => ?_
    refine .ok ahead.leave (Nat.le_refl _) ?_
    split
    · simp only [Expr.rename, value]
    · exact value

theorem same_power (h : SameAhead c s s') :
    SameAnswer c (Expr.rename c.rename) s (readPower s) (readPower s') := by
  rw [readPower_eq_readExponent, readPower_eq_readExponent]
  refine (same_unary ih h).bind fun base base' t t' read value ahead => ?_
  have shorter := length_lt_of_taken read
  refine nextOperator?_cases (y := readExponent base') ahead (caretOp?_rename _)
    (fun t' ahead hop hop' => ?_)
    fun t' op u u' ahead hop hop' next _ shorter' => ?_
  · simp only [readExponent, hop, hop']
    exact .ok ahead (Nat.le_refl _) value
  · simp only [readExponent, hop, hop']
    refine (enter_bind next fun u u' rest ahead => ?_).since (by omega)
    refine ((ih u (by rw [rest]; omega)).power u' ahead).bind fun e e' v v' read value' ahead => ?_
    exact .ok ahead.leave (Nat.le_refl _) (by rw [Expr.rename, Expr.rename, value, value'])

theorem same_term (h : SameAhead c s s') :
    SameAnswer c (Expr.rename c.rename) s (readTerm s) (readTerm s') := by
  rw [← productTier_read]
  exact productTier.same_read (fun _ => same_power ih) (fun t shorter => (ih t shorter).products) h

theorem same_expression (h : SameAhead c s s') :
    SameAnswer c (Expr.rename c.rename) s (readExpression s) (readExpression s') := by
  rw [← sumTier_read]
  exact sumTier.same_read (fun _ => same_term ih) (fun t shorter => (ih t shorter).sums) h

theorem same_moreArguments (h : SameAhead c s s') :
    SameAnswer c (Expr.renameAll c.rename) s (readMoreArguments s) (readMoreArguments s') := by
  refine h.cases (y := readMoreArguments) (fun s' h hr hr' => ?_)
    fun s' u u' rest rest' h hr hr' head ahead => ?_
  · rw [readMoreArguments_eq s, hr, readMoreArguments_eq s', hr']
    exact .ok h (Nat.le_refl _) rfl
  · rw [readMoreArguments_eq s, hr, readMoreArguments_eq s', hr']
    obtain rfl | ⟨m, n, rfl, rfl, -⟩ := Token.eq_or_identifier_of_rename head
    · cases u with
      | comma =>
        have shorter : (s.past rest).rest.length < s.rest.length := by simp [State.past, hr]
        refine (((ih _ shorter).expression _ ahead).bind fun e e' t t' read value ahead => ?_).since
          (Nat.le_succ _)
        have shorter' := Nat.lt_trans (length_lt_of_taken read) shorter
        refine ((ih t shorter').moreArguments t' ahead).bind fun es es' u u' read values ahead => ?_
        exact .ok ahead (Nat.le_refl _) (by rw [Expr.renameAll, Expr.renameAll, value, values])
      | _ => exact .ok h (Nat.le_refl _) rfl
    · exact .ok h (Nat.le_refl _) rfl

theorem same_arguments (h : SameAhead c s s') :
    SameAnswer c (Expr.renameAll c.rename) s (readArguments s) (readArguments s') := by
  rw [readArguments_eq, readArguments_eq]
  refine (same_expression ih h).bind fun e e' t t' read value ahead => ?_
  refine ((ih t (length_lt_of_taken read)).moreArguments t' ahead).bind
    fun es es' u u' read values ahead => ?_
  exact .ok ahead (Nat.le_refl _) (by rw [Expr.renameAll, Expr.renameAll, value, values])

end Readers

theorem parallel (c : Comparison) (s : State) : Parallel c s := by
  induction length : s.rest.length using Nat.strongRecOn generalizing s with
  | ind k ih =>
    subst length
    have ih : ∀ t : State, t.rest.length < s.rest.length → Parallel c t :=
      fun t shorter => ih _ shorter t rfl
    exact {
      expression := fun _ => same_expression ih
      sums := sumTier.sameLinks (sumOp?_rename _) (fun t shorter => (ih t shorter).term)
        fun t shorter => (ih t shorter).sums
      term := fun _ => same_term ih
      products :=
        productTier.sameLinks (productOp?_rename _) (fun t shorter => (ih t shorter).power)
          fun t shorter =>
        (ih t shorter).products
      power := fun _ => same_power ih
      unary := fun _ => same_unary ih
      arguments := fun _ => same_arguments ih
      moreArguments := fun _ => same_moreArguments ih }

def readAll (s : State) : Except ParseError (Expr × State) := do
  let (e, t) ← readExpression s
  match t.rest with
  | [] => .ok (e, t)
  | u :: _ => .error (.unexpectedToken u t.position)

theorem parse_eq_readAll {ts : List Token} (h : ts ≠ []) :
    parse ts = (readAll (.start ts)).map Prod.fst := by
  rw [parse_eq h, readAll]
  cases readExpression (.start ts) with
  | error e => rfl
  | ok r =>
    obtain ⟨e, ⟨rest, p, k⟩⟩ := r
    cases rest <;> rfl

theorem parse_eq_error_iff {ts : List Token} (h : ts ≠ []) :
    parse ts = .error e ↔ readAll (.start ts) = .error e := by
  rw [parse_eq_readAll h]
  cases readAll (.start ts) <;> simp [Except.map]

theorem same_readAll (h : SameAhead c s s') :
    SameAnswer c (Expr.rename c.rename) s (readAll s) (readAll s') := by
  refine ((parallel c s).expression s' h).bind fun e e' t t' _ value ahead => ?_
  refine ahead.cases (y := fun t' => match t'.rest with
    | [] => .ok (e', t')
    | u :: _ => .error (.unexpectedToken u t'.position)) (fun t' ahead ht ht' => ?_)
    fun t' u u' rest rest' ahead ht ht' same _ => ?_
  · simp only [ht, ht']
    exact .ok ahead (Nat.le_refl _) value
  · simp only [ht, ht']
    exact .error (Nat.le_refl _)
      (by rw [ParseError.rename, ParseError.rename, same, ahead.position])

theorem parse_rename {ρ : String → String}
    (keeps : ∀ name, Builtin.lookup? (ρ name) = Builtin.lookup? name)
    {ts us : List Token} (same : ts.map (Token.rename ρ) = us.map (Token.rename ρ)) :
    ((parse ts).map (Expr.rename ρ)).mapError (ParseError.rename ρ) =
      ((parse us).map (Expr.rename ρ)).mapError (ParseError.rename ρ) := by
  by_cases ne : ts = []
  · subst ne
    rw [List.map_eq_nil_iff.1 same.symm]
  have ne' : us ≠ [] :=
    fun empty => ne (List.map_eq_nil_iff.1 (same.trans (by rw [empty, List.map_nil])))
  -- all tokens are compared, and as many places as the answer reaches
  have ahead (bound : Nat) : SameAhead ⟨ρ, keeps, bound, ts.length⟩ (.start ts) (.start us) :=
    ⟨rfl, rfl, by simp only [State.start, List.map_take, same], by simp [State.start]⟩
  rw [parse_eq_readAll ne, parse_eq_readAll ne']
  cases read : readAll (.start ts) with
  | error e =>
    have answer := same_readAll (ahead (e.reach ts.length + 1))
    rw [read] at answer
    obtain ⟨e', read', renamed⟩ := answer.2 (Nat.lt_succ_self _)
    rw [read']
    exact congrArg Except.error renamed
  | ok r =>
    have answer := same_readAll (ahead (r.2.position + 1))
    rw [read] at answer
    obtain ⟨e', t', read', renamed, -⟩ := answer.2.2 (Nat.lt_succ_self _)
    rw [read']
    exact congrArg Except.ok renamed

end Grammar
end GameBalance.Formula
