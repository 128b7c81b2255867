import GameBalance.Proofs.Formula.Reading

namespace GameBalance.Formula

namespace Grammar

/-- From `s` to `s'` the tokens `ts` are read and `levels` levels are entered. -/
structure Passes (ts : List Token) (levels : Nat) (s s' : State) : Prop where
  rest : s.rest = ts ++ s'.rest
  position : s'.position = s.position + ts.length
  depth : s'.depth = s.depth + levels

namespace Passes

theorem refl (s : State) : Passes [] 0 s s :=
  ⟨rfl, rfl, rfl⟩

theorem trans (h : Passes ts m s s') (h' : Passes us n s' s'') :
    Passes (ts ++ us) (m + n) s s'' where
  rest := by rw [h.rest, h'.rest, List.append_assoc]
  position := by rw [h'.position, h.position, List.length_append, Nat.add_assoc]
  depth := by rw [h'.depth, h.depth, Nat.add_assoc]

theorem past (h : s.rest = t :: us) : Passes [t] 0 s (s.past us) :=
  ⟨h, rfl, rfl⟩

theorem enter (h : State.enter s = .ok s') : Passes [] 1 s s' := by
  rw [State.enter] at h
  split at h <;> cases h
  exact ⟨rfl, rfl, rfl⟩

theorem leave (h : Passes ts (m + 1) s s') : Passes ts m s s'.leave where
  rest := h.rest
  position := h.position
  depth := by
    have := h.depth
    simp only [State.leave]
    omega

theorem reset (h : Passes ts m s s') : Passes ts 0 s { s' with depth := s.depth } :=
  ⟨h.rest, h.position, rfl⟩

theorem nextOperator? (h : nextOperator? kind s = some (op, s')) :
    ∃ t, kind t = some op ∧ Passes [t] 0 s s' := by
  unfold Grammar.nextOperator? at h
  split at h
  · cases h
  · rename_i t rest ht
    obtain ⟨op', hk, heq⟩ := Option.map_eq_some_iff.1 h
    cases heq
    exact ⟨t, hk, past ht⟩

theorem readClose (h : readClose s = .ok s') : Passes [.closeParen] 0 s s' := by
  unfold Grammar.readClose at h
  split at h
  · rename_i hr
    cases h
    exact past hr
  · cases h

end Passes

theorem Passes.length_le (h : Passes ts m s s') : s'.rest.length ≤ s.rest.length := by
  rw [h.rest, List.length_append]
  omega

theorem Passes.length_lt (h : Passes ts m s s') (ne : ts ≠ []) :
    s'.rest.length < s.rest.length := by
  have := List.length_pos_iff.2 ne
  rw [h.rest, List.length_append]
  omega

/--
Whatever is answered to a reader that starts in `s`, it
stands in relation `P` to the tokens and levels passed.
-/
def Answers (r : Except ParseError (α × State)) (s : State) (P : α → List Token → Nat → Prop) :
    Prop :=
  ∀ a s', r = .ok (a, s') → ∃ ts m, P a ts m ∧ Passes ts m s s'

theorem ok_of_bind {r : Except ε α} {f : α → Except ε β} (h : r >>= f = .ok b) :
    ∃ a, r = .ok a ∧ f a = .ok b := by
  cases r with
  | error => cases h
  | ok a => exact ⟨a, rfl, h⟩

theorem ok_of_map {r : Except ε α} {f : α → β} (h : r.map f = .ok b) :
    ∃ a, r = .ok a ∧ f a = b := by
  cases r with
  | error => cases h
  | ok a => exact ⟨a, rfl, by cases h; rfl⟩

theorem answers_error : Answers (.error e) s P := by
  intro a s' eq
  cases eq

theorem answers_ok (h : P a [] 0) : Answers (.ok (a, s)) s P := by
  intro a' s' eq
  cases eq
  exact ⟨[], 0, h, .refl s⟩

def SoundExpression (s : State) : Prop :=
  Answers (readExpression s) s fun e ts m => m = 0 ∧ ∃ n d, Expression n ts e d

def SoundSums (left : Expr) (s : State) : Prop :=
  ∀ n pre d, Expression n pre left d →
    Answers (readSums left s) s fun e ts m => ∃ d', Expression (n + m) (pre ++ ts) e d'

def SoundTerm (s : State) : Prop :=
  Answers (readTerm s) s fun e ts m => m = 0 ∧ ∃ n d, Term n ts e d

def SoundProducts (left : Expr) (s : State) : Prop :=
  ∀ n pre d, Term n pre left d →
    Answers (readProducts left s) s fun e ts m => ∃ d', Term (n + m) (pre ++ ts) e d'

def SoundPower (s : State) : Prop :=
  Answers (readPower s) s fun e ts m => m = 0 ∧ ∃ d, Power ts e d

def SoundUnary (s : State) : Prop :=
  Answers (readUnary s) s fun e ts m => m = 0 ∧ ∃ d, Unary ts e d

def SoundPrimary (s : State) : Prop :=
  Answers (readPrimary s) s fun e ts m => m = 0 ∧ ∃ d, Primary ts e d

def SoundIdentifier (name : String) (start : Nat) (s : State) : Prop :=
  Answers (readIdentifier name start s) s fun e ts m => m = 0 ∧
    ∃ d, Primary (.identifier name :: ts) e d

def SoundArguments (s : State) : Prop :=
  Answers (readArguments s) s fun es ts m => m = 0 ∧ ∃ d, Arguments ts es d

def SoundMoreArguments (s : State) : Prop :=
  ∀ n pre e d, Expression n pre e d →
    Answers (readMoreArguments s) s fun es ts m => m = 0 ∧ ∃ d', Arguments (pre ++ ts) (e :: es) d'

theorem of_caretOp? (h : caretOp? t = some op) : t = .operator .caret ∧ op = .pow := by
  unfold caretOp? at h
  split at h <;> cases h
  exact ⟨rfl, rfl⟩

theorem nextOperator?_none (h : operator? kind s = none) : nextOperator? kind s = none := by
  rw [← operator?_answer, h]
  rfl

theorem nextOperator?_some (h : operator? kind s = some ⟨op, s', lt⟩) :
    nextOperator? kind s = some (op, s') := by
  rw [← operator?_answer, h]
  rfl

def Below (s : State) (P : State → Prop) : Prop :=
  ∀ s', s'.rest.length < s.rest.length → P s'

def Upto (s : State) (P : State → Prop) : Prop :=
  ∀ s', s'.rest.length ≤ s.rest.length → P s'

namespace Tier

variable (tier : Tier)

def SoundOperand (s : State) : Prop :=
  Answers (tier.readOperand s) s fun e ts m => m = 0 ∧ ∃ d, tier.Operand ts e d

def SoundLinks (left : Expr) (s : State) : Prop :=
  ∀ n pre d, tier.Chain n pre left d →
    Answers (tier.readLinks left s) s fun e ts m => ∃ d', tier.Chain (n + m) (pre ++ ts) e d'

variable {tier : Tier}

theorem sound (ihOperand : tier.SoundOperand s) (ihLinks : ∀ left, Below s (tier.SoundLinks left)) :
    Answers (tier.read s) s fun e ts m => m = 0 ∧ ∃ n d, tier.Chain n ts e d := by
  intro e s' h
  obtain ⟨⟨e, s₂⟩, chain, eq⟩ := ok_of_map h
  obtain ⟨⟨first, s₁⟩, hfirst, hlinks⟩ := ok_of_bind chain
  obtain ⟨ts, _, ⟨rfl, d, operand⟩, passes⟩ := ihOperand _ _ hfirst
  obtain ⟨us, m, ⟨d', whole⟩, passes'⟩ :=
    ihLinks first s₁ (tier.readOperand_lt hfirst) _ _ _ (tier.first operand) _ _ hlinks
  cases eq
  exact ⟨ts ++ us, 0, ⟨rfl, _, _, whole⟩, (passes.trans passes').reset⟩

theorem soundLinks_none (hop : nextOperator? tier.kind s = none) : tier.SoundLinks left s := by
  intro n pre d before
  rw [readLinks_none hop]
  exact answers_ok ⟨d, by simpa using before⟩

theorem soundLinks_some (hop : nextOperator? tier.kind s = some (op, s₁))
    (ihOperand : Upto s₁ tier.SoundOperand)
    (ihLinks : Upto s₁ fun s₂ => ∀ right, Below s₂ (tier.SoundLinks (.binary op left right))) :
    tier.SoundLinks left s := by
  intro n pre d before e s' h
  rw [readLinks_some hop] at h
  obtain ⟨s₂, henter, h⟩ := ok_of_bind h
  obtain ⟨⟨right, s₃⟩, hright, hlinks⟩ := ok_of_bind h
  obtain ⟨t, ht, passes⟩ := Passes.nextOperator? hop
  have le := (Passes.enter henter).length_le
  obtain ⟨us, _, ⟨rfl, d', operand⟩, passes'⟩ := ihOperand s₂ le _ _ hright
  obtain ⟨vs, m, ⟨d'', whole⟩, passes''⟩ :=
    ihLinks s₂ le right s₃ (tier.readOperand_lt hright) _ _ _
      (tier.link before ht operand) _ _ hlinks
  refine ⟨t :: (us ++ vs), 1 + m, ⟨d'', ?_⟩, ?_⟩
  · rw [← Nat.add_assoc]
    simpa using whole
  · simpa using ((passes.trans (.enter henter)).trans passes').trans passes''

end Tier

theorem soundOperand_of_soundTerm (h : SoundTerm s) : sumTier.SoundOperand s := by
  intro e s' read
  obtain ⟨ts, m, ⟨zero, n, d, term⟩, passes⟩ := h e s' read
  exact ⟨ts, m, ⟨zero, d, n, term⟩, passes⟩

theorem soundPower (ihUnary : SoundUnary s)
    (ihPower : Below s fun s₁ => Below s₁ fun s₂ => Upto s₂ SoundPower) :
    SoundPower s := by
  intro e s' h
  rw [readPower_eq] at h
  obtain ⟨⟨base, s₁⟩, hbase, h⟩ := ok_of_bind h
  obtain ⟨ts, _, ⟨rfl, d, unary⟩, passes⟩ := ihUnary _ _ hbase
  dsimp only at h
  split at h
  · cases h
    exact ⟨ts, 0, ⟨rfl, d, .base unary⟩, passes⟩
  · rename_i op s₂ hop
    obtain ⟨s₃, henter, h⟩ := ok_of_bind h
    obtain ⟨⟨exponent, s₄⟩, hexponent, h⟩ := ok_of_bind h
    obtain ⟨t, ht, passes'⟩ := Passes.nextOperator? hop
    have passes'' := Passes.enter henter
    obtain ⟨us, _, ⟨rfl, d', power⟩, passes₃⟩ := ihPower s₁ (passes.length_lt unary.ne_nil) s₂
      (passes'.length_lt (by simp)) s₃ passes''.length_le _ _ hexponent
    obtain ⟨rfl, rfl⟩ := of_caretOp? ht
    cases h
    refine ⟨ts ++ .operator .caret :: us, 0, ⟨rfl, _, .raised unary power⟩, ?_⟩
    simpa using (((passes.trans passes').trans passes'').trans passes₃).leave

theorem soundUnary_primary (hop : nextOperator? sumOp? s = none) (ihPrimary : SoundPrimary s) :
    SoundUnary s := by
  intro e s' h
  rw [readUnary_eq, hop] at h
  obtain ⟨ts, _, ⟨rfl, d, primary⟩, passes⟩ := ihPrimary _ _ h
  exact ⟨ts, 0, ⟨rfl, d, .primary primary⟩, passes⟩

theorem soundUnary_sign (hop : nextOperator? sumOp? s = some (op, s₁))
    (ihUnary : Upto s₁ SoundUnary) :
    SoundUnary s := by
  intro e s' h
  rw [readUnary_eq, hop] at h
  obtain ⟨s₂, henter, h⟩ := ok_of_bind h
  obtain ⟨⟨operand, s₃⟩, hoperand, h⟩ := ok_of_bind h
  obtain ⟨t, ht, passes⟩ := Passes.nextOperator? hop
  obtain ⟨ts, _, ⟨rfl, d, unary⟩, passes'⟩ :=
    ihUnary s₂ (Passes.enter henter).length_le _ _ hoperand
  have passes := ((passes.trans (.enter henter)).trans passes').leave
  cases h
  cases sumOp?_eq_some_iff.1 ht with
  | plus => exact ⟨_, 0, ⟨rfl, _, .plus unary⟩, passes⟩
  | minus => exact ⟨_, 0, ⟨rfl, _, .minus unary⟩, passes⟩

theorem soundPrimary_number (hr : s.rest = .number x :: rest) : SoundPrimary s := by
  intro e s' h
  rw [readPrimary_eq, hr] at h
  cases h
  exact ⟨_, 0, ⟨rfl, 0, .number⟩, .past hr⟩

theorem soundPrimary_other (hr : s.rest = t :: rest) (hx : ∀ x, t ≠ .number x)
    (hname : ∀ name, t ≠ .identifier name) (hparen : t ≠ .openParen) : SoundPrimary s := by
  intro e s' h
  rw [readPrimary_eq, hr] at h
  cases t with
  | number x => exact absurd rfl (hx x)
  | identifier name => exact absurd rfl (hname name)
  | openParen => exact absurd rfl hparen
  | operator | closeParen | comma => cases h

theorem soundPrimary_parens (hr : s.rest = .openParen :: rest)
    (ihExpression : Upto (s.past rest) SoundExpression) :
    SoundPrimary s := by
  intro e s' h
  rw [readPrimary_eq, hr] at h
  obtain ⟨s₁, henter, h⟩ := ok_of_bind h
  obtain ⟨⟨e, s₂⟩, hinner, h⟩ := ok_of_bind h
  obtain ⟨s₃, hclose, h⟩ := ok_of_bind h
  obtain ⟨ts, _, ⟨rfl, n, d, expr⟩, passes⟩ :=
    ihExpression s₁ (Passes.enter henter).length_le _ _ hinner
  have passes :=
    (((Passes.past hr).trans (.enter henter)).trans passes).leave.trans (.readClose hclose)
  cases h
  exact ⟨_, 0, ⟨rfl, _, .parens expr⟩, by simpa using passes⟩

theorem soundPrimary_name (hr : s.rest = .identifier name :: rest)
    (ihIdentifier : SoundIdentifier name s.position (s.past rest)) : SoundPrimary s := by
  intro e s' h
  rw [readPrimary_eq, hr] at h
  obtain ⟨ts, _, ⟨rfl, d, primary⟩, passes⟩ := ihIdentifier _ _ h
  exact ⟨_, 0, ⟨rfl, d, primary⟩, (Passes.past hr).trans passes⟩

theorem soundIdentifier_call (hr : s.rest = .openParen :: rest) (hf : Builtin.lookup? name = some f)
    (ihArguments : Upto (s.past rest) SoundArguments) : SoundIdentifier name start s := by
  intro e s' h
  simp only [readIdentifier_eq, hr, hf] at h
  obtain ⟨s₁, henter, h⟩ := ok_of_bind h
  obtain ⟨⟨es, s₂⟩, hargs, h⟩ := ok_of_bind h
  obtain ⟨s₃, hclose, h⟩ := ok_of_bind h
  obtain ⟨ts, _, ⟨rfl, d, args⟩, passes⟩ := ihArguments s₁ (Passes.enter henter).length_le _ _ hargs
  have passes :=
    (((Passes.past hr).trans (.enter henter)).trans passes).leave.trans (.readClose hclose)
  cases h
  exact ⟨_, 0, ⟨rfl, _, .call (lookup?_eq_some_iff.1 hf) args⟩, by simpa using passes⟩

theorem soundIdentifier_var (hr : ∀ rest, s.rest ≠ .openParen :: rest) :
    SoundIdentifier name start s := by
  intro e s' h
  rw [readIdentifier_eq] at h
  split at h
  · rename_i hr'
    exact absurd hr' (hr _)
  · split at h
    · cases h
    · rename_i hname
      cases h
      rw [Bool.not_eq_true, Builtin.isName, Option.isSome_eq_false_iff,
        Option.isNone_iff_eq_none] at hname
      exact ⟨[], 0, ⟨rfl, _, .var (lookup?_eq_none_iff.1 hname)⟩, .refl s⟩

theorem soundArguments (ihExpression : SoundExpression s) (ihMore : Below s SoundMoreArguments) :
    SoundArguments s := by
  intro es s' h
  rw [readArguments_eq] at h
  obtain ⟨⟨first, s₁⟩, hfirst, h⟩ := ok_of_bind h
  obtain ⟨⟨others, s₂⟩, hothers, h⟩ := ok_of_bind h
  obtain ⟨ts, _, ⟨rfl, n, d, expr⟩, passes⟩ := ihExpression _ _ hfirst
  obtain ⟨us, _, ⟨rfl, args⟩, passes'⟩ :=
    ihMore s₁ (passes.length_lt expr.ne_nil) _ _ _ _ expr _ _ hothers
  cases h
  exact ⟨ts ++ us, 0, ⟨rfl, args⟩, passes.trans passes'⟩

theorem soundMoreArguments_comma (hr : s.rest = .comma :: rest)
    (ihExpression : SoundExpression (s.past rest))
    (ihMore : Below (s.past rest) SoundMoreArguments) : SoundMoreArguments s := by
  intro n pre e d before es s' h
  rw [readMoreArguments_eq, hr] at h
  obtain ⟨⟨e', s₁⟩, hnext, h⟩ := ok_of_bind h
  obtain ⟨⟨others, s₂⟩, hothers, h⟩ := ok_of_bind h
  obtain ⟨ts, _, ⟨rfl, n', d', expr⟩, passes⟩ := ihExpression _ _ hnext
  obtain ⟨us, _, ⟨rfl, d'', args⟩, passes'⟩ :=
    ihMore s₁ (passes.length_lt expr.ne_nil) _ _ _ _ expr _ _ hothers
  cases h
  exact ⟨_, 0, ⟨rfl, _, .more before args⟩, ((Passes.past hr).trans passes).trans passes'⟩

theorem soundMoreArguments_end (hr : ∀ rest, s.rest ≠ .comma :: rest) : SoundMoreArguments s := by
  intro n pre e d before es s' h
  rw [readMoreArguments_eq] at h
  split at h
  · rename_i hr'
    exact absurd hr' (hr _)
  · cases h
    exact ⟨[], 0, ⟨rfl, d, by simpa using .last before⟩, .refl s⟩

theorem sound :
    (∀ s, SoundExpression s) ∧ (∀ left s, SoundSums left s) ∧ (∀ s, SoundTerm s) ∧
    (∀ left s, SoundProducts left s) ∧
    (∀ s, SoundPower s) ∧ (∀ s, SoundUnary s) ∧ (∀ s, SoundPrimary s) ∧
    (∀ name start s, SoundIdentifier name start s) ∧ (∀ s, SoundArguments s) ∧
    (∀ s, SoundMoreArguments s) := by
  refine expression.mutual_induct _ _ _ _ _ _ _ _ _ _
    ?expression ?sumsEnd ?sumsLink ?term ?productsEnd ?productsLink ?power ?unaryPrimary ?unarySign
    ?primaryEnd ?primaryNumber ?primaryName ?primaryParens ?primaryOther
    ?nameUnknown ?nameCall ?nameBare ?nameVar ?arguments ?moreComma ?moreEnd
  case expression =>
    intro s ihTerm ihSums
    rw [SoundExpression, ← sumTier_read]
    exact sumTier.sound (soundOperand_of_soundTerm ihTerm) fun left => ihSums left
  case sumsEnd => exact fun left s hop => sumTier.soundLinks_none (nextOperator?_none hop)
  case sumsLink =>
    intro left s op s₁ _ hop ihTerm ihSums
    exact sumTier.soundLinks_some (nextOperator?_some hop)
      (fun s₂ le => soundOperand_of_soundTerm (ihTerm s₂ le)) ihSums
  case term =>
    intro s ihPower ihProducts
    rw [SoundTerm, ← productTier_read]
    exact productTier.sound ihPower fun left => ihProducts left
  case productsEnd => exact fun left s hop => productTier.soundLinks_none (nextOperator?_none hop)
  case productsLink =>
    intro left s op s₁ _ hop ihPower ihProducts
    exact productTier.soundLinks_some (nextOperator?_some hop) ihPower ihProducts
  case power => exact fun s ihUnary ihPower => soundPower ihUnary ihPower
  case unaryPrimary =>
    exact fun s hop ihPrimary => soundUnary_primary (nextOperator?_none hop) ihPrimary
  case unarySign =>
    exact fun s op s₁ _ hop ihUnary => soundUnary_sign (nextOperator?_some hop) ihUnary
  case primaryEnd =>
    intro s hr
    unfold SoundPrimary
    simp only [readPrimary_eq, hr]
    exact answers_error
  case primaryNumber => exact fun s x rest hr => soundPrimary_number hr
  case primaryName => exact fun s name rest hr _ ihIdentifier => soundPrimary_name hr ihIdentifier
  case primaryParens => exact fun s rest hr _ ihExpression => soundPrimary_parens hr ihExpression
  case primaryOther =>
    exact fun s t rest hx hname hparen hr => soundPrimary_other hr hx hname hparen
  case nameUnknown =>
    intro name start s rest hr hf
    unfold SoundIdentifier
    simp only [readIdentifier_eq, hr, hf]
    exact answers_error
  case nameCall => exact fun name start s rest hr f hf _ ihArguments =>
    soundIdentifier_call hr hf ihArguments
  case nameBare => exact fun name start s _ hr => soundIdentifier_var hr
  case nameVar => exact fun name start s _ hr => soundIdentifier_var hr
  case arguments => exact fun s ihExpression ihMore => soundArguments ihExpression ihMore
  case moreComma =>
    exact fun s rest hr _ ihExpression ihMore => soundMoreArguments_comma hr ihExpression ihMore
  case moreEnd => exact fun s hr => soundMoreArguments_end hr

end Grammar
end GameBalance.Formula
