import GameBalance.Proofs.Formula.Tier

namespace GameBalance.Formula

/--
How loosely a token that follows an operand binds it; a parenthesis after a name binds tightest.
-/
def Token.rank : Token → Nat
  | .openParen => 0
  | .operator .caret => 1
  | .operator .star | .operator .slash => 2
  | .operator .plus | .operator .minus => 3
  | .number _ | .identifier _ | .closeParen | .comma => 4

namespace Grammar

theorem sumOp?_eq_none (h : 3 < t.rank) : sumOp? t = none := by
  unfold sumOp?
  split <;> first | rfl | simp [Token.rank] at h

theorem productOp?_eq_none (h : 2 < t.rank) : productOp? t = none := by
  unfold productOp?
  split <;> first | rfl | simp [Token.rank] at h

theorem caretOp?_eq_none (h : 1 < t.rank) : caretOp? t = none := by
  unfold caretOp?
  split <;> first | rfl | simp [Token.rank] at h

theorem SumOperator.rank (h : SumOperator t op) : t.rank = 3 := by
  cases h <;> rfl

theorem ProductOperator.rank (h : ProductOperator t op) : t.rank = 2 := by
  cases h <;> rfl

def Ends (rank : Nat) (rest : List Token) : Prop :=
  ∀ t ∈ rest.head?, rank < t.rank

@[simp] theorem ends_nil : Ends rank [] := by
  simp [Ends]

@[simp] theorem ends_cons : Ends rank (t :: ts) ↔ rank < t.rank := by
  simp [Ends]

theorem Ends.mono (h : Ends rank rest) (le : rank' ≤ rank) : Ends rank' rest :=
  fun t ht => Nat.lt_of_le_of_lt le (h t ht)

theorem nextOperator?_eq_none {kind : Token → Option BinaryOp}
    (h : ∀ t ∈ rest.head?, kind t = none) :
    nextOperator? kind ⟨rest, p, k⟩ = none := by
  cases rest with
  | nil => rfl
  | cons t rest => simp [nextOperator?, h t rfl]

theorem nextOperator?_eq_some (h : kind t = some op) :
    nextOperator? kind ⟨t :: rest, p, k⟩ = some (op, ⟨rest, p + 1, k⟩) := by
  simp [nextOperator?, h, State.past]

theorem position_cons (p : Nat) (t : Token) (ts : List Token) :
    p + (t :: ts).length = p + 1 + ts.length := by
  simp only [List.length_cons]
  omega

/-- `r` goes on as `r'` if `depth` levels are allowed, and stops for depth if not. -/
def Reaches (r : Except ParseError α) (depth : Nat) (r' : Except ParseError α) : Prop :=
  (depth ≤ maxDepth → r = r') ∧ (maxDepth < depth → ∃ p, r = .error (.tooDeep p))

namespace Reaches

theorem refl (h : depth ≤ maxDepth) (r : Except ParseError α) : Reaches r depth r :=
  ⟨fun _ => rfl, fun h' => absurd h (Nat.not_le.2 h')⟩

theorem trans {r r' r'' : Except ParseError α} (h : Reaches r d r')
    (h' : d ≤ maxDepth → Reaches r' d' r'') :
    Reaches r (max d d') r'' := by
  constructor
  · intro le
    rw [h.1 (by omega), (h' (by omega)).1 (by omega)]
  · intro lt
    by_cases le : d ≤ maxDepth
    · rw [h.1 le]
      exact (h' le).2 (by omega)
    · exact h.2 (by omega)

theorem bind {r r' : Except ParseError α} (h : Reaches r d r') (f : α → Except ParseError β) :
    Reaches (r >>= f) d (r' >>= f) := by
  constructor
  · intro le
    rw [h.1 le]
  · intro lt
    obtain ⟨p, hp⟩ := h.2 lt
    exact ⟨p, by rw [hp]; rfl⟩

theorem andThen {r : Except ParseError α} {f : α → Except ParseError β} (h : Reaches r d (.ok a))
    (h' : d ≤ maxDepth → Reaches (f a) d' r') : Reaches (r >>= f) (max d d') r' :=
  (h.bind f).trans h'

theorem map {r : Except ParseError α} (h : Reaches r d (.ok a)) (f : α → β) :
    Reaches (r.map f) d (.ok (f a)) := by
  constructor
  · intro le
    rw [h.1 le]
    rfl
  · intro lt
    obtain ⟨p, hp⟩ := h.2 lt
    exact ⟨p, by rw [hp]; rfl⟩

theorem of_eq {r r' : Except ParseError α} (h : Reaches r d r') (eq : d = d') : Reaches r d' r' :=
  eq ▸ h

end Reaches

theorem reaches_enter (rest : List Token) (p k : Nat) (h : k ≤ maxDepth) :
    Reaches (State.enter ⟨rest, p, k⟩) (k + 1) (.ok ⟨rest, p, k + 1⟩) := by
  constructor
  · intro le
    simp only [State.enter]
    rw [if_pos (by omega)]
  · intro lt
    simp only [State.enter]
    rw [if_neg (by omega)]
    exact ⟨p, rfl⟩

theorem position_link (p : Nat) (ts us : List Token) (t : Token) :
    p + (ts ++ t :: us).length = p + ts.length + 1 + us.length := by
  simp only [List.length_append, List.length_cons]
  omega

theorem reaches_deeper {read : State → Except ParseError α} {f : α → Except ParseError β}
    {rest : List Token} {p k : Nat}
    (hk : k ≤ maxDepth) (h : k + 1 ≤ maxDepth → Reaches (read ⟨rest, p, k + 1⟩) (k + 1 + d) (.ok a))
    (h' : k + 1 + d ≤ maxDepth → Reaches (f a) (k + 1 + d) r) :
    Reaches (State.enter ⟨rest, p, k⟩ >>= fun s => read s >>= f) (k + (1 + d)) r :=
  ((reaches_enter rest p k hk).andThen fun le => (h le).andThen h').of_eq (by omega)

namespace Tier

variable {tier : Tier}

theorem reaches_read (ends : ∀ t ∈ rest.head?, tier.kind t = none)
    (chain : Reaches (tier.readChain ⟨ts, p, k⟩) d (tier.readLinks e ⟨rest, p', k'⟩)) :
    Reaches (tier.read ⟨ts, p, k⟩) d (.ok (e, ⟨rest, p', k⟩)) := by
  rw [readLinks_none (nextOperator?_eq_none ends)] at chain
  exact chain.map _

theorem reaches_link (ht : tier.kind t = some op) (links : n ≤ d)
    (before : Reaches (tier.readChain ⟨ts ++ t :: (us ++ rest), p, k⟩) (k + d)
      (tier.readLinks l ⟨t :: (us ++ rest), p + ts.length, k + n⟩))
    (operand : k + n + 1 ≤ maxDepth →
      Reaches (tier.readOperand ⟨us ++ rest, p + ts.length + 1, k + n + 1⟩)
      (k + n + 1 + d') (.ok (r, ⟨rest, p + ts.length + 1 + us.length, k + n + 1⟩))) :
    Reaches (tier.readChain ⟨ts ++ t :: us ++ rest, p, k⟩) (k + max d (n + 1 + d'))
      (tier.readLinks (.binary op l r) ⟨rest, p + (ts ++ t :: us).length, k + (n + 1)⟩) := by
  rw [List.append_assoc, List.cons_append, position_link]
  refine (before.trans fun le => ?_).of_eq
    (d := max (k + d) (max (k + n + 1) (k + n + 1 + d'))) (by omega)
  rw [readLinks_some (nextOperator?_eq_some ht)]
  exact (reaches_enter _ _ _ (by omega)).andThen fun le => (operand le).bind _

end Tier

theorem readExpression_reaches (ends : Ends 3 rest)
    (chain : Reaches (readSumChain ⟨ts, p, k⟩) d (readSums e ⟨rest, p', k'⟩)) :
    Reaches (readExpression ⟨ts, p, k⟩) d (.ok (e, ⟨rest, p', k⟩)) :=
  sumTier_read ▸ Tier.reaches_read (fun t ht => sumOp?_eq_none (ends t ht)) chain

theorem readTerm_reaches (ends : Ends 2 rest)
    (chain : Reaches (readProductChain ⟨ts, p, k⟩) d (readProducts e ⟨rest, p', k'⟩)) :
    Reaches (readTerm ⟨ts, p, k⟩) d (.ok (e, ⟨rest, p', k⟩)) :=
  productTier_read ▸ Tier.reaches_read (fun t ht => productOp?_eq_none (ends t ht)) chain

theorem readMoreArguments_comma (rest : List Token) (p k : Nat) :
    readMoreArguments ⟨.comma :: rest, p, k⟩ = readArguments ⟨rest, p + 1, k⟩ := by
  rw [readMoreArguments_eq, readArguments_eq]
  rfl

theorem readIdentifier_ends (h : Builtin.lookup? name = none) (ends : Ends 0 rest) :
    readIdentifier name start ⟨rest, p, k⟩ = .ok (.var name, ⟨rest, p, k⟩) := by
  rw [readIdentifier_eq]
  split
  · rename_i hr
    simp only at hr
    simp [hr, Token.rank] at ends
  · simp [Builtin.isName, h]

theorem Primary.sumOp?_head (h : Primary ts e d) : ∀ t ∈ (ts ++ rest).head?, sumOp? t = none := by
  cases h <;> simp [sumOp?]

mutual

theorem Expression.reaches : Expression n ts e d → Ends 2 rest → k ≤ maxDepth →
    Reaches (readSumChain ⟨ts ++ rest, p, k⟩) (k + d) (readSums e ⟨rest, p + ts.length, k + n⟩)
  | .first h, ends, hk => (readTerm_reaches ends (h.reaches (ends.mono (by omega)) hk)).bind _
  | .link h ht h', ends, hk =>
    sumTier.reaches_link (sumOp?_eq_some_iff.2 ht) h.links_le
      (h.reaches (by simp [ht.rank]) hk) fun le =>
      readTerm_reaches ends (h'.reaches (ends.mono (by omega)) le)

theorem Term.reaches : Term n ts e d → Ends 1 rest → k ≤ maxDepth →
    Reaches (readProductChain ⟨ts ++ rest, p, k⟩) (k + d)
      (readProducts e ⟨rest, p + ts.length, k + n⟩)
  | .first h, ends, hk => (h.reaches ends hk).bind _
  | .link h ht h', ends, hk =>
    productTier.reaches_link (productOp?_eq_some_iff.2 ht) h.links_le
      (h.reaches (by simp [ht.rank]) hk) fun le =>
      h'.reaches ends le

theorem Power.reaches : Power ts e d → Ends 1 rest → k ≤ maxDepth →
    Reaches (readPower ⟨ts ++ rest, p, k⟩) (k + d) (.ok (e, ⟨rest, p + ts.length, k⟩))
  | .base h, ends, hk => by
    rw [readPower_eq]
    refine ((h.reaches (ends.mono (by omega)) hk).andThen fun le => ?_).of_eq (Nat.max_self _)
    simp only [nextOperator?_eq_none fun t ht => caretOp?_eq_none (ends t ht)]
    exact .refl le _
  | @Power.raised ts _ d us _ d' h h', ends, hk => by
    have base : Reaches (readUnary ⟨ts ++ .operator .caret :: (us ++ rest), p, k⟩) (k + d) _ :=
      h.reaches (by simp [Token.rank]) hk
    rw [List.append_assoc, List.cons_append, position_link, readPower_eq]
    refine (base.andThen fun _ => ?_).of_eq
      (d := max (k + d) (max (k + 1) (max (k + 1 + d') (k + 1 + d')))) (by omega)
    simp only [nextOperator?_eq_some (show caretOp? (.operator .caret) = some .pow from rfl)]
    refine (reaches_enter _ _ _ hk).andThen fun le => ?_
    exact (h'.reaches ends le).andThen fun le => .refl le _

theorem Unary.reaches : Unary ts e d → Ends 0 rest → k ≤ maxDepth →
    Reaches (readUnary ⟨ts ++ rest, p, k⟩) (k + d) (.ok (e, ⟨rest, p + ts.length, k⟩))
  | .primary h, ends, hk => by
    rw [readUnary_eq, nextOperator?_eq_none h.sumOp?_head]
    exact h.reaches ends hk
  | @Unary.plus _ _ d h, ends, hk => by
    rw [readUnary_eq, List.cons_append, nextOperator?_eq_some (show sumOp? _ = some .add from rfl),
      position_cons]
    exact reaches_deeper hk (fun le => h.reaches ends le) fun le => .refl le _
  | @Unary.minus _ _ d h, ends, hk => by
    rw [readUnary_eq, List.cons_append, nextOperator?_eq_some (show sumOp? _ = some .sub from rfl),
      position_cons]
    exact reaches_deeper hk (fun le => h.reaches ends le) fun le => .refl le _

theorem Primary.reaches : Primary ts e d → Ends 0 rest → k ≤ maxDepth →
    Reaches (readPrimary ⟨ts ++ rest, p, k⟩) (k + d) (.ok (e, ⟨rest, p + ts.length, k⟩))
  | .number, _, hk => by
    rw [readPrimary_eq]
    exact .refl hk _
  | .var h, ends, hk => by
    simp only [readPrimary_eq, List.cons_append, List.nil_append, State.past,
      readIdentifier_ends (lookup?_eq_none_iff.2 h) ends]
    exact .refl hk _
  | .parens h, ends, hk => by
    rw [readPrimary_eq, List.cons_append, List.append_assoc, position_cons, position_link]
    refine reaches_deeper hk (fun le => readExpression_reaches ?_ (h.reaches ?_ le))
      fun le => .refl le _
    · simp [Token.rank]
    · simp [Token.rank]
  | .call hf h, ends, hk => by
    rw [readPrimary_eq]
    simp only [List.cons_append, List.append_assoc, readIdentifier_eq, State.past,
      lookup?_eq_some_iff.2 hf, position_cons, position_link]
    exact reaches_deeper hk (fun le => h.reaches le) fun le => .refl le _

theorem Arguments.reaches : Arguments ts es d → k ≤ maxDepth →
    Reaches (readArguments ⟨ts ++ .closeParen :: rest, p, k⟩) (k + d)
      (.ok (es, ⟨.closeParen :: rest, p + ts.length, k⟩))
  | @Arguments.last _ ts _ d h, hk => by
    have only : Reaches (readExpression ⟨ts ++ .closeParen :: rest, p, k⟩) (k + d) _ :=
      readExpression_reaches (by simp [Token.rank]) (h.reaches (by simp [Token.rank]) hk)
    rw [readArguments_eq]
    refine (only.andThen fun le => ?_).of_eq (Nat.max_self _)
    simp only [readMoreArguments_eq]
    exact .refl le _
  | @Arguments.more _ ts _ d us _ d' h h', hk => by
    have first : Reaches (readExpression ⟨ts ++ .comma :: (us ++ .closeParen :: rest), p, k⟩)
        (k + d) _ :=
      readExpression_reaches (by simp [Token.rank]) (h.reaches (by simp [Token.rank]) hk)
    rw [List.append_assoc, List.cons_append, position_link, readArguments_eq]
    refine (first.andThen fun _ => ?_).of_eq (d := max (k + d) (max (k + d') (k + d'))) (by omega)
    simp only [readMoreArguments_comma]
    exact (h'.reaches hk).andThen fun le => .refl le _

end

end Grammar
end GameBalance.Formula
