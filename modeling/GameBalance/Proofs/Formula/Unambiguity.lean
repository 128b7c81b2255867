import GameBalance.Proofs.Formula.Reading

namespace GameBalance.Formula.Grammar

inductive Chain (kind : Token → Option BinaryOp) (Operand : List Token → Expr → Nat → Prop) :
    Nat → List Token → Expr → Nat → Prop
  | first : Operand ts e d → Chain kind Operand 0 ts e d
  | link : Chain kind Operand n ts l d → kind t = some op → Operand us r d' →
      Chain kind Operand (n + 1) (ts ++ t :: us) (.binary op l r) (max d (n + 1 + d'))

theorem Term.chain (h : Term n ts e d) : Chain productOp? Power n ts e d := by
  cases h with
  | first h => exact .first h
  | link h ht h' => exact .link h.chain (productOp?_eq_some_iff.2 ht) h'

theorem Expression.chain (h : Expression n ts e d) :
    Chain sumOp? (fun ts e d => ∃ n, Term n ts e d) n ts e d := by
  cases h with
  | first h => exact .first ⟨_, h⟩
  | link h ht h' => exact .link h.chain (sumOp?_eq_some_iff.2 ht) ⟨_, h'⟩

/--
Two of at most `size` tokens that begin alike are the
same, unless what follows one binds as tightly as `rank`.
-/
def Determined (size rank : Nat) (M : List Token → Expr → Nat → Prop) : Prop :=
  ∀ {ts e d rest ts' e' d' rest'}, M ts e d → M ts' e' d' → ts ++ rest = ts' ++ rest' →
    ts.length ≤ size →
    Ends rank rest → Ends rank rest' → ts = ts' ∧ e = e' ∧ d = d'

namespace Chain

variable {kind : Token → Option BinaryOp} {Operand : List Token → Expr → Nat → Prop}

theorem cut (ranks : ∀ t op, kind t = some op → t.rank = rank) :
    Chain kind Operand n ts e d → m < n →
    ∃ us t vs e' d', ts = us ++ t :: vs ∧ Chain kind Operand m us e' d' ∧ t.rank = rank
  | @link _ _ n ts _ _ t op us _ _ h ht _, lt => by
    by_cases eq : m = n
    · exact ⟨ts, t, us, _, _, rfl, eq ▸ h, ranks t op ht⟩
    · obtain ⟨us', t', vs, e', d', rfl, h', rank⟩ := h.cut ranks (show m < n by omega)
      exact ⟨us', t', vs ++ t :: us, e', d', by simp, h', rank⟩

theorem unique_links (operand : Determined size rank Operand)
    (ranks : ∀ t op, kind t = some op → t.rank = rank + 1) :
    Chain kind Operand n ts e d → Chain kind Operand n ts' e' d' → ts ++ rest = ts' ++ rest' →
    ts.length ≤ size →
    Ends rank rest → Ends rank rest' → ts = ts' ∧ e = e' ∧ d = d'
  | .first h, .first h', eq, le, ends, ends' => operand h h' eq le ends ends'
  | .link h ht k, .link h' ht' k', eq, le, ends, ends' => by
    rw [List.append_assoc, List.append_assoc, List.cons_append, List.cons_append] at eq
    rw [List.length_append, List.length_cons] at le
    obtain ⟨rfl, rfl, rfl⟩ := h.unique_links operand ranks h' eq (by omega) (by simp [ranks _ _ ht])
      (by simp [ranks _ _ ht'])
    obtain ⟨rfl, eq'⟩ := List.cons.inj (List.append_cancel_left eq)
    obtain ⟨rfl, rfl, rfl⟩ := operand k k' eq' (by omega) ends ends'
    obtain rfl := Option.some.inj (ht.symm.trans ht')
    exact ⟨rfl, rfl, rfl⟩

theorem unique (operand : Determined size rank Operand)
    (ranks : ∀ t op, kind t = some op → t.rank = rank + 1) :
    Determined size (rank + 1) fun ts e d => ∃ n, Chain kind Operand n ts e d := by
  rintro ts e d rest ts' e' d' rest' ⟨n, h⟩ ⟨n', h'⟩ eq le ends ends'
  -- if one chain is longer, the other is followed by an operator that would have gone on with it
  obtain lt | rfl | lt := Nat.lt_trichotomy n n'
  · obtain ⟨us, t, vs, _, _, rfl, h', next⟩ := h'.cut ranks lt
    rw [List.append_assoc, List.cons_append] at eq
    obtain ⟨rfl, _⟩ := h.unique_links operand ranks h' eq le (ends.mono (by omega)) (by simp [next])
    simp [List.append_cancel_left eq, next] at ends
  · exact h.unique_links operand ranks h' eq le (ends.mono (by omega)) (ends'.mono (by omega))
  · obtain ⟨us, t, vs, _, _, rfl, h, next⟩ := h.cut ranks lt
    rw [List.append_assoc, List.cons_append] at eq
    rw [List.length_append] at le
    obtain ⟨rfl, _⟩ :=
      h.unique_links operand ranks h' eq (by omega) (by simp [next]) (ends'.mono (by omega))
    simp [← List.append_cancel_left eq, next] at ends'

end Chain

def Unique (size : Nat) : Prop :=
  ∀ {n ts e d rest n' ts' e' d' rest'}, Expression n ts e d → Expression n' ts' e' d' →
    ts ++ rest = ts' ++ rest' →
    ts.length < size → Ends 3 rest → Ends 3 rest' → ts = ts' ∧ e = e' ∧ d = d'

theorem Arguments.unique (ih : Unique size) : Arguments ts es d → Arguments ts' es' d' →
    ts ++ .closeParen :: rest = ts' ++ .closeParen :: rest' → ts.length < size → ts = ts' ∧
    es = es' ∧ d = d'
  | .last h, .last h', eq, lt => by
    obtain ⟨rfl, rfl, rfl⟩ := ih h h' eq lt (by simp [Token.rank]) (by simp [Token.rank])
    exact ⟨rfl, rfl, rfl⟩
  | .last h, .more h' _, eq, lt => by
    rw [List.append_assoc, List.cons_append] at eq
    obtain ⟨rfl, rfl, rfl⟩ := ih h h' eq lt (by simp [Token.rank]) (by simp [Token.rank])
    simp at eq
  | .more h _, .last h', eq, lt => by
    rw [List.append_assoc, List.cons_append] at eq
    rw [List.length_append] at lt
    obtain ⟨rfl, rfl, rfl⟩ := ih h h' eq (by omega) (by simp [Token.rank]) (by simp [Token.rank])
    simp at eq
  | .more h k, .more h' k', eq, lt => by
    rw [List.append_assoc, List.append_assoc, List.cons_append, List.cons_append] at eq
    rw [List.length_append, List.length_cons] at lt
    obtain ⟨rfl, rfl, rfl⟩ := ih h h' eq (by omega) (by simp [Token.rank]) (by simp [Token.rank])
    obtain ⟨rfl, rfl, rfl⟩ := k.unique ih k' (by simpa using eq) (by omega)
    exact ⟨rfl, rfl, rfl⟩

theorem Primary.unique (ih : Unique size) :
    Primary ts e d → Primary ts' e' d' → ts ++ rest = ts' ++ rest' →
    ts.length ≤ size → Ends 0 rest → Ends 0 rest' → ts = ts' ∧ e = e' ∧ d = d'
  | .number, .number, eq, _, _, _ => by
    simp only [List.cons_append, List.nil_append, List.cons.injEq, Token.number.injEq] at eq
    obtain ⟨rfl, rfl⟩ := eq
    exact ⟨rfl, rfl, rfl⟩
  | .var _, .var _, eq, _, _, _ => by
    simp only [List.cons_append, List.nil_append, List.cons.injEq, Token.identifier.injEq] at eq
    obtain ⟨rfl, rfl⟩ := eq
    exact ⟨rfl, rfl, rfl⟩
  | .var _, .call _ _, eq, _, ends, _ => by
    simp only [List.cons_append, List.nil_append, List.cons.injEq] at eq
    simp [eq.2, Token.rank] at ends
  | .call _ _, .var _, eq, _, _, ends => by
    simp only [List.cons_append, List.nil_append, List.cons.injEq] at eq
    simp [← eq.2, Token.rank] at ends
  | .parens h, .parens h', eq, le, _, _ => by
    simp only [List.cons_append, List.append_assoc, List.cons.injEq, true_and,
      List.nil_append] at eq
    simp only [List.length_cons, List.length_append] at le
    obtain ⟨rfl, rfl, rfl⟩ := ih h h' eq (by omega) (by simp [Token.rank]) (by simp [Token.rank])
    exact ⟨rfl, rfl, rfl⟩
  | .call hf h, .call hf' h', eq, le, _, _ => by
    simp only [List.cons_append, List.append_assoc, List.cons.injEq, true_and, List.nil_append,
      Token.identifier.injEq] at eq
    simp only [List.length_cons, List.length_append] at le
    obtain ⟨rfl, rfl, rfl⟩ := h.unique ih h' eq.2 (by omega)
    obtain rfl := eq.1
    obtain rfl := hf.unique hf'
    exact ⟨rfl, rfl, rfl⟩

theorem Unary.unique (ih : Unique size) :
    Unary ts e d → Unary ts' e' d' → ts ++ rest = ts' ++ rest' →
    ts.length ≤ size → Ends 0 rest → Ends 0 rest' → ts = ts' ∧ e = e' ∧ d = d'
  | .primary h, .primary h', eq, le, ends, ends' => h.unique ih h' eq le ends ends'
  | .primary h, .plus h', eq, _, _, _ => by
    have := h.sumOp?_head (.operator .plus) (by rw [eq]; rfl)
    cases this
  | .primary h, .minus h', eq, _, _, _ => by
    have := h.sumOp?_head (.operator .minus) (by rw [eq]; rfl)
    cases this
  | .plus h, .primary h', eq, _, _, _ => by
    have := h'.sumOp?_head (.operator .plus) (by rw [← eq]; rfl)
    cases this
  | .minus h, .primary h', eq, _, _, _ => by
    have := h'.sumOp?_head (.operator .minus) (by rw [← eq]; rfl)
    cases this
  | .plus h, .plus h', eq, le, ends, ends' => by
    simp only [List.length_cons] at le
    obtain ⟨rfl, rfl, rfl⟩ := h.unique ih h' (List.cons.inj eq).2 (by omega) ends ends'
    exact ⟨rfl, rfl, rfl⟩
  | .minus h, .minus h', eq, le, ends, ends' => by
    simp only [List.length_cons] at le
    obtain ⟨rfl, rfl, rfl⟩ := h.unique ih h' (List.cons.inj eq).2 (by omega) ends ends'
    exact ⟨rfl, rfl, rfl⟩
  | .plus _, .minus _, eq, _, _, _ => by simp at eq
  | .minus _, .plus _, eq, _, _, _ => by simp at eq

theorem Power.unique (ih : Unique size) :
    Power ts e d → Power ts' e' d' → ts ++ rest = ts' ++ rest' →
    ts.length ≤ size → Ends 1 rest → Ends 1 rest' → ts = ts' ∧ e = e' ∧ d = d'
  | .base h, .base h', eq, le, ends, ends' =>
    h.unique ih h' eq le (ends.mono (by omega)) (ends'.mono (by omega))
  | .base h, .raised h' _, eq, le, ends, _ => by
    rw [List.append_assoc, List.cons_append] at eq
    obtain ⟨rfl, rfl, rfl⟩ := h.unique ih h' eq le (ends.mono (by omega)) (by simp [Token.rank])
    simp [List.append_cancel_left eq, Token.rank] at ends
  | .raised h _, .base h', eq, le, _, ends => by
    rw [List.append_assoc, List.cons_append] at eq
    rw [List.length_append] at le
    obtain ⟨rfl, rfl, rfl⟩ :=
      h.unique ih h' eq (by omega) (by simp [Token.rank]) (ends.mono (by omega))
    simp [← List.append_cancel_left eq, Token.rank] at ends
  | .raised h k, .raised h' k', eq, le, ends, ends' => by
    rw [List.append_assoc, List.append_assoc, List.cons_append, List.cons_append] at eq
    rw [List.length_append, List.length_cons] at le
    obtain ⟨rfl, rfl, rfl⟩ :=
      h.unique ih h' eq (by omega) (by simp [Token.rank]) (by simp [Token.rank])
    obtain ⟨rfl, rfl, rfl⟩ := k.unique ih k' (by simpa using eq) (by omega) ends ends'
    exact ⟨rfl, rfl, rfl⟩

theorem Term.unique (ih : Unique size) : Determined size 2 fun ts e d => ∃ n, Term n ts e d := by
  rintro ts e d rest ts' e' d' rest' ⟨n, h⟩ ⟨n', h'⟩
  exact Chain.unique (Power.unique ih) (fun _ _ ht => (productOp?_eq_some_iff.1 ht).rank)
    ⟨n, h.chain⟩ ⟨n', h'.chain⟩

theorem Expression.unique (ih : Unique size) :
    Determined size 3 fun ts e d => ∃ n, Expression n ts e d := by
  rintro ts e d rest ts' e' d' rest' ⟨n, h⟩ ⟨n', h'⟩
  exact Chain.unique (Term.unique ih) (fun _ _ ht => (sumOp?_eq_some_iff.1 ht).rank) ⟨n, h.chain⟩
    ⟨n', h'.chain⟩

theorem unique (size : Nat) : Unique size := by
  induction size with
  | zero => exact fun _ _ _ lt => absurd lt (Nat.not_lt_zero _)
  | succ size ih =>
    exact fun h h' eq lt => Expression.unique ih ⟨_, h⟩ ⟨_, h'⟩ eq (Nat.le_of_lt_succ lt)

theorem Derives.unique (h : Derives ts e d) (h' : Derives ts e' d') : e = e' ∧ d = d' := by
  obtain ⟨n, h⟩ := h
  obtain ⟨n', h'⟩ := h'
  exact (Grammar.unique (ts.length + 1) h h' rfl (Nat.lt_succ_self _) ends_nil ends_nil).2

end GameBalance.Formula.Grammar
