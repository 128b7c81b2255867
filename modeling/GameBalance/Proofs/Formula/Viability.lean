import GameBalance.Proofs.Formula.Lookahead
import GameBalance.Proofs.Formula.Recognition

/-!
Errors stand at the first token that cannot be right. What a reader has taken when it stops can be
completed to what it was to read, and as the reader has looked at no other token than the next,
nothing that begins with that one as well is a formula.
-/

namespace GameBalance.Formula

/--
How an error stands between the tokens `right` that
are read from place `start` on, and the rest of them.
-/
def ParseError.Stands (start : Nat) (right rest : List Token) : ParseError → Prop
  | .empty => False
  | .unknownFunction name p => ∃ before, right = before ++ [.identifier name] ∧
      p = start + before.length ∧
      Builtin.lookup? name = none ∧ rest.head? = some .openParen
  | .functionWithoutCall name p => ∃ before, right = before ++ [.identifier name] ∧
      p = start + before.length ∧
      Builtin.isName name = true ∧ rest.head? ≠ some .openParen
  | .missingCloseParen p => p = start + right.length
  | .unexpectedToken t p => p = start + right.length ∧ rest.head? = some t
  | .unexpectedEnd => rest = []
  | .tooDeep _ => True

theorem ParseError.Stands.after {e : ParseError} {start : Nat} {right rest us : List Token}
    (h : e.Stands (start + us.length) right rest) : e.Stands start (us ++ right) rest := by
  cases e with
  | unknownFunction | functionWithoutCall =>
    obtain ⟨before, rfl, rfl, stands⟩ := h
    exact ⟨us ++ before, by simp, by simp [Nat.add_assoc], stands⟩
  | missingCloseParen =>
    rw [Stands] at h ⊢
    simp [h, Nat.add_assoc]
  | unexpectedToken =>
    rw [Stands] at h ⊢
    simp [h, Nat.add_assoc]
  | _ => exact h

def Viable (M : List Token → Prop) (ts : List Token) : Prop :=
  ∃ us, M (ts ++ us)

namespace Grammar

def IsExpression (ts : List Token) : Prop :=
  ∃ n e d, Expression n ts e d

def IsTerm (ts : List Token) : Prop :=
  ∃ n e d, Term n ts e d

def IsPower (ts : List Token) : Prop :=
  ∃ e d, Power ts e d

def IsUnary (ts : List Token) : Prop :=
  ∃ e d, Unary ts e d

def IsPrimary (ts : List Token) : Prop :=
  ∃ e d, Primary ts e d

def IsArguments (ts : List Token) : Prop :=
  ∃ es d, Arguments ts es d

/--
Where a reader fails on its way from `s`, other than for
depth, what it has taken can be completed to an `M`.
-/
def Blames (M : List Token → Prop) (s : State) (r : Except ParseError α) : Prop :=
  ∀ e, r = .error e → (∀ p, e ≠ .tooDeep p) →
    ∃ right rest, s.rest = right ++ rest ∧ e.Stands s.position right rest ∧ Viable M right

variable {L M : List Token → Prop} {s t : State} {us : List Token}

namespace Blames

theorem ok (a : α) : Blames M s (.ok a) := by
  intro e eq
  cases eq

theorem after {r : Except ParseError α} (passes : Passes us m s t) (h : Blames L t r)
    (whole : ∀ w, L w → ∃ v, M (us ++ (w ++ v))) : Blames M s r := by
  intro e eq shallow
  obtain ⟨right, rest, split, stands, vs, part⟩ := h e eq shallow
  obtain ⟨v, entire⟩ := whole _ part
  refine ⟨us ++ right, rest, ?_, ?_, vs ++ v, ?_⟩
  · rw [passes.rest, split, List.append_assoc]
  · rw [passes.position] at stands
    exact stands.after
  · simpa using entire

theorem mono {r : Except ParseError α} (h : Blames L s r) (whole : ∀ w, L w → M w) : Blames M s r :=
  h.after (.refl s) fun w part => ⟨[], by simpa using whole w part⟩

theorem bind {r : Except ParseError α} {f : α → Except ParseError β} (h : Blames M s r)
    (step : ∀ a, r = .ok a → Blames M s (f a)) : Blames M s (r >>= f) := by
  cases r with
  | error e =>
    intro e' eq
    cases eq
    exact h e rfl
  | ok a => exact step a rfl

theorem map {r : Except ParseError α} (h : Blames M s r) (f : α → β) : Blames M s (r.map f) := by
  cases r with
  | error e =>
    intro e' eq
    cases eq
    exact h e rfl
  | ok a => exact .ok _

theorem enter (s t : State) : Blames M s t.enter := by
  intro e eq shallow
  rw [State.enter] at eq
  split at eq <;> cases eq
  exact absurd rfl (shallow _)

theorem readClose (passes : Passes us m s t) (viable : Viable M us) : Blames M s (readClose t) := by
  intro e eq _
  unfold Grammar.readClose at eq
  split at eq <;> cases eq
  exact ⟨us, t.rest, passes.rest, passes.position, viable⟩

end Blames

namespace Tier

variable {tier : Tier}

def IsOperand (tier : Tier) (ts : List Token) : Prop :=
  ∃ e d, tier.Operand ts e d

def IsChain (tier : Tier) (ts : List Token) : Prop :=
  ∃ n e d, tier.Chain n ts e d

def BlamedLinks (tier : Tier) (s : State) : Prop :=
  ∀ {left n pre d m s₀}, tier.Chain n pre left d → Passes pre m s₀ s →
    Blames tier.IsChain s₀ (tier.readLinks left s)

theorem blames_links (sound : ∀ s, tier.SoundOperand s)
    (operand : ∀ t : State, t.rest.length < s.rest.length →
      Blames tier.IsOperand t (tier.readOperand t))
    (links : ∀ t : State, t.rest.length < s.rest.length → tier.BlamedLinks t) :
    tier.BlamedLinks s := by
  intro left n pre d m s₀ before passed
  cases hop : nextOperator? tier.kind s with
  | none =>
    rw [readLinks_none hop]
    exact .ok _
  | some next =>
    obtain ⟨op, t⟩ := next
    rw [readLinks_some hop]
    obtain ⟨sign, ht, next⟩ := Passes.nextOperator? hop
    refine (Blames.enter s₀ t).bind fun u entered => ?_
    have link := next.trans (.enter entered)
    have shorter := link.length_lt (by simp)
    refine Blames.bind ?_ fun r read => ?_
    · refine (operand u shorter).after (passed.trans link) fun w ⟨e, d, part⟩ => ⟨[], ?_⟩
      exact ⟨_, _, _, by simpa using tier.link before ht part⟩
    · obtain ⟨ts, _, ⟨rfl, d, part⟩, taken⟩ := sound u _ _ read
      have whole := (passed.trans link).trans taken
      simp only [List.append_nil, List.append_assoc, List.singleton_append] at whole
      exact links _ (Nat.lt_of_le_of_lt taken.length_le shorter) (tier.link before ht part) whole

theorem blames_read (sound : ∀ s, tier.SoundOperand s)
    (operand : Blames tier.IsOperand s (tier.readOperand s))
    (links : ∀ t : State, t.rest.length < s.rest.length → tier.BlamedLinks t) :
    Blames tier.IsChain s (tier.read s) := by
  refine Blames.map (Blames.bind ?_ fun r read => ?_) _
  · exact operand.mono fun w ⟨e, d, part⟩ => ⟨0, e, d, tier.first part⟩
  · obtain ⟨ts, _, ⟨rfl, d, part⟩, taken⟩ := sound s _ _ read
    exact links _ (tier.readOperand_lt read) (tier.first part) taken

end Tier

theorem soundOperand_sumTier (s : State) : sumTier.SoundOperand s :=
  soundOperand_of_soundTerm (sound.2.2.1 s)

theorem soundOperand_productTier (s : State) : productTier.SoundOperand s :=
  sound.2.2.2.2.1 s

theorem isOperand_of_isTerm (h : IsTerm us) : sumTier.IsOperand us := by
  obtain ⟨n, e, d, term⟩ := h
  exact ⟨e, d, n, term⟩

/--
What the readers that start in `s` have to read, where
a chain or a list goes on from what stands before it.
-/
structure Blamed (s : State) : Prop where
  expression : Blames IsExpression s (readExpression s)
  sums : ∀ {left n pre d m s₀}, Expression n pre left d → Passes pre m s₀ s →
    Blames IsExpression s₀ (readSums left s)
  products : ∀ {left n pre d m s₀}, Term n pre left d → Passes pre m s₀ s →
    Blames IsTerm s₀ (readProducts left s)
  term : Blames IsTerm s (readTerm s)
  power : Blames IsPower s (readPower s)
  unary : Blames IsUnary s (readUnary s)
  arguments : Blames IsArguments s (readArguments s)
  moreArguments : ∀ {n pre e d m s₀}, Expression n pre e d → Passes pre m s₀ s →
    Blames IsArguments s₀ (readMoreArguments s)

section Readers

variable (ih : ∀ t : State, t.rest.length < s.rest.length → Blamed t)

include ih

theorem blames_identifier {name : String} {rest : List Token}
    (hs : s.rest = .identifier name :: rest) :
    Blames IsPrimary s (readIdentifier name s.position (s.past rest)) := by
  rw [readIdentifier_eq]
  split
  · rename_i rest' hr
    have passes := (Passes.past hs).trans (Passes.past hr)
    split
    · rename_i hf
      intro e eq _
      cases eq
      exact ⟨[.identifier name], rest, hs, ⟨[], rfl, rfl, hf, congrArg List.head? hr⟩, [], _, _,
        .var (lookup?_eq_none_iff.1 hf)⟩
    · rename_i f hf
      refine (Blames.enter s _).bind fun u entered => ?_
      have passes := passes.trans (.enter entered)
      refine Blames.bind ?_ fun r read => ?_
      · refine (ih u (passes.length_lt (by simp))).arguments.after passes fun w arguments =>
          ⟨[.closeParen], ?_⟩
        obtain ⟨es, d, args⟩ := arguments
        exact ⟨_, _, by simpa using Primary.call (lookup?_eq_some_iff.1 hf) args⟩
      · obtain ⟨as, _, ⟨rfl, d, args⟩, taken⟩ := sound.2.2.2.2.2.2.2.2.1 u _ _ read
        have viable : Viable IsPrimary ([.identifier name] ++ [.openParen] ++ [] ++ as) :=
          ⟨[.closeParen], _, _, by simpa using Primary.call (lookup?_eq_some_iff.1 hf) args⟩
        exact (Blames.readClose (passes.trans taken).leave viable).bind fun _ _ => .ok _
  · rename_i hr
    split
    · rename_i builtin
      intro e eq _
      cases eq
      refine ⟨[.identifier name], rest, hs, ⟨[], rfl, rfl, builtin, fun opens => ?_⟩,
        [.openParen, .number 0, .closeParen], ?_⟩
      · obtain ⟨rest', rfl⟩ := List.head?_eq_some_iff.1 opens
        exact hr rest' rfl
      · obtain ⟨f, hf⟩ := Option.isSome_iff_exists.1 builtin
        have zero : Arguments [.number 0] [.number 0] 0 :=
          .last (.first (.first (.base (.primary .number))))
        have call := Primary.call (lookup?_eq_some_iff.1 hf) zero
        exact ⟨_, _, call⟩
    · exact .ok _

theorem blames_primary : Blames IsPrimary s (readPrimary s) := by
  rw [readPrimary_eq]
  split
  · rename_i hs
    intro e eq _
    cases eq
    exact ⟨[], [], hs, rfl, [.number 0], _, _, .number⟩
  · exact .ok _
  · rename_i hs
    exact blames_identifier ih hs
  · rename_i rest hs
    refine (Blames.enter s _).bind fun t entered => ?_
    have passes := (Passes.past hs).trans (.enter entered)
    refine Blames.bind ?_ fun r read => ?_
    · refine (ih t (passes.length_lt (by simp))).expression.after passes fun w ⟨n, e, d, expr⟩ =>
        ⟨[.closeParen], ?_⟩
      exact ⟨_, _, by simpa using Primary.parens expr⟩
    · obtain ⟨ts, _, ⟨rfl, n, d, expr⟩, taken⟩ := sound.1 t _ _ read
      have viable : Viable IsPrimary ([.openParen] ++ [] ++ ts) :=
        ⟨[.closeParen], _, _, by simpa using Primary.parens expr⟩
      exact (Blames.readClose (passes.trans taken).leave viable).bind fun _ _ => .ok _
  · rename_i u rest _ _ _ hs
    intro e eq _
    cases eq
    exact ⟨[], _, rfl, ⟨rfl, congrArg List.head? hs⟩, [.number 0], _, _, .number⟩

theorem blames_unary : Blames IsUnary s (readUnary s) := by
  rw [readUnary_eq]
  split
  · exact (blames_primary ih).mono fun w ⟨e, d, primary⟩ => ⟨e, d, .primary primary⟩
  · rename_i op t hop
    obtain ⟨sign, ht, passes⟩ := Passes.nextOperator? hop
    refine (Blames.enter s t).bind fun u entered => ?_
    have passes := passes.trans (.enter entered)
    refine Blames.bind ?_ fun _ _ => .ok _
    refine (ih u (passes.length_lt (by simp))).unary.after passes fun w ⟨e, d, unary⟩ => ⟨[], ?_⟩
    cases sumOp?_eq_some_iff.1 ht with
    | plus => exact ⟨e, _, by simpa using .plus unary⟩
    | minus => exact ⟨.negate e, _, by simpa using .minus unary⟩

theorem blames_power : Blames IsPower s (readPower s) := by
  rw [readPower_eq]
  refine Blames.bind ?_ fun r read => ?_
  · exact (blames_unary ih).mono fun w ⟨e, d, unary⟩ => ⟨e, d, .base unary⟩
  · obtain ⟨ts, _, ⟨rfl, d, unary⟩, taken⟩ := sound.2.2.2.2.2.1 s _ _ read
    dsimp only
    split
    · exact .ok _
    · rename_i op t hop
      obtain ⟨caret, ht, next⟩ := Passes.nextOperator? hop
      obtain ⟨rfl, rfl⟩ := of_caretOp? ht
      refine (Blames.enter s t).bind fun u entered => ?_
      have passes := (taken.trans next).trans (.enter entered)
      refine Blames.bind ?_ fun _ _ => .ok _
      refine (ih u (passes.length_lt (by simp))).power.after passes fun w ⟨e, d, power⟩ => ⟨[], ?_⟩
      exact ⟨_, _, by simpa using Power.raised unary power⟩

theorem blames_term : Blames IsTerm s (readTerm s) := by
  rw [← productTier_read]
  exact productTier.blames_read soundOperand_productTier (blames_power ih) fun t shorter =>
    (ih t shorter).products

theorem blames_expression : Blames IsExpression s (readExpression s) := by
  rw [← sumTier_read]
  exact sumTier.blames_read soundOperand_sumTier
    ((blames_term ih).mono fun _ => isOperand_of_isTerm) fun t shorter =>
    (ih t shorter).sums

theorem blames_moreArguments (before : Expression n pre e d) (passed : Passes pre m s₀ s) :
    Blames IsArguments s₀ (readMoreArguments s) := by
  rw [readMoreArguments_eq]
  split
  · rename_i rest hs
    have next := Passes.past hs
    have shorter := next.length_lt (by simp)
    refine Blames.bind ?_ fun r read => Blames.bind ?_ fun _ _ => .ok _
    · refine (ih _ shorter).expression.after (passed.trans next) fun w ⟨n, e, d, expr⟩ => ⟨[], ?_⟩
      exact ⟨_, _, by simpa using Arguments.more before (.last expr)⟩
    · obtain ⟨ts, _, ⟨rfl, n, d, expr⟩, taken⟩ := sound.1 _ _ _ read
      have others := (ih r.2 (Nat.lt_of_le_of_lt taken.length_le shorter)).moreArguments expr taken
      refine others.after (passed.trans next) fun w ⟨es, d, args⟩ => ⟨[], ?_⟩
      exact ⟨_, _, by simpa using Arguments.more before args⟩
  · exact .ok _

theorem blames_arguments : Blames IsArguments s (readArguments s) := by
  rw [readArguments_eq]
  refine Blames.bind ?_ fun r read => Blames.bind ?_ fun _ _ => .ok _
  · exact (blames_expression ih).mono fun w ⟨n, e, d, expr⟩ => ⟨[e], d, .last expr⟩
  · obtain ⟨ts, _, ⟨rfl, n, d, expr⟩, taken⟩ := sound.1 s _ _ read
    exact (ih _ (taken.length_lt expr.ne_nil)).moreArguments expr taken

end Readers

theorem blamed (s : State) : Blamed s := by
  induction length : s.rest.length using Nat.strongRecOn generalizing s with
  | ind k ih =>
    subst length
    have ih : ∀ t : State, t.rest.length < s.rest.length → Blamed t :=
      fun t shorter => ih _ shorter t rfl
    exact {
      expression := blames_expression ih
      sums := sumTier.blames_links soundOperand_sumTier
        (fun t shorter => (ih t shorter).term.mono fun _ => isOperand_of_isTerm) fun t shorter =>
        (ih t shorter).sums
      products :=
        productTier.blames_links soundOperand_productTier (fun t shorter => (ih t shorter).power)
        fun t shorter => (ih t shorter).products
      term := blames_term ih
      power := blames_power ih
      unary := blames_unary ih
      arguments := blames_arguments ih
      moreArguments := blames_moreArguments ih }

end Grammar

open Grammar

def Extendable (ts : List Token) : Prop :=
  ∃ us e d, Derives (ts ++ us) e d

variable {ts right rest : List Token} {t : Token} {error : ParseError}

theorem not_derives_of_parse (h : parse ts = .error error) (shallow : ∀ p, error ≠ .tooDeep p) :
    ¬Derives ts e d := by
  intro derives
  by_cases allowed : d ≤ maxDepth
  · rw [derives.parse_reaches.1 allowed] at h
    cases h
  · obtain ⟨p, deep⟩ := derives.parse_reaches.2 (Nat.lt_of_not_le allowed)
    rw [deep] at h
    cases h
    exact shallow p rfl

theorem ParseError.Stands.reach (h : error.Stands 0 right rest)
    (shallow : ∀ p, error ≠ .tooDeep p) :
    error.reach (right.length + rest.length) = right.length := by
  cases error with
  | empty => cases h
  | unknownFunction | functionWithoutCall =>
    obtain ⟨before, rfl, rfl, -⟩ := h
    simp [ParseError.reach]
  | missingCloseParen =>
    rw [ParseError.reach, show _ = _ from h, Nat.zero_add]
  | unexpectedToken => rw [ParseError.reach, h.1, Nat.zero_add]
  | unexpectedEnd =>
    rw [ParseError.reach, show rest = [] from h]
    rfl
  | tooDeep p => exact absurd rfl (shallow p)

theorem stands_of_parse (ne : ts ≠ []) (h : parse ts = .error error)
    (shallow : ∀ p, error ≠ .tooDeep p) :
    ∃ right rest, ts = right ++ rest ∧ error.Stands 0 right rest ∧ Extendable right := by
  rw [parse_eq_error_iff ne, readAll] at h
  cases read : readExpression (.start ts) with
  | error e =>
    rw [read] at h
    cases h
    obtain ⟨right, rest, split, stands, us, n, e, d, expr⟩ :=
      (blamed (.start ts)).expression _ read shallow
    exact ⟨right, rest, split, stands, us, e, d, n, expr⟩
  | ok r =>
    obtain ⟨e, s⟩ := r
    obtain ⟨right, _, ⟨rfl, n, d, expr⟩, taken⟩ := sound.1 _ _ _ read
    have extendable : Extendable right := ⟨[], e, d, n, by rwa [List.append_nil]⟩
    simp only [read, bind, Except.bind] at h
    split at h
    · cases h
    · rename_i hs
      cases h
      exact ⟨right, s.rest, taken.rest, ⟨taken.position, congrArg List.head? hs⟩, extendable⟩

theorem not_extendable_of_stands (h : parse (right ++ t :: rest) = .error error)
    (shallow : ∀ p, error ≠ .tooDeep p)
    (stands : error.Stands 0 right (t :: rest)) : ¬Extendable (right ++ [t]) := by
  rintro ⟨us, e, d, derives⟩
  let c : Comparison := ⟨id, fun _ => rfl, right.length + 1, (right ++ t :: rest).length⟩
  have ahead : SameAhead c (.start (right ++ t :: rest)) (.start (right ++ [t] ++ us)) :=
    ⟨rfl, rfl, by simp [State.start, c, List.take_append], by simp [State.start, c]⟩
  have same := same_readAll ahead
  rw [parse_eq_error_iff (by simp)] at h
  rw [h] at same
  have reach : error.reach c.total = right.length := by
    simpa only [c, List.length_append] using stands.reach shallow
  obtain ⟨error', h', renamed⟩ := same.2 (reach ▸ Nat.lt_succ_self _)
  rw [error.rename_id, error'.rename_id] at renamed
  subst renamed
  exact not_derives_of_parse ((parse_eq_error_iff (by simp)).2 h') shallow derives

/--
What an error says of the tokens. Those before the one it names can all be right, and that one
cannot, whatever follows: it is at the error's place, or next to the name that is there.
-/
def ParseError.Points (ts : List Token) : ParseError → Prop
  | .empty => ts = []
  | .unexpectedToken t p => Extendable (ts.take p) ∧ ts[p]? = some t ∧ ¬Extendable (ts.take (p + 1))
  | .missingCloseParen p =>
    p ≤ ts.length ∧ Extendable (ts.take p) ∧ (p < ts.length → ¬Extendable (ts.take (p + 1)))
  | .unknownFunction name p => ts[p]? = some (.identifier name) ∧ Builtin.lookup? name = none ∧
    ts[p + 1]? = some .openParen ∧ Extendable (ts.take (p + 1)) ∧ ¬Extendable (ts.take (p + 2))
  | .functionWithoutCall name p => ts[p]? = some (.identifier name) ∧ Builtin.isName name = true ∧
    ts[p + 1]? ≠ some .openParen ∧ Extendable (ts.take (p + 1)) ∧
    (p + 1 < ts.length → ¬Extendable (ts.take (p + 2)))
  | .unexpectedEnd => Extendable ts ∧ ¬∃ e d, Derives ts e d
  | .tooDeep _ => True

theorem getElem?_right (right rest : List Token) : (right ++ rest)[right.length]? = rest.head? := by
  rw [List.getElem?_append_right (Nat.le_refl _), Nat.sub_self, List.head?_eq_getElem?]

theorem points_of_stands (stands : error.Stands 0 right rest) (extendable : Extendable right)
    (ends : ∀ t us, rest = t :: us → ¬Extendable (right ++ [t]))
    (underivable : ¬∃ e d, Derives (right ++ rest) e d) :
    error.Points (right ++ rest) := by
  have upto : Extendable ((right ++ rest).take right.length) := by rwa [List.take_left]
  have past : right.length < (right ++ rest).length →
      ¬Extendable ((right ++ rest).take (right.length + 1)) := by
    intro within
    cases rest with
    | nil => simp at within
    | cons t us => simpa [List.take_append, List.take_of_length_le] using ends t us rfl
  have next := getElem?_right right rest
  have within : ∀ t, rest.head? = some t → right.length < (right ++ rest).length := by
    rintro t head
    obtain ⟨us, rfl⟩ := List.head?_eq_some_iff.1 head
    simp
  cases error with
  | empty => cases stands
  | unexpectedToken t p =>
    obtain ⟨place, head⟩ := stands
    rw [Nat.zero_add] at place
    subst place
    exact ⟨upto, next.trans head, past (within t head)⟩
  | missingCloseParen p =>
    have place : p = 0 + right.length := stands
    rw [Nat.zero_add] at place
    subst place
    exact ⟨by simp, upto, past⟩
  | unknownFunction name p =>
    obtain ⟨before, rfl, place, unknown, opens⟩ := stands
    rw [Nat.zero_add] at place
    subst place
    rw [List.length_append, List.length_singleton] at upto past next within
    exact ⟨by simp, unknown, next.trans opens, upto, past (within _ opens)⟩
  | functionWithoutCall name p =>
    obtain ⟨before, rfl, place, builtin, closed⟩ := stands
    rw [Nat.zero_add] at place
    subst place
    rw [List.length_append, List.length_singleton] at upto past next
    exact ⟨by simp, builtin, fun opens => closed (next.symm.trans opens), upto, past⟩
  | unexpectedEnd =>
    have none : rest = [] := stands
    subst none
    rw [List.append_nil] at underivable ⊢
    exact ⟨extendable, underivable⟩
  | tooDeep p => trivial

/--
Every error but that for the depth points at the first token that cannot be right, if there is one.
-/
theorem points_of_parse (ts : List Token) (error : ParseError) (h : parse ts = .error error) :
    error.Points ts := by
  by_cases ne : ts = []
  · subst ne
    cases h
    rfl
  by_cases shallow : ∀ p, error ≠ .tooDeep p
  · obtain ⟨right, rest, rfl, stands, extendable⟩ := stands_of_parse ne h shallow
    refine points_of_stands stands extendable ?_ fun ⟨e, d, derives⟩ =>
      not_derives_of_parse h shallow derives
    rintro t us rfl
    exact not_extendable_of_stands h shallow stands
  · obtain ⟨p, rfl⟩ : ∃ p, error = .tooDeep p := by simpa using shallow
    trivial

theorem Grammar.readExpression_eq_error {s : State} (h : readUnary s = .error e) :
    readExpression s = .error e := by
  rw [readExpression_eq, readSumChain, readTerm_eq, readProductChain, readPower_eq, h]
  rfl

theorem Grammar.readUnary_eq_readPrimary {s : State} (h : nextOperator? sumOp? s = none) :
    readUnary s = readPrimary s := by
  rw [readUnary_eq, h]

open Grammar in
theorem points_of_parse_argument :
    parse [.operator .minus, .openParen, .identifier "max", .openParen, .identifier "f", .openParen,
      .closeParen] =
      .error (.unknownFunction "f" 4) ∧
    Extendable [.operator .minus, .openParen, .identifier "max", .openParen, .identifier "f"] ∧
    ¬Extendable [.operator .minus, .openParen, .identifier "max", .openParen, .identifier "f",
      .openParen] := by
  have refused : parse [.operator .minus, .openParen, .identifier "max", .openParen,
      .identifier "f", .openParen,
      .closeParen] = .error (.unknownFunction "f" 4) := by
    have known : Builtin.lookup? "max" = some .max := by decide
    have unknown : Builtin.lookup? "f" = none := by decide
    have inner : readExpression ⟨[.identifier "f", .openParen, .closeParen], 4, 3⟩ =
        .error (.unknownFunction "f" 4) := by
      refine readExpression_eq_error ((readUnary_eq_readPrimary rfl).trans ?_)
      rw [readPrimary_eq]
      dsimp only
      rw [readIdentifier_eq]
      dsimp only [State.past]
      rw [unknown]
    have outer : readExpression
        ⟨[.identifier "max", .openParen, .identifier "f", .openParen, .closeParen], 2, 2⟩ =
        .error (.unknownFunction "f" 4) := by
      refine readExpression_eq_error ((readUnary_eq_readPrimary rfl).trans ?_)
      rw [readPrimary_eq]
      dsimp only
      rw [readIdentifier_eq]
      dsimp only [State.past]
      rw [known]
      change readArguments ⟨_, 4, 3⟩ >>= _ = _
      rw [readArguments_eq, inner]
      rfl
    have enclosed :
        readUnary
        ⟨[.openParen, .identifier "max", .openParen, .identifier "f", .openParen, .closeParen], 1,
          1⟩ =
        .error (.unknownFunction "f" 4) := by
      refine (readUnary_eq_readPrimary rfl).trans ?_
      rw [readPrimary_eq]
      dsimp only [State.past]
      change readExpression ⟨_, 2, 2⟩ >>= _ = _
      rw [outer]
      rfl
    rw [parse_eq (List.cons_ne_nil _ _), readExpression_eq_error]
    · rfl
    · rw [readUnary_eq]
      change readUnary ⟨[.openParen, _, _, _, _, _], 1, 1⟩ >>= _ = _
      rw [enclosed]
      rfl
  obtain ⟨-, -, -, extendable, not⟩ := points_of_parse _ _ refused
  exact ⟨refused, extendable, not⟩

end GameBalance.Formula
