import GameBalance.Proofs.Formula.Script

/-!
What the readers keep of positions and levels. A reader never goes back,
it stands at the same depth when it has answered as when it was asked, and
whatever it asks costs less than itself, so every reading comes to an end.
-/

namespace GameBalance.Formula.Grammar

/-- What is left are the tokens from the position on, and no level too many is open. -/
structure State.Within (tokens : List Token) (s : State) : Prop where
  rest : s.rest = tokens.drop s.position
  position : s.position ≤ tokens.length
  depth : s.depth ≤ maxDepth

variable {tokens : List Token} {s s₀ s₁ s' : State} {c : Call} {α : Type}

namespace State.Within

theorem start (tokens : List Token) : (State.start tokens).Within tokens :=
  ⟨rfl, Nat.zero_le _, Nat.zero_le _⟩

theorem past (h : s.Within tokens) (rest : s.rest = t :: us) : (s.past us).Within tokens where
  rest := by
    have tail := congrArg List.tail (h.rest.symm.trans rest)
    rwa [List.tail_drop, List.tail_cons, eq_comm] at tail
  position := by
    have left : 0 < (tokens.drop s.position).length := by
      rw [← h.rest, rest]
      exact Nat.zero_lt_succ _
    rw [List.length_drop] at left
    exact Nat.lt_of_sub_pos left
  depth := h.depth

theorem enter (h : s.Within tokens) (eq : s.enter = .ok s') :
    s'.Within tokens ∧ s'.position = s.position ∧ s'.depth = s.depth + 1 := by
  rw [State.enter] at eq
  split at eq
  · rename_i free
    cases eq
    exact ⟨⟨h.rest, h.position, free⟩, rfl, rfl⟩
  · cases eq

theorem leave (h : s.Within tokens) : s.leave.Within tokens :=
  ⟨h.rest, h.position, Nat.le_trans (Nat.sub_le _ _) h.depth⟩

theorem back (h : s.Within tokens) (h' : s'.Within tokens) :
    State.Within tokens { s' with depth := s.depth } :=
  ⟨h'.rest, h'.position, h.depth⟩

theorem nextOperator? (h : s.Within tokens) (eq : nextOperator? kind s = some (op, s')) :
    s'.Within tokens ∧ s'.position = s.position + 1 ∧ s'.depth = s.depth := by
  rw [Grammar.nextOperator?] at eq
  split at eq
  · cases eq
  · rename_i rest
    obtain ⟨op, -, eq⟩ := Option.map_eq_some_iff.1 eq
    cases eq
    exact ⟨h.past rest, rfl, rfl⟩

theorem close (h : s.Within tokens) (eq : readClose s = .ok s') :
    s'.Within tokens ∧ s'.position = s.position + 1 ∧ s'.depth = s.depth := by
  rw [readClose] at eq
  split at eq
  · rename_i rest
    cases eq
    exact ⟨h.past rest, rfl, rfl⟩
  · cases eq

end State.Within

namespace Call

def least : Call → Nat
  | .sums _ | .products _ | .identifier _ _ | .moreArguments => 0
  | _ => 1

/--
The reader of further links of a chain. It leaves their
levels open, and the reader of the whole chain closes them.
-/
def IsLink : Call → Prop
  | .sums _ | .products _ => True
  | _ => False

def levels : Call → Call → Nat
  | .sums _, _ | .products _, _ | .power, .power | .unary, .unary => 1
  | .primary, .expression | .identifier _ _, .arguments => 1
  | _, _ => 0

def rank : Call → Nat
  | .arguments => 5
  | .expression => 4
  | .term => 3
  | .power => 2
  | .unary => 1
  | .sums _ | .products _ | .primary | .identifier _ _ | .moreArguments => 0

/--
A bound on the readers that are still to be asked,
one below another: no more than six for each token.
-/
def cost (tokens : List Token) (c : Call) (s : State) : Nat :=
  6 * (tokens.length - s.position) + c.rank

theorem rank_le (c : Call) : c.rank ≤ 5 := by
  cases c <;> simp [rank]

theorem cost_lt_of_position {c' : Call} (h : s.Within tokens) (lt : s₀.position < s.position) :
    c'.cost tokens s < c.cost tokens s₀ := by
  have rank := c'.rank_le
  have bound := h.position
  rw [cost, cost]
  omega

structure Keeps (tokens : List Token) (c : Call) (s s' : State) : Prop where
  within : s'.Within tokens
  position : s.position + c.least ≤ s'.position
  depth : ¬c.IsLink → s'.depth = s.depth

end Call

/--
Every move from the position `k` on goes forward, and the
answer to each question is one that may be relied on.
-/
def Script.Sound (tokens : List Token) (c : Call) (s₀ : State) : Script α → Nat → Prop
  | .fail _, _ => True
  | .answer _ s, k => k ≤ s.position ∧ c.Keeps tokens s₀ s
  | .move s next, k => k ≤ s.position ∧ s.Within tokens ∧ next.Sound tokens c s₀ s.position
  | .ask c' s next, k => k ≤ s.position ∧ s.Within tokens ∧ s.depth = s₀.depth + c.levels c' ∧
    c'.cost tokens s < c.cost tokens s₀ ∧
    ∀ a s', c'.Keeps tokens s s' → (next a s').Sound tokens c s₀ s'.position

namespace Script

theorem sound_enter {next : State → Script α} (within : s.Within tokens) (le : k ≤ s.position)
    (h : ∀ s', s'.Within tokens → s'.position = s.position → s'.depth = s.depth + 1 →
      (next s').Sound tokens c s₀ s'.position) :
    (attempt s s.enter next).Sound tokens c s₀ k := by
  refine ⟨le, within, ?_⟩
  split
  · rename_i eq
    obtain ⟨within, position, depth⟩ := within.enter eq
    exact position ▸ h _ within position depth
  · trivial

theorem sound_deeper {operand : Call} {next : operand.Value → State → Script α}
    (within : s.Within tokens)
    (le : k ≤ s.position) (forward : s₀.position < s.position) (depth : s.depth = s₀.depth)
    (levels : c.levels operand = 1) (closes : ¬operand.IsLink)
    (h : ∀ a s', s'.Within tokens → s.position + operand.least ≤ s'.position →
      s'.depth = s₀.depth + 1 →
      (next a s').Sound tokens c s₀ s'.position) :
    (attempt s s.enter fun s' => .ask operand s' next).Sound tokens c s₀ k := by
  refine sound_enter within le fun s' within' position' depth' => ?_
  have deeper : s'.depth = s₀.depth + 1 := by rw [depth', depth]
  refine ⟨Nat.le_refl _, within', levels.symm ▸ deeper,
    Call.cost_lt_of_position within' (position' ▸ forward), ?_⟩
  exact fun a s'' keeps =>
    h a s'' keeps.within (position' ▸ keeps.position) ((keeps.depth closes).trans deeper)

theorem sound_close (a : α) (within : s.Within tokens) (le : k ≤ s.position)
    (h : ∀ s', s'.Within tokens → s'.position = s.position + 1 → s'.depth = s.depth →
      c.Keeps tokens s₀ s') :
    (attempt s (readClose s) (.answer a)).Sound tokens c s₀ k := by
  refine ⟨le, within, ?_⟩
  split
  · rename_i eq
    obtain ⟨within, position, depth⟩ := within.close eq
    exact ⟨position ▸ Nat.le_succ _, h _ within position depth⟩
  · trivial

end Script

open Script

section Readers

variable (h : s.Within tokens)

include h

theorem sound_chain (operand : Call) (more : operand.Value → Call)
    (value : ∀ first, (more first).Value → α)
    (rank : operand.rank < c.rank) (least : c.least = operand.least) (takes : 0 < operand.least)
    (closes : ¬operand.IsLink) (level : c.levels operand = 0)
    (levels : ∀ first, c.levels (more first) = 0) :
    (Script.ask operand s fun first s₁ => .ask (more first) s₁ fun e s₂ =>
      .answer (value first e) { s₂ with depth := s.depth }).Sound tokens c s s.position := by
  refine ⟨Nat.le_refl _, h, level.symm ▸ rfl, Nat.add_lt_add_left rank _, fun first s₁ k₁ => ?_⟩
  have taken : s.position < s₁.position :=
    Nat.lt_of_lt_of_le (Nat.lt_add_of_pos_right takes) k₁.position
  have depth : s₁.depth = s.depth + c.levels (more first) :=
    (k₁.depth closes).trans (levels first ▸ rfl)
  refine ⟨Nat.le_refl _, k₁.within, depth, Call.cost_lt_of_position k₁.within taken,
    fun e s₂ k₂ => ?_⟩
  have position : s.position + c.least ≤ s₁.position := least ▸ k₁.position
  exact ⟨Nat.le_refl _, h.back k₂.within,
    Nat.le_trans position (Nat.le_of_add_right_le k₂.position), fun _ => rfl⟩

theorem sound_expression : (Call.expression.script s).Sound tokens .expression s s.position :=
  sound_chain (c := .expression) h .term .sums (fun _ e => e) (by decide) rfl (by decide) id rfl
    fun _ => rfl

theorem sound_term : (Call.term.script s).Sound tokens .term s s.position :=
  sound_chain (c := .term) h .power .products (fun _ e => e) (by decide) rfl (by decide) id rfl
    fun _ => rfl

theorem sound_link (kind : Token → Option BinaryOp) (operand : Call)
    (more : BinaryOp → operand.Value → Call)
    (value : ∀ op right, (more op right).Value → α) (a : α) (link : c.IsLink) (least : c.least = 0)
    (closes : ¬operand.IsLink) (levels : ∀ c', c.levels c' = 1) :
    (match nextOperator? kind s with
    | none => Script.answer a s
    | some (op, s₁) => .attempt s₁ s₁.enter fun s₂ => .ask operand s₂ fun right s₃ =>
        .ask (more op right) s₃ fun e s₄ =>
          .answer (value op right e) s₄).Sound tokens c s s.position := by
  have stays : ∀ {s'}, s'.Within tokens → s.position ≤ s'.position → c.Keeps tokens s s' :=
    fun within le =>
    ⟨within, least.symm ▸ le, fun closes => absurd link closes⟩
  split
  · exact ⟨Nat.le_refl _, stays h (Nat.le_refl _)⟩
  · rename_i op s₁ operator
    obtain ⟨within₁, position₁, depth₁⟩ := h.nextOperator? operator
    have forward : s.position < s₁.position := position₁ ▸ Nat.lt_succ_self _
    refine sound_deeper within₁ (Nat.le_of_lt forward) forward depth₁ (levels _) closes
      fun right s₃ within₃ position₃ depth₃ => ?_
    have forward₃ : s.position < s₃.position :=
      Nat.lt_of_lt_of_le forward (Nat.le_of_add_right_le position₃)
    refine ⟨Nat.le_refl _, within₃, (levels _).symm ▸ depth₃,
      Call.cost_lt_of_position within₃ forward₃, fun e s₄ k₄ => ?_⟩
    exact ⟨Nat.le_refl _,
      stays k₄.within (Nat.le_trans (Nat.le_of_lt forward₃) (Nat.le_of_add_right_le k₄.position))⟩

theorem sound_sums (left : Expr) :
    ((Call.sums left).script s).Sound tokens (.sums left) s s.position :=
  sound_link (c := .sums left) h sumOp? .term (fun op right => .sums (.binary op left right))
    (fun _ _ e => e) left
    trivial rfl id fun _ => rfl

theorem sound_products (left : Expr) :
    ((Call.products left).script s).Sound tokens (.products left) s s.position :=
  sound_link (c := .products left) h productOp? .power
    (fun op right => .products (.binary op left right))
    (fun _ _ e => e) left trivial rfl id fun _ => rfl

theorem sound_power : (Call.power.script s).Sound tokens .power s s.position := by
  refine ⟨Nat.le_refl _, h, rfl, Nat.add_lt_add_left (by decide) _, fun base s₁ k₁ => ?_⟩
  have taken : s.position < s₁.position := k₁.position
  have depth : s₁.depth = s.depth := k₁.depth id
  dsimp only
  split
  · exact ⟨Nat.le_refl _, k₁.within, taken, fun _ => depth⟩
  · rename_i op s₂ operator
    obtain ⟨within₂, position₂, depth₂⟩ := k₁.within.nextOperator? operator
    have forward : s₁.position < s₂.position := position₂ ▸ Nat.lt_succ_self _
    refine sound_deeper within₂ (Nat.le_of_lt forward) (Nat.lt_trans taken forward)
      (depth₂.trans depth) rfl id
      fun exponent s₄ within₄ position₄ depth₄ => ?_
    have forward₄ : s.position < s₄.position := Nat.lt_trans (Nat.lt_trans taken forward) position₄
    exact ⟨Nat.le_refl _, within₄.leave, forward₄, fun _ => Nat.sub_eq_of_eq_add depth₄⟩

theorem sound_unary : (Call.unary.script s).Sound tokens .unary s s.position := by
  rw [Call.script]
  split
  · refine ⟨Nat.le_refl _, h, rfl, Nat.add_lt_add_left (by decide) _, fun e s₁ k₁ => ?_⟩
    exact ⟨Nat.le_refl _, k₁.within, k₁.position, fun _ => k₁.depth id⟩
  · rename_i op s₁ operator
    obtain ⟨within₁, position₁, depth₁⟩ := h.nextOperator? operator
    have forward : s.position < s₁.position := position₁ ▸ Nat.lt_succ_self _
    refine sound_deeper within₁ (Nat.le_of_lt forward) forward depth₁ rfl id
      fun e s₃ within₃ position₃ depth₃ => ?_
    exact ⟨Nat.le_refl _, within₃.leave, Nat.lt_trans forward position₃,
      fun _ => Nat.sub_eq_of_eq_add depth₃⟩

theorem sound_primary : (Call.primary.script s).Sound tokens .primary s s.position := by
  rw [Call.script]
  have step : s.position < s.position + 1 := Nat.lt_succ_self _
  split
  · trivial
  · rename_i rest
    exact ⟨Nat.le_of_lt step, h.past rest, step, fun _ => rfl⟩
  · rename_i name us rest
    have within := h.past rest
    refine ⟨Nat.le_of_lt step, within, rfl, Call.cost_lt_of_position within step, fun e s₁ k₁ => ?_⟩
    exact ⟨Nat.le_refl _, k₁.within, k₁.position, fun _ => k₁.depth id⟩
  · rename_i us rest
    refine sound_deeper (h.past rest) (Nat.le_of_lt step) step rfl rfl id
      fun e s₂ within₂ position₂ depth₂ => ?_
    refine sound_close e within₂.leave (Nat.le_refl _) fun s₃ within₃ position₃ depth₃ => ?_
    have forward : s.position < s₃.position :=
      position₃ ▸ Nat.lt_succ_of_lt (Nat.lt_trans step position₂)
    exact ⟨within₃, forward, fun _ => depth₃.trans (Nat.sub_eq_of_eq_add depth₂)⟩
  · rename_i rest
    exact ⟨Nat.le_of_lt step, h.past rest, trivial⟩

theorem sound_identifier (name : String) (start : Nat) :
    ((Call.identifier name start).script s).Sound tokens (.identifier name start) s s.position := by
  rw [Call.script]
  have step : s.position < s.position + 1 := Nat.lt_succ_self _
  split
  · rename_i us rest
    split
    · exact ⟨Nat.le_of_lt step, h.past rest, trivial⟩
    · refine sound_deeper (h.past rest) (Nat.le_of_lt step) step rfl rfl id
        fun args s₂ within₂ position₂ depth₂ => ?_
      refine sound_close _ within₂.leave (Nat.le_refl _) fun s₃ within₃ position₃ depth₃ => ?_
      have forward : s.position < s₃.position :=
        position₃ ▸ Nat.lt_succ_of_lt (Nat.lt_trans step position₂)
      exact ⟨within₃, Nat.le_of_lt forward, fun _ => depth₃.trans (Nat.sub_eq_of_eq_add depth₂)⟩
  · split
    · trivial
    · exact ⟨Nat.le_refl _, h, Nat.le_refl _, fun _ => rfl⟩

theorem sound_arguments : (Call.arguments.script s).Sound tokens .arguments s s.position := by
  refine ⟨Nat.le_refl _, h, rfl, Nat.add_lt_add_left (by decide) _, fun first s₁ k₁ => ?_⟩
  have taken : s.position < s₁.position := k₁.position
  have depth : s₁.depth = s.depth := k₁.depth id
  refine ⟨Nat.le_refl _, k₁.within, depth, Call.cost_lt_of_position k₁.within taken,
    fun others s₂ k₂ => ?_⟩
  exact ⟨Nat.le_refl _, k₂.within, Nat.le_trans taken k₂.position,
    fun _ => (k₂.depth id).trans depth⟩

theorem sound_moreArguments :
    (Call.moreArguments.script s).Sound tokens .moreArguments s s.position := by
  rw [Call.script]
  have step : s.position < s.position + 1 := Nat.lt_succ_self _
  split
  · rename_i us rest
    have within := h.past rest
    refine ⟨Nat.le_of_lt step, within, rfl, Call.cost_lt_of_position within step, fun e s₁ k₁ => ?_⟩
    have forward : s.position < s₁.position := Nat.lt_trans step k₁.position
    have depth : s₁.depth = s.depth := k₁.depth id
    refine ⟨Nat.le_refl _, k₁.within, depth, Call.cost_lt_of_position k₁.within forward,
      fun others s₂ k₂ => ?_⟩
    have forward₂ : s₁.position ≤ s₂.position := k₂.position
    exact ⟨Nat.le_refl _, k₂.within, Nat.le_trans (Nat.le_of_lt forward) forward₂,
      fun _ => (k₂.depth id).trans depth⟩
  · exact ⟨Nat.le_refl _, h, Nat.le_refl _, fun _ => rfl⟩

theorem sound_script (c : Call) : (c.script s).Sound tokens c s s.position := by
  cases c with
  | expression => exact sound_expression h
  | sums left => exact sound_sums h left
  | term => exact sound_term h
  | products left => exact sound_products h left
  | power => exact sound_power h
  | unary => exact sound_unary h
  | primary => exact sound_primary h
  | identifier name start => exact sound_identifier h name start
  | arguments => exact sound_arguments h
  | moreArguments => exact sound_moreArguments h

end Readers

theorem Script.Sound.keeps {a : α} : {p : Script α} → p.Sound tokens c s₀ k →
    (∀ (c' : Call) (s : State), c'.cost tokens s < c.cost tokens s₀ → s.Within tokens →
      ∀ a s', c'.read s = .ok (a, s') →
      c'.Keeps tokens s s') →
    p.run = .ok (a, s') → c.Keeps tokens s₀ s'
  | .fail _, _, _, eq => nomatch eq
  | .answer _ _, ⟨_, keeps⟩, _, eq => by
    cases eq
    exact keeps
  | .move _ _, ⟨_, _, sound⟩, ih, eq => sound.keeps ih eq
  | .ask c' s _, ⟨_, within, _, cost, next⟩, ih, eq => by
    rw [Script.run] at eq
    cases read : c'.read s with
    | error e =>
      rw [read] at eq
      cases eq
    | ok r =>
      rw [read] at eq
      exact (next r.1 r.2 (ih c' s cost within r.1 r.2 read)).keeps ih eq

theorem cost_induction {P : Call → State → Prop} (h : ∀ c s, s.Within tokens →
    (∀ (c' : Call) (s' : State), c'.cost tokens s' < c.cost tokens s → s'.Within tokens →
      P c' s') → P c s) (c : Call) (s : State)
    (within : s.Within tokens) : P c s := by
  induction cost : c.cost tokens s using Nat.strongRecOn generalizing c s with
  | ind n ih => exact h c s within fun c' s' less within' => ih _ (cost ▸ less) c' s' within' rfl

theorem Call.keeps (c : Call) {a : c.Value} (h : s.Within tokens) (read : c.read s = .ok (a, s')) :
    c.Keeps tokens s s' := by
  refine cost_induction (P := fun c s => ∀ a s', c.read s = .ok (a, s') → c.Keeps tokens s s') ?_ c
    s h a s' read
  intro c s within ih a s' read
  exact (sound_script within c).keeps ih ((c.read_eq_run s).symm.trans read)

theorem Script.Asks.sound {p : Script α} {c' : Call} (asks : p.Asks c' s')
    (h : p.Sound tokens c s₀ k) :
    s'.Within tokens ∧ s'.depth = s₀.depth + c.levels c' ∧
    c'.cost tokens s' < c.cost tokens s₀ := by
  induction asks generalizing k with
  | here => exact ⟨h.2.1, h.2.2.1, h.2.2.2.1⟩
  | move asks ih => exact ih h.2.2
  | later read asks ih => exact ih (h.2.2.2.2 _ _ (Call.keeps _ h.2.1 read))

/-- The positions of a trace go forward, from `k` to that of the answer. -/
structure Forward (tokens : List Token) (k : Nat) (log : List State)
    (r : Except ParseError (α × State)) : Prop where
  within : ∀ s ∈ log, s.Within tokens
  least : ∀ s ∈ log, k ≤ s.position
  sorted : log.Pairwise (·.position ≤ ·.position)
  most : ∀ a s', r = .ok (a, s') → ∀ s ∈ log, s.position ≤ s'.position
  last : ∀ a s', r = .ok (a, s') → k ≤ s'.position

namespace Forward

variable {log log' : List State} {r : Except ParseError (α × State)}

theorem nil (e : ParseError) : Forward tokens k [] (.error e : Except ParseError (α × State)) :=
  ⟨by simp, by simp, .nil, by simp, by simp⟩

theorem cons (within : s.Within tokens) (le : k ≤ s.position)
    (h : Forward tokens s.position log r) :
    Forward tokens k (s :: log) r where
  within := List.forall_mem_cons.2 ⟨within, h.within⟩
  least := List.forall_mem_cons.2 ⟨le, fun s' mem => Nat.le_trans le (h.least s' mem)⟩
  sorted := List.pairwise_cons.2 ⟨h.least, h.sorted⟩
  most a s' eq := List.forall_mem_cons.2 ⟨h.last a s' eq, h.most a s' eq⟩
  last a s' eq := Nat.le_trans le (h.last a s' eq)

theorem mono (le : k ≤ n) (h : Forward tokens n log r) : Forward tokens k log r :=
  { h with
    least := fun s mem => Nat.le_trans le (h.least s mem)
    last := fun a s' eq => Nat.le_trans le (h.last a s' eq) }

theorem error {r : Except ParseError (β × State)} (h : Forward tokens k log r) (e : ParseError) :
    Forward tokens k log (.error e : Except ParseError (α × State)) :=
  ⟨h.within, h.least, h.sorted, by simp, by simp⟩

theorem append {a : β} (h : Forward tokens k log (.ok (a, s) : Except ParseError (β × State)))
    (h' : Forward tokens s.position log' r) : Forward tokens k (log ++ log') r where
  within := List.forall_mem_append.2 ⟨h.within, h'.within⟩
  least :=
    List.forall_mem_append.2
      ⟨h.least, fun s' mem => Nat.le_trans (h.last a s rfl) (h'.least s' mem)⟩
  sorted := List.pairwise_append.2 ⟨h.sorted, h'.sorted, fun s₁ mem₁ s₂ mem₂ =>
    Nat.le_trans (h.most a s rfl s₁ mem₁) (h'.least s₂ mem₂)⟩
  most b s' eq :=
  List.forall_mem_append.2 ⟨fun s₁ mem => Nat.le_trans (h.most a s rfl s₁ mem) (h'.last b s' eq),
    h'.most b s' eq⟩
  last b s' eq := Nat.le_trans (h.last a s rfl) (h'.last b s' eq)

end Forward

mutual

theorem Call.Trace.forward {c : Call} {s : State} {r : Except ParseError (c.Value × State)} :
    c.Trace s log r → s.Within tokens → Forward tokens s.position log r
  | .body h, within => .cons within (Nat.le_refl _) (h.forward (sound_script within c))

theorem Script.Trace.forward {α : Type} {p : Script α} {r : Except ParseError (α × State)}
    {c : Call} {s₀ : State} :
    p.Trace log r → p.Sound tokens c s₀ k → Forward tokens k log r
  | .fail, _ => .nil _
  | .answer, ⟨le, keeps⟩ => ⟨by simp [keeps.within], by simp [le], by simp, by simp, by simp [le]⟩
  | .move h, ⟨le, within, sound⟩ => .cons within le (h.forward sound)
  | .refused h, ⟨le, within, _⟩ => ((h.forward within).mono le).error _
  | .asked h h', ⟨le, within, _, _, next⟩ =>
    ((h.forward within).mono le).append (h'.forward (next _ _ (Call.keeps _ within h.result.symm)))

end

theorem Script.Sound.exists_trace : {p : Script α} → p.Sound tokens c s₀ k →
    (∀ (c' : Call) (s : State), c'.cost tokens s < c.cost tokens s₀ → s.Within tokens →
      ∃ log, c'.Trace s log (c'.read s)) →
    ∃ log, p.Trace log p.run
  | .fail _, _, _ => ⟨_, .fail⟩
  | .answer _ _, _, _ => ⟨_, .answer⟩
  | .move _ _, ⟨_, _, sound⟩, ih =>
    have ⟨_, trace⟩ := sound.exists_trace ih
    ⟨_, .move trace⟩
  | .ask c' s _, ⟨_, within, _, cost, next⟩, ih => by
    obtain ⟨log, trace⟩ := ih c' s cost within
    rw [Script.run]
    cases read : c'.read s with
    | error e => exact ⟨log, .refused (read ▸ trace)⟩
    | ok r =>
      obtain ⟨log', trace'⟩ := (next r.1 r.2 (Call.keeps c' within read)).exists_trace ih
      exact ⟨log ++ log', .asked (read ▸ trace) trace'⟩

theorem Call.exists_trace (c : Call) (h : s.Within tokens) : ∃ log, c.Trace s log (c.read s) := by
  refine cost_induction (P := fun c s => ∃ log, c.Trace s log (c.read s)) ?_ c s h
  intro c s within ih
  obtain ⟨log, trace⟩ := (sound_script within c).exists_trace ih
  exact ⟨s :: log, .body (c.read_eq_run s ▸ trace)⟩

/-- Whatever the tokens are, in whatever state a reader is asked. -/
theorem readers_keep_position_and_depth (tokens : List Token) :
    (State.start tokens).Within tokens ∧
    (∀ (c : Call) (s : State), s.Within tokens →
      (∀ a s', c.read s = .ok (a, s') →
        (¬c.IsLink → s'.depth = s.depth) ∧ s.position + c.least ≤ s'.position ∧
        s'.position ≤ tokens.length) ∧
      (∃ log, (∀ log' r, c.Trace s log' r ↔ log' = log ∧ r = c.read s) ∧
        (∀ s' ∈ log, s'.Within tokens) ∧ log.Pairwise (·.position ≤ ·.position)) ∧
      ∀ c' s', (c.script s).Asks c' s' → s'.Within tokens ∧ s'.depth = s.depth + c.levels c') ∧
    WellFounded fun x y : Call × State => y.2.Within tokens ∧ (y.1.script y.2).Asks x.1 x.2 := by
  refine ⟨.start tokens, fun c s within => ⟨?answer, ?trace, ?asked⟩, ?ends⟩
  case answer =>
    intro a s' read
    have keeps := c.keeps within read
    exact ⟨keeps.depth, keeps.position, keeps.within.position⟩
  case trace =>
    obtain ⟨log, trace⟩ := c.exists_trace within
    refine ⟨log, fun log' r => ⟨fun h => ⟨h.unique trace, h.result⟩, ?_⟩, ?_⟩
    · rintro ⟨rfl, rfl⟩
      exact trace
    · have forward := trace.forward within
      exact ⟨forward.within, forward.sorted⟩
  case asked =>
    intro c' s' asks
    obtain ⟨within', depth, -⟩ := asks.sound (sound_script within c)
    exact ⟨within', depth⟩
  case ends =>
    refine Subrelation.wf ?_ (measure fun x : Call × State => x.1.cost tokens x.2).wf
    rintro ⟨c', s'⟩ ⟨c, s⟩ ⟨within, asks⟩
    exact (asks.sound (sound_script within c)).2.2

end GameBalance.Formula.Grammar
