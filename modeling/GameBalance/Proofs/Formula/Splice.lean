import GameBalance.Proofs.Formula.Subst

namespace GameBalance.Formula

/--
`Spliced after ts us`: `us` is `ts` with numbers for some variables, where `after` says whether the
tokens follow an operand. A number with a minus sign never does.
-/
inductive Spliced : Bool → List Token → List Token → Prop
  | nil : Spliced after [] []
  | same : Spliced t.endsOperand ts us → Spliced after (t :: ts) (t :: us)
  | number : Builtin.lookup? name = none → Spliced true ts us →
      Spliced after (.identifier name :: ts) (.number x :: us)
  | signed : Builtin.lookup? name = none → Spliced true ts us →
      Spliced false (.identifier name :: ts) (.operator .minus :: .number x :: us)

theorem Spliced.value {x : Float} (h : Builtin.lookup? name = none)
    (sign : Double.isNegative x = true → after = false) (rest : Spliced true ts us) :
    Spliced after (.identifier name :: ts) (literalTokens x ++ us) := by
  rw [literalTokens]
  split
  · rename_i negative
    rw [sign negative]
    exact .signed h rest
  · exact .number h rest

def Ended (ts : List Token) : Prop :=
  ∃ before t, ts = before ++ [t] ∧ t.endsOperand = true

theorem Ended.append (h : Ended us) (ts : List Token) : Ended (ts ++ us) := by
  obtain ⟨before, t, rfl, ends⟩ := h
  exact ⟨ts ++ before, t, (List.append_assoc ..).symm, ends⟩

theorem Ended.cons (h : Ended us) (t : Token) : Ended (t :: us) :=
  h.append [t]

theorem ended_single {t : Token} (h : t.endsOperand = true) : Ended [t] :=
  ⟨[], t, rfl, h⟩

theorem not_ended_nil : ¬Ended [] := by
  rintro ⟨before, t, eq, -⟩
  simp at eq

theorem Ended.of_cons {t : Token} (h : Ended (t :: us)) :
    us = [] ∧ t.endsOperand = true ∨ Ended us := by
  obtain ⟨before, u, eq, ends⟩ := h
  cases before with
  | nil =>
    obtain ⟨rfl, rfl⟩ := List.cons.inj eq
    exact .inl ⟨rfl, ends⟩
  | cons v before => exact .inr ⟨before, u, (List.cons.inj eq).2, ends⟩

namespace Spliced

theorem split (h : Spliced after ts (us ++ vs)) (ended : Ended us) :
    ∃ ts' ts'', ts = ts' ++ ts'' ∧ Spliced after ts' us ∧ Spliced true ts'' vs := by
  generalize eq : us ++ vs = whole at h
  induction h generalizing us with
  | nil =>
    obtain ⟨rfl, -⟩ := List.append_eq_nil_iff.1 eq
    exact absurd ended not_ended_nil
  | same h ih =>
    cases us with
    | nil => exact absurd ended not_ended_nil
    | cons u us =>
      simp only [List.cons_append, List.cons.injEq] at eq
      obtain ⟨rfl, rfl⟩ := eq
      obtain ⟨rfl, ends⟩ | ended := ended.of_cons
      · exact ⟨[u], _, rfl, .same .nil, ends ▸ h⟩
      · obtain ⟨ts', ts'', rfl, first, second⟩ := ih ended rfl
        exact ⟨u :: ts', ts'', rfl, .same first, second⟩
  | number function h ih =>
    cases us with
    | nil => exact absurd ended not_ended_nil
    | cons u us =>
      simp only [List.cons_append, List.cons.injEq] at eq
      obtain ⟨rfl, rfl⟩ := eq
      obtain ⟨rfl, -⟩ | ended := ended.of_cons
      · exact ⟨[.identifier _], _, rfl, .number function .nil, h⟩
      · obtain ⟨ts', ts'', rfl, first, second⟩ := ih ended rfl
        exact ⟨.identifier _ :: ts', ts'', rfl, .number function first, second⟩
  | signed function h ih =>
    cases us with
    | nil => exact absurd ended not_ended_nil
    | cons u us =>
      simp only [List.cons_append, List.cons.injEq] at eq
      obtain ⟨rfl, eq⟩ := eq
      obtain ⟨-, ends⟩ | ended := ended.of_cons
      · cases ends
      cases us with
      | nil => exact absurd ended not_ended_nil
      | cons v us =>
        simp only [List.cons_append, List.cons.injEq] at eq
        obtain ⟨rfl, rfl⟩ := eq
        obtain ⟨rfl, -⟩ | ended := ended.of_cons
        · exact ⟨[.identifier _], _, rfl, .signed function .nil, h⟩
        · obtain ⟨ts', ts'', rfl, first, second⟩ := ih ended rfl
          exact ⟨.identifier _ :: ts', ts'', rfl, .signed function first, second⟩

theorem after_operand {t : Token} (h : Spliced true ts (t :: us)) (ht : t.isOperand = false) :
    ∃ ts', ts = t :: ts' ∧ Spliced t.endsOperand ts' us := by
  cases h with
  | same h => exact ⟨_, rfl, h⟩
  | number => cases ht

theorem nil_right (h : Spliced after ts []) : ts = [] := by
  cases h
  rfl

theorem link {t : Token} (h : Spliced after ts (us ++ t :: vs)) (ended : Ended us)
    (ht : t.isOperand = false) :
    ∃ ts' ts'', ts = ts' ++ t :: ts'' ∧ Spliced after ts' us ∧ Spliced t.endsOperand ts'' vs := by
  obtain ⟨ts', ts'', rfl, first, second⟩ := h.split ended
  obtain ⟨ts'', rfl, third⟩ := second.after_operand ht
  exact ⟨ts', ts'', rfl, first, third⟩

theorem operator {t : Token} (h : Spliced after ts (us ++ t :: vs)) (ended : Ended us)
    (ht : t.endsOperand = false) :
    ∃ ts' ts'', ts = ts' ++ t :: ts'' ∧ Spliced after ts' us ∧ Spliced false ts'' vs :=
  ht ▸ h.link ended (isOperand_of_endsOperand ht)

end Spliced

namespace Grammar

theorem ended_compositional : Compositional (fun ts _ => Ended ts) fun ts _ => Ended ts where
  number _ := ended_single rfl
  var _ := ended_single rfl
  link _ h' := (h'.cons _).append _
  plus h := h.cons _
  minus h := h.cons _
  parens _ := ((ended_single rfl).append _).cons _
  call _ _ := (((ended_single rfl).append _).cons _).cons _
  last h := h
  more _ h' := (h'.cons _).append _

theorem Expression.ended (h : Expression n ts e d) : Ended ts :=
  ended_compositional.expression h

theorem Term.ended (h : Term n ts e d) : Ended ts :=
  ended_compositional.term h

theorem Unary.ended (h : Unary ts e d) : Ended ts :=
  ended_compositional.unary h

theorem Arguments.ended (h : Arguments ts es d) : Ended ts :=
  ended_compositional.arguments h

theorem Unary.number_alone (h : Unary (.number x :: ts) e d) : ts = [] := by
  generalize eq : Token.number x :: ts = us at h
  cases h with
  | primary h =>
    cases h with
    | number => exact (List.cons.inj eq).2
    | var => simp at eq
    | parens => simp at eq
    | call => simp at eq
  | plus => simp at eq
  | minus => simp at eq

mutual

theorem Expression.unsplice :
    Expression n us e d → Spliced false ts us → ∃ e' d', Expression n ts e' d'
  | .first h, s => by
    obtain ⟨e', d', h'⟩ := h.unsplice s
    exact ⟨e', d', .first h'⟩
  | .link h ht h', s => by
    obtain ⟨ts', ts'', rfl, first, second⟩ := s.operator h.ended ht.endsOperand
    obtain ⟨_, _, left⟩ := h.unsplice first
    obtain ⟨_, _, right⟩ := h'.unsplice second
    exact ⟨_, _, .link left ht right⟩

theorem Term.unsplice : Term n us e d → Spliced false ts us → ∃ e' d', Term n ts e' d'
  | .first h, s => by
    obtain ⟨e', d', h'⟩ := h.unsplice s
    exact ⟨e', d', .first h'⟩
  | .link h ht h', s => by
    obtain ⟨ts', ts'', rfl, first, second⟩ := s.operator h.ended ht.endsOperand
    obtain ⟨_, _, left⟩ := h.unsplice first
    obtain ⟨_, _, right⟩ := h'.unsplice second
    exact ⟨_, _, .link left ht right⟩

theorem Power.unsplice : Power us e d → Spliced false ts us → ∃ e' d', Power ts e' d'
  | .base h, s => by
    obtain ⟨e', d', h'⟩ := h.unsplice s
    exact ⟨e', d', .base h'⟩
  | .raised h h', s => by
    obtain ⟨ts', ts'', rfl, first, second⟩ := s.link h.ended rfl
    obtain ⟨_, _, left⟩ := h.unsplice first
    obtain ⟨_, _, right⟩ := h'.unsplice second
    exact ⟨_, _, .raised left right⟩

theorem Unary.unsplice : Unary us e d → Spliced false ts us → ∃ e' d', Unary ts e' d'
  | .primary h, s => by
    obtain ⟨e', d', h'⟩ := h.unsplice s
    exact ⟨e', d', .primary h'⟩
  | .plus h, .same s => by
    obtain ⟨e', d', h'⟩ := h.unsplice s
    exact ⟨e', 1 + d', .plus h'⟩
  | .minus h, .same s => by
    obtain ⟨e', d', h'⟩ := h.unsplice s
    exact ⟨.negate e', 1 + d', .minus h'⟩
  | .minus h, .signed function s => by
    obtain rfl := h.number_alone
    obtain rfl := s.nil_right
    exact ⟨_, 0, .primary (.var (lookup?_eq_none_iff.1 function))⟩

theorem Primary.unsplice : Primary us e d → Spliced false ts us → ∃ e' d', Primary ts e' d'
  | .number, .same s => by
    obtain rfl := s.nil_right
    exact ⟨_, _, .number⟩
  | .number, .number function s => by
    obtain rfl := s.nil_right
    exact ⟨_, _, .var (lookup?_eq_none_iff.1 function)⟩
  | .var function, .same s => by
    obtain rfl := s.nil_right
    exact ⟨_, _, .var function⟩
  | .parens h, .same s => by
    obtain ⟨ts', ts'', rfl, first, second⟩ := s.link h.ended rfl
    obtain ⟨_, _, inner⟩ := h.unsplice first
    obtain rfl := second.nil_right
    exact ⟨_, _, .parens inner⟩
  | .call function h, .same s => by
    obtain ⟨_, rfl, inside⟩ := s.after_operand rfl
    obtain ⟨ts', ts'', rfl, first, second⟩ := inside.link h.ended rfl
    obtain ⟨_, _, inner⟩ := h.unsplice first
    obtain rfl := second.nil_right
    exact ⟨_, _, .call function inner⟩

theorem Arguments.unsplice : Arguments us es d → Spliced false ts us → ∃ es' d', Arguments ts es' d'
  | .last h, s => by
    obtain ⟨e', d', h'⟩ := h.unsplice s
    exact ⟨[e'], d', .last h'⟩
  | .more h h', s => by
    obtain ⟨ts', ts'', rfl, first, second⟩ := s.link h.ended rfl
    obtain ⟨_, _, left⟩ := h.unsplice first
    obtain ⟨_, _, right⟩ := h'.unsplice second
    exact ⟨_, _, .more left right⟩

end

end Grammar

end GameBalance.Formula
