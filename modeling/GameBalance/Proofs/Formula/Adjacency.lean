import GameBalance.Proofs.Formula.Environment
import GameBalance.Proofs.Formula.Operators
import GameBalance.Proofs.Formula.Splice
import Mathlib.Data.List.Chain

namespace GameBalance.Formula

open Text Grammar

def Token.joins : Token → Bool
  | .operator .star | .operator .slash | .operator .caret => true
  | _ => false

/-- Tokens of which neither the first nor one after an operator can only stand between operands. -/
structure Joined (ts : List Token) : Prop where
  head : ∀ t ∈ ts.head?, t.joins = false
  chain : ts.IsChain fun t u => t.endsOperand = false → u.joins = false
  ended : Ended ts

theorem Ended.head?_append (h : Ended ts) (us : List Token) : (ts ++ us).head? = ts.head? := by
  obtain ⟨before, last, rfl, -⟩ := h
  exact List.head?_append_of_ne_nil _ (by simp)

namespace Joined

theorem single {t : Token} (ends : t.endsOperand = true) : Joined [t] where
  head u hu := by
    obtain rfl : t = u := Option.some.inj hu
    cases t with
    | operator => cases ends
    | _ => rfl
  chain := List.isChain_singleton t
  ended := ended_single ends

theorem cons {t : Token} (h : Joined ts) (ht : t.joins = false) : Joined (t :: ts) where
  head u hu := by
    obtain rfl : t = u := Option.some.inj hu
    exact ht
  chain := List.isChain_cons.2 ⟨fun u hu _ => h.head u hu, h.chain⟩
  ended := h.ended.cons t

theorem join (h : Joined ts) (t : Token) (h' : Joined us) : Joined (ts ++ t :: us) where
  head u hu := h.head u (h.ended.head?_append _ ▸ hu)
  chain := by
    refine List.isChain_append.2
      ⟨h.chain, List.isChain_cons.2 ⟨fun u hu _ => h'.head u hu, h'.chain⟩, ?_⟩
    obtain ⟨before, last, rfl, ends⟩ := h.ended
    intro u hu v _ free
    rw [List.getLast?_concat] at hu
    obtain rfl : last = u := Option.some.inj hu
    exact Bool.noConfusion (free.symm.trans ends)
  ended := (h'.ended.cons t).append ts

theorem close (h : Joined ts) : Joined (ts ++ [.closeParen]) where
  head u hu := h.head u (h.ended.head?_append _ ▸ hu)
  chain := by
    refine List.isChain_append.2 ⟨h.chain, List.isChain_singleton _, fun u _ v hv _ => ?_⟩
    obtain rfl : .closeParen = v := Option.some.inj hv
    rfl
  ended := (ended_single rfl).append ts

end Joined

namespace Grammar

theorem joined_compositional : Compositional (fun ts _ => Joined ts) fun ts _ => Joined ts where
  number _ := .single rfl
  var _ := .single rfl
  link h h' := h.join _ h'
  plus h := h.cons rfl
  minus h := h.cons rfl
  parens h := h.close.cons rfl
  call _ h := (h.close.cons rfl).cons rfl
  last h := h
  more h h' := h.join _ h'

theorem Expression.joined (h : Expression n ts e d) : Joined ts :=
  joined_compositional.expression h

end Grammar

theorem symbol?_of_ofChar? (h : Operator.ofChar? c = some o) : symbol? c = some (.operator o) := by
  unfold Operator.ofChar? at h
  split at h <;> cases h <;> rfl

theorem eq_symbol_of_ofChar? (h : Operator.ofChar? c = some o) : c = o.symbol := by
  unfold Operator.ofChar? at h
  split at h <;> cases h <;> rfl

theorem ofChar?_of_symbol? (h : symbol? c = none) : Operator.ofChar? c = none := by
  cases op : Operator.ofChar? c with
  | none => rfl
  | some o => cases h.symm.trans (symbol?_of_ofChar? op)

theorem solid_append (a b : List Char) : solid (a ++ b) = solid a ++ solid b :=
  List.filter_append a b

theorem solid_eq_self (h : ∀ c ∈ cs, isBlank c = false) : solid cs = cs :=
  List.filter_eq_self.2 fun c hc => by rw [h c hc]; rfl

theorem solid_blank (h : isBlank c = true) : solid (c :: cs) = solid cs :=
  List.filter_cons_of_neg (by simp [h])

theorem solid_cons (h : isBlank c = false) : solid (c :: cs) = c :: solid cs :=
  List.filter_cons_of_pos (by simp [h])

/-- Where tokens have operators side by side, `r` holds of them. -/
def Beside (r : Operator → Operator → Prop) (ts : List Token) : Prop :=
  ts.IsChain fun t u => ∀ o p, t = .operator o → u = .operator p → r o p

def BesideIn (r : Operator → Operator → Prop) (cs : List Char) : Prop :=
  cs.IsChain fun c d => ∀ o p, Operator.ofChar? c = some o → Operator.ofChar? d = some p → r o p

variable {r : Operator → Operator → Prop} {w rest : List Char}

theorem BesideIn.append (h : BesideIn r rest) (none : ∀ c ∈ w, Operator.ofChar? c = none) :
    BesideIn r (w ++ rest) := by
  induction w with
  | nil => exact h
  | cons c w ih =>
    obtain ⟨first, others⟩ := List.forall_mem_cons.1 none
    refine List.isChain_cons.2 ⟨fun d _ o p op => ?_, ih others⟩
    cases first.symm.trans op

theorem class_of_isNamePart {c : Char} (h : isNamePart c = true) :
    isBlank c = false ∧ symbol? c = none := by
  cases digit : c.isDigit with
  | true => exact class_of_isNumeral (by rw [isNumeral, digit, Bool.true_or])
  | false =>
    obtain ⟨blank, symbol, -⟩ := class_of_isNameStart (isNameStart_of_isNamePart h digit)
    exact ⟨blank, symbol⟩

theorem solid_operand {p : Char → Bool} (hw : ∀ c ∈ w, p c = true)
    (apart : ∀ {c}, p c = true → isBlank c = false ∧ symbol? c = none) :
    solid (w ++ rest) = w ++ solid rest ∧ ∀ c ∈ w, Operator.ofChar? c = none := by
  refine ⟨?_, fun c hc => ofChar?_of_symbol? (apart (hw c hc)).2⟩
  rw [solid_append, solid_eq_self fun c hc => (apart (hw c hc)).1]

theorem head_of_operand {o : Operator} (ne : w ≠ []) (none : ∀ c ∈ w, Operator.ofChar? c = none)
    (hc : c ∈ (w ++ rest).head?) : Operator.ofChar? c ≠ some o := by
  obtain ⟨d, w, rfl⟩ := List.exists_cons_of_ne_nil ne
  obtain rfl : d = c := Option.some.inj hc
  rw [none d List.mem_cons_self]
  exact Option.some_ne_none o ∘ Eq.symm

theorem last_of_operand {o : Operator} (none : ∀ c ∈ w, Operator.ofChar? c = none)
    (hc : c ∈ (w ++ rest).getLast?) (op : Operator.ofChar? c = some o) : c ∈ rest.getLast? := by
  rw [List.getLast?_append] at hc
  cases last : rest.getLast? with
  | none =>
    rw [last, Option.none_or] at hc
    cases op.symm.trans (none c (List.mem_of_getLast? hc))
  | some d =>
    rw [last, Option.some_or] at hc
    exact hc

namespace Lexes

theorem head_operator (h : Lexes cs ts) (hc : c ∈ (solid cs).head?)
    (op : Operator.ofChar? c = some o) :
    .operator o ∈ ts.head? := by
  induction h with
  | nil => cases hc
  | blank hb _ ih =>
    rw [solid_blank hb] at hc
    exact ih hc
  | symbol hs _ _ =>
    rw [solid_cons (isBlank_of_symbol? hs)] at hc
    cases hc
    exact (hs.symm.trans (symbol?_of_ofChar? op))
  | number ne hrun _ _ _ _ =>
    obtain ⟨eq, none⟩ := solid_operand hrun class_of_isNumeral
    exact absurd op (head_of_operand ne none (eq ▸ hc))
  | name hw _ _ _ =>
    obtain ⟨eq, none⟩ := solid_operand hw.isNamePart class_of_isNamePart
    exact absurd op (head_of_operand hw.ne_nil none (eq ▸ hc))

theorem last_operator (h : Lexes cs ts) (hc : c ∈ (solid cs).getLast?)
    (op : Operator.ofChar? c = some o) :
    .operator o ∈ ts.getLast? := by
  induction h with
  | nil => cases hc
  | blank hb _ ih =>
    rw [solid_blank hb] at hc
    exact ih hc
  | @symbol d t cs ts hs h ih =>
    rw [solid_cons (isBlank_of_symbol? hs)] at hc
    cases rest : solid cs with
    | nil =>
      rw [rest] at hc
      cases hc
      have blank : ∀ c ∈ cs, isBlank c = true := fun c hc => by
        simpa using List.filter_eq_nil_iff.1 rest c hc
      rw [h.unique (lexes_of_isBlank blank)]
      exact hs.symm.trans (symbol?_of_ofChar? op)
    | cons e es =>
      rw [rest, List.getLast?_cons_cons, ← rest] at hc
      exact List.mem_getLast?_cons (ih hc)
  | number _ hrun _ _ _ ih =>
    obtain ⟨eq, none⟩ := solid_operand hrun class_of_isNumeral
    exact List.mem_getLast?_cons (ih (last_of_operand none (eq ▸ hc) op))
  | name hw _ _ ih =>
    obtain ⟨eq, none⟩ := solid_operand hw.isNamePart class_of_isNamePart
    exact List.mem_getLast?_cons (ih (last_of_operand none (eq ▸ hc) op))

theorem besideIn (h : Lexes cs ts) (beside : Beside r ts) : BesideIn r (solid cs) := by
  induction h with
  | nil => exact List.isChain_nil
  | blank hb _ ih =>
    rw [solid_blank hb]
    exact ih beside
  | symbol hs h ih =>
    obtain ⟨first, others⟩ := List.isChain_cons.1 beside
    rw [solid_cons (isBlank_of_symbol? hs)]
    refine List.isChain_cons.2 ⟨fun d hd o p op op' => ?_, ih others⟩
    exact first _ (h.head_operator hd op') o p
      (Option.some.inj (hs.symm.trans (symbol?_of_ofChar? op))) rfl
  | number _ hrun _ _ _ ih =>
    obtain ⟨eq, none⟩ := solid_operand hrun class_of_isNumeral
    rw [eq]
    exact (ih (List.isChain_cons.1 beside).2).append none
  | name hw _ _ ih =>
    obtain ⟨eq, none⟩ := solid_operand hw.isNamePart class_of_isNamePart
    rw [eq]
    exact (ih (List.isChain_cons.1 beside).2).append none

end Lexes

theorem Joined.beside (h : Joined ts) : Beside (fun _ p => p = .plus ∨ p = .minus) ts := by
  refine h.chain.imp fun t u free o p eq eq' => ?_
  subst eq eq'
  have sign := free rfl
  cases p with
  | plus => exact .inl rfl
  | minus => exact .inr rfl
  | star => cases sign
  | slash => cases sign
  | caret => cases sign

theorem Lexes.last_solid (h : Lexes cs ts) (joined : Joined ts) :
    ∀ c ∈ (solid cs).getLast?, isOperator c = false := by
  intro c hc
  rw [Bool.eq_false_iff]
  intro operator
  obtain ⟨o, op⟩ := Option.isSome_iff_exists.1 operator
  have last := h.last_operator hc op
  obtain ⟨before, t, rfl, ends⟩ := joined.ended
  rw [List.getLast?_concat] at last
  cases Option.some.inj last
  cases ends

theorem isBlank_of_isWord (h : isWord c = true) : isBlank c = false :=
  Bool.eq_false_iff.2 fun blank => Bool.noConfusion (h.symm.trans (isWord_of_isBlank blank))

theorem ofChar?_of_isWord (h : isWord c = true) : Operator.ofChar? c = none := by
  cases op : Operator.ofChar? c with
  | none => rfl
  | some o => exact Bool.noConfusion (h.symm.trans (isWord_of_symbol? (symbol?_of_ofChar? op)))

theorem solid_word (hw : IsWord w) : solid (w ++ rest) = w ++ solid rest := by
  rw [solid_append, solid_eq_self fun c hc => isBlank_of_isWord (hw.2 c hc)]

theorem head_solid_mapWords (hc : c ∈ (solid cs).head?) (op : Operator.ofChar? c = some o) :
    c ∈ (solid (mapWords g cs)).head? := by
  induction cs using word_induction with
  | nil => cases hc
  | other d cs hd ih =>
    rw [mapWords_other hd]
    cases blank : isBlank d with
    | true =>
      rw [solid_blank blank] at hc ⊢
      exact ih hc
    | false =>
      rw [solid_cons blank] at hc ⊢
      exact hc
  | word w rest hw hr _ =>
    rw [solid_word hw] at hc
    exact absurd op (head_of_operand hw.1 (fun d hd => ofChar?_of_isWord (hw.2 d hd)) hc)

theorem last_solid_mapWords (hc : c ∈ (solid cs).getLast?) (op : Operator.ofChar? c = some o) :
    c ∈ (solid (mapWords g cs)).getLast? := by
  induction cs using word_induction with
  | nil => cases hc
  | other d cs hd ih =>
    rw [mapWords_other hd]
    cases blank : isBlank d with
    | true =>
      rw [solid_blank blank] at hc ⊢
      exact ih hc
    | false =>
      rw [solid_cons blank] at hc ⊢
      cases rest : solid cs with
      | nil =>
        rw [rest] at hc
        have unchanged : mapWords g cs = cs := mapWords_eq_self fun w hw => by
          obtain ⟨e, he⟩ := List.exists_mem_of_ne_nil w (isWord_of_mem_words hw).1
          have none := List.filter_eq_nil_iff.1 rest e (mem_of_mem_words hw he)
          exact absurd (isBlank_of_isWord ((isWord_of_mem_words hw).2 e he)) (by simpa using none)
        rw [unchanged, rest]
        exact hc
      | cons e es =>
        rw [rest, List.getLast?_cons_cons, ← rest] at hc
        exact List.mem_getLast?_cons (ih hc)
  | word w rest hw hr ih =>
    rw [solid_word hw] at hc
    rw [mapWords_word hw hr, solid_append]
    have last := ih (last_of_operand (fun d hd => ofChar?_of_isWord (hw.2 d hd)) hc op)
    exact List.mem_getLast?_append_of_mem_getLast? last

theorem BesideIn.of_mapWords (h : BesideIn r (solid (mapWords g cs))) : BesideIn r (solid cs) := by
  induction cs using word_induction with
  | nil => exact List.isChain_nil
  | other c cs hc ih =>
    rw [mapWords_other hc] at h
    cases blank : isBlank c with
    | true =>
      rw [solid_blank blank] at h ⊢
      exact ih h
    | false =>
      rw [solid_cons blank] at h ⊢
      obtain ⟨first, others⟩ := List.isChain_cons.1 h
      exact List.isChain_cons.2
        ⟨fun d hd o p op op' => first d (head_solid_mapWords hd op') o p op op', ih others⟩
  | word w rest hw hr ih =>
    rw [mapWords_word hw hr, solid_append] at h
    rw [solid_word hw]
    exact (ih (List.isChain_append.1 h).2.1).append fun c hc => ofChar?_of_isWord (hw.2 c hc)

theorem operatorsClash_eq_false
    (beside : BesideIn (fun _ p => p = .plus ∨ p = .minus) (solid f.toList))
    (last : ∀ c ∈ (solid f.toList).getLast?, isOperator c = false)
    (plus : ∀ before after, solid f.toList = before ++ '+' :: after → ¬EndsBinary before) :
    operatorsClash f = false := by
  rw [Bool.eq_false_iff]
  intro clash
  obtain ⟨trailing, -⟩ | meet := operatorsClash_iff.1 clash
  · cases eq : (solid f.toList).getLast? with
    | none =>
      rw [eq] at trailing
      cases trailing
    | some c =>
      rw [eq] at trailing
      exact Bool.noConfusion ((last c eq).symm.trans trailing)
  · obtain ⟨before, d, c, after, eq, operator, operator', other, binary⟩ := meet.adjacent
    obtain ⟨o, op⟩ := Option.isSome_iff_exists.1 operator
    obtain ⟨p, op'⟩ := Option.isSome_iff_exists.1 operator'
    rw [BesideIn, eq, List.isChain_append_cons_cons] at beside
    obtain rfl | rfl := beside.2.1 o p op op'
    · obtain rfl : c = '+' := eq_symbol_of_ofChar? op'
      exact plus (before ++ [d]) after (by simp [eq]) binary
    · exact other (eq_symbol_of_ofChar? op')

end GameBalance.Formula
