import GameBalance.Formula.Verdict
import GameBalance.Proofs.Formula.Image

namespace GameBalance.Formula

open Text Grammar

def parens (cs : List Char) : List Char :=
  cs.filter fun c => c = '(' ∨ c = ')'

def Token.parens : Token → List Char
  | .openParen => ['(']
  | .closeParen => [')']
  | _ => []

theorem imbalanceAt_parens (depth : Nat) (cs : List Char) :
    imbalanceAt depth (parens cs) = imbalanceAt depth cs := by
  induction cs generalizing depth with
  | nil => rfl
  | cons c cs ih =>
    by_cases opens : c = '('
    · subst opens
      exact ih (depth + 1)
    · by_cases closes : c = ')'
      · subst closes
        cases depth with
        | zero => rfl
        | succ depth => exact ih depth
      · have none : parens (c :: cs) = parens cs := by simp [parens, opens, closes]
        rw [none, ih, imbalanceAt.eq_def depth (c :: cs)]
        simp [opens, closes]

theorem parens_append (a b : List Char) : parens (a ++ b) = parens a ++ parens b :=
  List.filter_append a b

theorem parens_eq_nil (h : ∀ c ∈ cs, c ≠ '(' ∧ c ≠ ')') : parens cs = [] :=
  List.filter_eq_nil_iff.2 fun c hc => by simpa using h c hc

theorem parens_cons (h : c ≠ '(' ∧ c ≠ ')') (cs : List Char) : parens (c :: cs) = parens cs := by
  simp [parens, h]

theorem parens_symbol (h : symbol? c = some t) (cs : List Char) :
    parens (c :: cs) = t.parens ++ parens cs := by
  unfold symbol? at h
  split at h
  · cases h; rfl
  · cases h; rfl
  · cases h; rfl
  · rename_i opens closes _
    obtain ⟨op, -, rfl⟩ := Option.map_eq_some_iff.1 h
    exact parens_cons ⟨opens, closes⟩ cs

theorem ne_paren {p : Char → Bool} (h : p c = true) (opens : p '(' = false)
    (closes : p ')' = false) :
    c ≠ '(' ∧ c ≠ ')' := by
  constructor
  · rintro rfl
    exact Bool.noConfusion (h.symm.trans opens)
  · rintro rfl
    exact Bool.noConfusion (h.symm.trans closes)

theorem Lexes.parens (h : Lexes cs ts) : parens cs = ts.flatMap Token.parens := by
  induction h with
  | nil => rfl
  | blank hc _ ih => rw [parens_cons (ne_paren hc rfl rfl), ih]
  | symbol hc _ ih => rw [parens_symbol hc, ih, List.flatMap_cons]
  | number _ hrun _ _ _ ih =>
    rw [parens_append, parens_eq_nil fun c hc => ne_paren (hrun c hc) rfl rfl, ih,
      List.flatMap_cons]
    rfl
  | name hw _ _ ih =>
    rw [parens_append, parens_eq_nil fun c hc => ne_paren (hw.isNamePart c hc) rfl rfl, ih,
      List.flatMap_cons]
    rfl

theorem parens_mapWords (h : ∀ w ∈ words cs, parens (g w) = []) :
    parens (mapWords g cs) = parens cs := by
  induction cs using word_induction with
  | nil => rw [mapWords_nil]
  | other c cs hc ih =>
    rw [words_other hc] at h
    calc parens (mapWords g (c :: cs)) = parens ([c] ++ mapWords g cs) := by
          rw [mapWords_other hc, List.singleton_append]
      _ = parens ([c] ++ cs) := by rw [parens_append, parens_append, ih h]
  | word w rest hw hr ih =>
    rw [words_word hw hr] at h
    obtain ⟨first, others⟩ := List.forall_mem_cons.1 h
    rw [mapWords_word hw hr, parens_append, parens_append, first, ih others,
      parens_eq_nil fun c hc => ne_paren (hw.2 c hc) rfl rfl]

theorem parens_literalIn (finite : ∀ p ∈ b, p.2.isFinite = true) (hw : IsWord w) :
    parens (literalIn b w) = [] := by
  rw [literalIn]
  split
  · rename_i found
    have value := finite _ (List.mem_of_find?_eq_some found)
    refine parens_eq_nil fun c hc => ?_
    obtain rfl | numeral := minus_or_isNumeral value hc
    · decide
    · exact ne_paren numeral rfl rfl
  · exact parens_eq_nil fun c hc => ne_paren (hw.2 c hc) rfl rfl

def Level (ts : List Token) : Prop :=
  ∀ depth rest, imbalanceAt depth (ts.flatMap Token.parens ++ rest) = imbalanceAt depth rest

namespace Level

theorem single {t : Token} (h : t.parens = []) : Level [t] := fun depth rest => by
  rw [List.flatMap_singleton, h, List.nil_append]

theorem append (h : Level ts) (h' : Level us) : Level (ts ++ us) := fun depth rest => by
  rw [List.flatMap_append, List.append_assoc, h, h']

theorem cons {t : Token} (h : Level ts) (ht : t.parens = []) : Level (t :: ts) :=
  (single ht).append h

theorem enclosed (h : Level ts) :
    Level (.openParen :: (ts ++ [.closeParen])) := fun depth rest => by
  rw [List.flatMap_cons, List.flatMap_append, List.append_assoc, List.append_assoc]
  exact (h (depth + 1) _).trans rfl

end Level

namespace Grammar

theorem level_compositional : Compositional (fun ts _ => Level ts) fun ts _ => Level ts where
  number _ := .single rfl
  var _ := .single rfl
  link h h' := h.append (h'.cons rfl)
  plus h := h.cons rfl
  minus h := h.cons rfl
  parens h := h.enclosed
  call _ h := h.enclosed.cons rfl
  last h := h
  more h h' := h.append (h'.cons rfl)

theorem Expression.level (h : Expression n ts e d) : Level ts :=
  level_compositional.expression h

end Grammar

theorem imbalance?_eq_none {f : String} (h : Lexes cs ts) (derives : Derives ts e d)
    (same : parens cs = parens f.toList) :
    imbalance? f = none := by
  obtain ⟨n, expr⟩ := derives
  have level := expr.level 0 []
  rw [List.append_nil, ← h.parens, same, imbalanceAt_parens] at level
  exact level

end GameBalance.Formula
