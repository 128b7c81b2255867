import GameBalance.Proofs.Formula.Precedence

namespace GameBalance.Formula

open Text

def Absent (name cs : List Char) : Prop :=
  ∀ w ∈ words cs, spells name w = false

def BeginsWithDigit (w : List Char) : Prop :=
  ∃ c w', w = c :: w' ∧ c.isDigit = true

structure Bindings.Worded (b : Bindings) : Prop where
  begins : ∀ p ∈ b, wordAt p.1.toList.head? = true
  distinct : (b.map Prod.fst).Nodup

variable {name literal cs w : List Char} {before : Option Char} {b l : Bindings} {n f : String}

theorem BeginsWithDigit.append {v : List Char} (h : BeginsWithDigit v) (starts : v <+: w) :
    BeginsWithDigit w := by
  obtain ⟨c, v, rfl, digit⟩ := h
  obtain ⟨rest, rfl⟩ := starts
  exact ⟨c, v ++ rest, rfl, digit⟩

theorem words_subset_append {m after : List Char}
    (back : isBoundary (m.getLast?.or before) after.head? = true)
    (ne : m ≠ []) : words after ⊆ words (m ++ after) := by
  rw [getLast?_or ne] at back
  cases last : wordAt m.getLast? with
  | false =>
    rw [words_append_of_last last]
    exact List.subset_append_right _ _
  | true =>
    rw [words_append (by simpa [isBoundary, last] using back)]
    exact List.subset_append_right _ _

theorem words_replaceFrom (hn : wordAt name.head? = true)
    (digits : ∀ w ∈ words literal, BeginsWithDigit w)
    (hb : wordAt before = false) (hw : w ∈ words (replaceFrom name literal 0 before cs)) :
    w ∈ words cs ∨ BeginsWithDigit w := by
  have edge : Edge before cs := .inl hb
  clear hb
  induction before, cs using replaceFrom_induction hn with
  | nil before =>
    rw [replaceFrom_nil hn] at hw
    exact .inl hw
  | other before c cs hc ih =>
    rw [replaceFrom_cons hn literal hc, words_other hc] at hw
    rw [words_other hc]
    exact ih hw (show Edge (some c) cs from .inl hc)
  | passes before v rest hv hr stands ih =>
    rw [replaceFrom_passes hn literal hv stands, words_word hv (wordAt_replaceFrom hn hr)] at hw
    rw [words_word hv hr]
    obtain rfl | hw := List.mem_cons.1 hw
    · exact .inl List.mem_cons_self
    · exact (ih hw (.inr hr)).imp_left (List.mem_cons_of_mem v)
  | stands before m after ne same stands back ih =>
    rw [replaceFrom_stands literal ne same stands] at hw
    obtain later | ⟨u, hu, starts⟩ := mem_words_append hw
    · exact (ih later (.of_isBoundary back)).imp_left fun mem => words_subset_append back ne mem
    · exact .inr ((digits u hu).append starts)

theorem Absent.occursFrom (hn : IsWord name) (h : Absent name cs) :
    occursFrom name none cs = false := by
  rw [occursFrom_eq hn (.inl rfl), List.any_eq_false]
  exact fun w hw => Bool.eq_false_iff.1 (h w hw)

theorem Absent.replaceName {p : String × Float} (hn : IsName name)
    (begins : wordAt p.1.toList.head? = true)
    (h : Absent name cs) (replaced : replaceName cs p = .ok cs') : Absent name cs' := by
  rw [Formula.replaceName] at replaced
  split at replaced
  · split at replaced
    · rename_i finite
      cases replaced
      intro w hw
      have digits : ∀ w ∈ words (Decimal.plain p.2), BeginsWithDigit w := fun w hw =>
        words_digit (fun c => isDigit_of_mem_literal finite) hw
      obtain old | ⟨c, w, rfl, digit⟩ :=
        words_replaceFrom begins digits (show wordAt none = false from rfl) hw
      · exact h w old
      · exact spells_digit hn digit
    · cases replaced
  · cases replaced
    exact h

theorem Absent.foldlM_filter (hn : IsName n.toList)
    (begins : ∀ p ∈ l, wordAt p.1.toList.head? = true) (h : Absent n.toList cs) :
    (l.filter (·.1 ≠ n)).foldlM Formula.replaceName cs = l.foldlM Formula.replaceName cs := by
  induction l generalizing cs with
  | nil => rfl
  | cons p l ih =>
    obtain ⟨first, rest⟩ := List.forall_mem_cons.1 begins
    by_cases eq : p.1 = n
    · have skipped : Formula.replaceName cs p = .ok cs :=
        replaceName_absent (eq ▸ h.occursFrom hn.isWord)
      rw [List.filter_cons_of_neg (by simpa using eq), List.foldlM_cons, skipped]
      exact ih rest h
    · rw [List.filter_cons_of_pos (by simpa using eq), List.foldlM_cons, List.foldlM_cons]
      cases replaced : Formula.replaceName cs p with
      | error => rfl
      | ok cs' => exact ih rest (h.replaceName hn first replaced)

theorem Bindings.inOrder_filter (distinct : (b.map Prod.fst).Nodup) (q : String × Float → Bool) :
    Bindings.inOrder (b.filter q) = b.inOrder.filter q :=
  inOrder_eq (b.inOrder_perm.filter q) (b.pairwise_inOrder.filter q)
    (distinct.sublist (List.filter_sublist.map _))

theorem Bindings.inOrder_unset (distinct : (b.map Prod.fst).Nodup) (n : String) :
    (b.unset n).inOrder = b.inOrder.filter (·.1 ≠ n) :=
  inOrder_filter distinct _

theorem Absent.evaluate_unset (h : Absent n.toList f.toList) (hn : IsName n.toList)
    (worded : b.Worded) :
    evaluate f (b.unset n) = evaluate f b := by
  rw [evaluate_of_inOrder (Bindings.inOrder_unset worded.distinct n), evaluate_of_inOrder rfl,
    h.foldlM_filter hn fun p hp => worded.begins p (b.inOrder_perm.mem_iff.1 hp)]

end GameBalance.Formula
