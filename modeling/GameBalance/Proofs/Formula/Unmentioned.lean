import GameBalance.Proofs.Formula.Absence

/-!
Bindings that a formula does not mention. What is put in for a name has digits, a point and a sign
only. Where none of them can be a part of another name, no replacement brings that name into the
text, so its value has no effect.
-/

namespace GameBalance.Formula

open Text

structure IsLiteral (literal : List Char) : Prop where
  ne_nil : literal ≠ []
  digits : ∀ c ∈ literal, isWord c = true → c.isDigit = true
  other : ∀ x c y, literal = x ++ c :: y → isWord c = false →
    wordAt y.head? = true ∧ (x = [] ∧ c = '-' ∨ x ≠ [] ∧ c = '.')

/--
No word of the name is one of the literal, and the
name is not the point and does not end in the sign.
-/
structure Foreign (name literal : List Char) : Prop where
  words : ∀ w ∈ words name, w ∉ words literal
  point : name = ['.'] → '.' ∉ literal
  sign : ∀ u, name = u ++ ['-'] → literal.head? = some '-' → u = [] ∨ wordAt u.getLast? = true

variable {name literal n m s d t w x y z rest cs : List Char}
    {before before' : Option Char} {c : Char}

theorem exists_word (h : wordAt cs.head? = true) :
    ∃ d z, cs = d ++ z ∧ IsWord d ∧ wordAt z.head? = false := by
  cases cs using word_induction with
  | nil => cases h
  | other c cs hc => exact Bool.noConfusion (h.symm.trans hc)
  | word w rest hw hr => exact ⟨w, rest, rfl, hw, hr⟩

theorem word_or_nil_of_edge (hd : ∀ c ∈ d, isWord c = true) (eq : d ++ z = m ++ t)
    (back : Edge m.getLast? t) :
    m = [] ∨ ∃ m', m = d ++ m' ∧ z = m' ++ t := by
  obtain ⟨m', rfl, split⟩ | ⟨e, rfl, rfl⟩ := List.append_eq_append_iff.1 eq
  · exact .inr ⟨m', rfl, split⟩
  · obtain rfl | ⟨m, c, rfl⟩ := m.eq_nil_or_concat'
    · exact .inl rfl
    cases e with
    | nil => exact .inr ⟨[], by simp, rfl⟩
    | cons a e =>
      have last : wordAt (m ++ [c]).getLast? = true := by
        rw [List.getLast?_concat]
        exact hd c (by simp)
      have next : wordAt (a :: e ++ z).head? = true := hd a (by simp)
      obtain h | h := back
      · exact Bool.noConfusion (last.symm.trans h)
      · exact Bool.noConfusion (next.symm.trans h)

theorem wordAt_head?_of_append (hz : wordAt (m ++ t).head? = false) : wordAt m.head? = false := by
  cases m with
  | nil => rfl
  | cons c m => exact hz

theorem prefix_or_mem_words (hs : ∀ c ∈ s, isWord c = false) (hd : IsWord d)
    (hz : wordAt z.head? = false)
    (eq : s ++ (d ++ z) = m ++ t) (back : Edge m.getLast? t) : m <+: s ∨ d ∈ words m := by
  induction s generalizing m with
  | nil =>
    obtain rfl | ⟨m', rfl, rfl⟩ := word_or_nil_of_edge hd.2 eq back
    · exact .inl List.nil_prefix
    · rw [words_word hd (wordAt_head?_of_append hz)]
      exact .inr List.mem_cons_self
  | cons c s ih =>
    obtain ⟨hc, hs⟩ := List.forall_mem_cons.1 hs
    cases m with
    | nil => exact .inl List.nil_prefix
    | cons e m =>
      obtain ⟨rfl, tail⟩ := List.cons.inj eq
      have back' : Edge m.getLast? t := by
        cases m with
        | nil => exact .inl rfl
        | cons e m => rwa [List.getLast?_cons_cons] at back
      rw [words_other hc]
      exact (ih hs tail back').imp_left fun h => List.cons_prefix_cons.2 ⟨rfl, h⟩

namespace IsLiteral

theorem last (h : IsLiteral literal) : wordAt literal.getLast? = true := by
  obtain rfl | ⟨x, c, rfl⟩ := literal.eq_nil_or_concat'
  · exact absurd rfl h.ne_nil
  · rw [List.getLast?_concat]
    cases word : isWord c with
    | true => exact word
    | false => cases (h.other x c [] rfl word).1

theorem split (h : IsLiteral (x ++ y)) (ne : y ≠ []) (edge : Edge x.getLast? y) :
    ∃ s d z, y = s ++ (d ++ z) ∧
    IsWord d ∧ wordAt z.head? = false ∧ d ∈ words (x ++ y) ∧
    (s = [] ∨ x = [] ∧ s = ['-'] ∨ x ≠ [] ∧ s = ['.']) := by
  obtain ⟨c, y, rfl⟩ := List.exists_cons_of_ne_nil ne
  cases word : isWord c with
  | true =>
    have next : wordAt (c :: y).head? = true := word
    obtain ⟨d, z, split, hd, hz⟩ := exists_word next
    have last : wordAt x.getLast? = false :=
      edge.resolve_right fun other => Bool.noConfusion (next.symm.trans other)
    refine ⟨[], d, z, split, hd, hz, ?_, .inl rfl⟩
    rw [words_append_of_last last, split, words_word hd hz]
    exact List.mem_append_right _ List.mem_cons_self
  | false =>
    obtain ⟨next, place⟩ := h.other x c y rfl word
    obtain ⟨d, z, rfl, hd, hz⟩ := exists_word next
    refine ⟨[c], d, z, rfl, hd, hz, ?_, .inr ?_⟩
    · rw [words_append (show wordAt (c :: (d ++ z)).head? = false from word), words_other word,
        words_word hd hz]
      exact List.mem_append_right _ List.mem_cons_self
    · obtain ⟨rfl, rfl⟩ | ⟨hx, rfl⟩ := place
      · exact .inl ⟨rfl, rfl⟩
      · exact .inr ⟨hx, rfl⟩

theorem sign_or_point (h : IsLiteral (x ++ y)) (ne : y ≠ []) (edge : Edge x.getLast? y)
    (hr : wordAt rest.head? = false)
    (eq : y ++ rest = m ++ t) (hm : m ≠ []) (back : Edge m.getLast? t)
    (foreign : ∀ w ∈ words m, w ∉ words (x ++ y)) :
    x = [] ∧ m = ['-'] ∨ x ≠ [] ∧ m = ['.'] := by
  obtain ⟨s, d, z, rfl, hd, hz, mem, place⟩ := h.split ne edge
  have hs : ∀ c ∈ s, isWord c = false := by
    obtain rfl | ⟨-, rfl⟩ | ⟨-, rfl⟩ := place
    · exact fun c hc => nomatch hc
    · exact List.forall_mem_singleton.2 rfl
    · exact List.forall_mem_singleton.2 rfl
  have hz' : wordAt (z ++ rest).head? = false := by
    cases z with
    | nil => exact hr
    | cons c z => exact hz
  obtain begins | own := prefix_or_mem_words hs hd hz' (by simpa using eq) back
  · obtain rfl | ⟨rfl, rfl⟩ | ⟨hx, rfl⟩ := place
    · exact absurd (List.prefix_nil.1 begins) hm
    · exact .inl ⟨rfl, begins.eq_of_length_le (List.length_pos_of_ne_nil hm)⟩
    · exact .inr ⟨hx, begins.eq_of_length_le (List.length_pos_of_ne_nil hm)⟩
  · exact absurd mem (foreign d own)

end IsLiteral

theorem fold_of_not_isWord (h : isWord c = false) : fold c = c := by
  by_cases hc : c.toNat < 128
  · have kept : ∀ c : Char, c.toNat < 128 → isWord c = false → c.toLower = c :=
      ascii_cases (by decide +kernel)
    rw [fold_ascii hc, kept c hc h]
  · exact (fold_cases hc).resolve_right fun ⟨word, _⟩ => Bool.noConfusion (word.symm.trans h)

theorem eq_of_fold_eq {d : Char} (h : isWord c = false) (eq : fold d = fold c) : d = c := by
  have other : isWord d = false := by rw [← isWord_fold, eq, isWord_fold, h]
  rw [← fold_of_not_isWord other, eq, fold_of_not_isWord h]

theorem eq_of_fold_eq_digit {d : Char} (h : c.isDigit = true) (eq : fold d = fold c) : d = c := by
  have digit := isDigit_fold h
  rw [← fold_of_isDigit (c := d) (by rw [eq, digit]), eq, fold_of_isDigit digit]

theorem eq_of_spells_digits (hw : ∀ c ∈ w, c.isDigit = true) (h : spells n w = true) : n = w := by
  induction n generalizing w with
  | nil => exact (List.eq_nil_of_length_eq_zero (spells_length h).symm).symm
  | cons d n ih =>
    cases w with
    | nil => simp [spells] at h
    | cons c w =>
      obtain ⟨first, others⟩ := List.forall_mem_cons.1 hw
      obtain ⟨eq, same⟩ := List.cons.inj (of_decide_eq_true h)
      rw [eq_of_fold_eq_digit first eq, ih others (decide_eq_true same)]

theorem exists_of_spells_concat (hc : isWord c = false) (h : spells n (w ++ [c]) = true) :
    ∃ u, n = u ++ [c] ∧ spells u w = true := by
  have same := of_decide_eq_true h
  rw [List.map_append] at same
  obtain ⟨u, v, rfl, hu, hv⟩ := List.map_eq_append_iff.1 same
  obtain ⟨d, rfl, eq⟩ := List.map_eq_singleton_iff.1 hv
  exact ⟨u, by rw [eq_of_fold_eq hc eq], decide_eq_true hu⟩

theorem Foreign.of_spells (foreign : Foreign n literal) (lit : IsLiteral literal)
    (h : spells n m = true) :
    Foreign m literal where
  words w hw mem := by
    obtain ⟨v, hv, same⟩ := exists_word_of_spells h hw
    have digits : ∀ c ∈ w, c.isDigit = true := fun c hc =>
      lit.digits c (mem_of_mem_words mem hc) ((isWord_of_mem_words mem).2 c hc)
    exact foreign.words v hv (eq_of_spells_digits digits same ▸ mem)
  point eq := by
    subst eq
    obtain ⟨u, rfl, same⟩ := exists_of_spells_concat (w := []) (show isWord '.' = false from rfl) h
    obtain rfl := List.eq_nil_of_length_eq_zero (spells_length same)
    exact foreign.point rfl
  sign u eq negative := by
    subst eq
    obtain ⟨v, rfl, same⟩ := exists_of_spells_concat (show isWord '-' = false from rfl) h
    rw [wordAt_getLast?_of_spells same]
    refine (foreign.sign v rfl negative).imp_left fun empty => ?_
    subst empty
    exact List.eq_nil_of_length_eq_zero (spells_length same).symm

theorem standsAt_congr (same : wordAt before = wordAt before') :
    standsAt name before cs = standsAt name before' cs := by
  have front : isBoundary before cs.head? = isBoundary before' cs.head? := by
    rw [isBoundary, isBoundary, same]
  rw [standsAt, standsAt, front]
  cases (cs.take name.length).getLast? with
  | none =>
    have back (side : Option Char) : isBoundary before side = isBoundary before' side := by
      rw [isBoundary, isBoundary, same]
    rw [Option.none_or, Option.none_or, back]
  | some c => rfl

theorem standsAt_within (h : wordAt before = wordAt cs.head?) :
    standsAt name before cs = false := by
  rw [Bool.eq_false_iff]
  intro stands
  have front := (standsAt_iff.1 stands).1
  rw [isBoundary, h] at front
  simp at front

theorem occursFrom_append
    (front : ∀ x y, w = x ++ y → y ≠ [] → standsAt n (x.getLast?.or before) (y ++ rest) = false)
    (later : occursFrom n (w.getLast?.or before) rest = false) :
    occursFrom n before (w ++ rest) = false := by
  induction w generalizing before with
  | nil => exact later
  | cons c w ih =>
    rw [List.cons_append, occursFrom, Bool.or_eq_false_iff]
    refine ⟨front [] (c :: w) rfl (List.cons_ne_nil c w), ih (fun x y eq ne => ?_) ?_⟩
    · have stands := front (c :: x) y (by rw [eq, List.cons_append]) ne
      rwa [getLast?_cons_or] at stands
    · rwa [← getLast?_cons_or]

theorem occursFrom_of_append (h : occursFrom n before (w ++ rest) = false) :
    occursFrom n (w.getLast?.or before) rest = false := by
  induction w generalizing before with
  | nil => exact h
  | cons c w ih =>
    rw [List.cons_append, occursFrom, Bool.or_eq_false_iff] at h
    rw [getLast?_cons_or]
    exact ih h.2

theorem standsAt_of_occursFrom (h : occursFrom n before cs = false) :
    standsAt n before cs = false := by
  cases cs with
  | nil => exact h
  | cons c cs => exact (Bool.or_eq_false_iff.1 h).1

section Replace

variable (begins : wordAt name.head? = true) (ends : wordAt name.getLast? = true)
    (lit : IsLiteral literal)

include begins in
theorem wordAt_head?_replaceFrom
    (back : isBoundary before (replaceFrom name literal 0 before cs).head? = true) :
    wordAt cs.head? = wordAt (replaceFrom name literal 0 before cs).head? := by
  cases head : wordAt cs.head? with
  | false => rw [wordAt_replaceFrom begins head]
  | true =>
    cases side : wordAt before with
    | false => simpa [isBoundary, side] using back
    | true =>
      cases cs with
      | nil => cases head
      | cons c cs =>
        rw [replaceFrom, if_neg (Bool.eq_false_iff.1 (standsAt_inside begins side))]
        exact head.symm

include begins in
theorem reflects_nil (eq : replaceFrom name literal 0 before cs = [] ++ t)
    (back : isBoundary before t.head? = true) :
    ∃ t', cs = [] ++ t' ∧ wordAt t'.head? = wordAt t.head? := by
  rw [List.nil_append] at eq
  subst eq
  exact ⟨cs, rfl, wordAt_head?_replaceFrom begins back⟩

include lit in
theorem literal_append_ne (foreign : ∀ w ∈ words m, w ∉ words literal) (hm : m ≠ [])
    (sign : m = ['-'] → literal.head? ≠ some '-')
    (hr : wordAt rest.head? = false) (back : Edge m.getLast? t) : literal ++ rest ≠ m ++ t := by
  intro eq
  obtain ⟨-, rfl⟩ | ⟨ne, -⟩ :=
    lit.sign_or_point (x := []) lit.ne_nil (.inl rfl) hr eq hm back foreign
  · refine sign rfl ?_
    obtain ⟨c, l, rfl⟩ := List.exists_cons_of_ne_nil lit.ne_nil
    obtain ⟨rfl, -⟩ := List.cons.inj eq
    rfl
  · exact ne rfl

include begins ends lit in
/--
What the changed text begins with, up to an edge, the text
itself begins with, unless it has a part of the literal.
-/
theorem replaceFrom_reflects (foreign : ∀ w ∈ words m, w ∉ words literal)
    (sign : ∀ u, m = u ++ ['-'] → literal.head? = some '-' → wordAt (u.getLast?.or before) = true)
    (eq : replaceFrom name literal 0 before cs = m ++ t)
    (back : isBoundary (m.getLast?.or before) t.head? = true) :
    ∃ t', cs = m ++ t' ∧ wordAt t'.head? = wordAt t.head? := by
  induction before, cs using replaceFrom_induction begins generalizing m with
  | nil before =>
    rw [replaceFrom_nil begins] at eq
    obtain ⟨rfl, rfl⟩ := List.nil_eq_append_iff.1 eq
    exact ⟨[], rfl, rfl⟩
  | other before c cs hc ih =>
    cases m with
    | nil => exact reflects_nil begins eq back
    | cons d m =>
      rw [replaceFrom_cons begins literal hc] at eq
      obtain ⟨rfl, tail⟩ := List.cons.inj eq
      rw [words_other hc] at foreign
      rw [getLast?_cons_or] at back
      have sign' : ∀ u, m = u ++ ['-'] → literal.head? = some '-' →
          wordAt (u.getLast?.or (some c)) = true := by
        intro u split negative
        rw [← getLast?_cons_or c u before]
        exact sign (c :: u) (by rw [split, List.cons_append]) negative
      obtain ⟨t', rfl, next⟩ := ih foreign sign' tail back
      exact ⟨t', rfl, next⟩
  | passes before v rest hv hr stands ih =>
    by_cases hm : m = []
    · subst hm
      exact reflects_nil begins eq back
    rw [replaceFrom_passes begins literal hv stands] at eq
    obtain ⟨m, rfl, tail⟩ :=
      (word_or_nil_of_edge hv.2 eq (.of_isBoundary (getLast?_or hm ▸ back))).resolve_left hm
    have next : wordAt m.head? = false :=
      wordAt_head?_of_append (tail ▸ wordAt_replaceFrom begins hr)
    rw [words_word hv next] at foreign
    rw [getLast?_append_or] at back
    have sign' : ∀ u, m = u ++ ['-'] → literal.head? = some '-' →
        wordAt (u.getLast?.or (v.getLast?.or before)) = true := by
      intro u split negative
      rw [← getLast?_append_or]
      exact sign (v ++ u) (by rw [split, List.append_assoc]) negative
    obtain ⟨t', rfl, next⟩ := ih (fun w hw => foreign w (List.mem_cons_of_mem v hw)) sign' tail back
    exact ⟨t', (List.append_assoc ..).symm, next⟩
  | stands before w after ne same stands here _ =>
    by_cases hm : m = []
    · subst hm
      exact reflects_nil begins eq back
    obtain ⟨-, -, outside⟩ := outside_of_spells begins ends same here
    have side : wordAt before = false := by
      cases side : wordAt before with
      | false => rfl
      | true => exact Bool.noConfusion (stands.symm.trans (standsAt_inside begins side))
    rw [replaceFrom_stands literal ne same stands] at eq
    refine absurd eq
      (literal_append_ne lit foreign hm (fun minus negative => ?_)
        (wordAt_replaceFrom begins outside)
      (.of_isBoundary (getLast?_or hm ▸ back)))
    exact Bool.noConfusion (side.symm.trans (sign [] minus negative))

include begins ends lit in
theorem standsAt_of_replaceFrom (foreign : Foreign n literal) (ne : n ≠ [])
    (same : wordAt before' = wordAt before)
    (h : standsAt n before' (replaceFrom name literal 0 before cs) = true) :
    standsAt n before cs = true := by
  obtain ⟨front, m, t, eq, spelled, back⟩ := standsAt_iff.1 h
  have hm := ne_nil_of_spells ne spelled
  have foreign' := foreign.of_spells lit spelled
  obtain ⟨c, m, rfl⟩ := List.exists_cons_of_ne_nil hm
  have sign : ∀ u, c :: m = u ++ ['-'] → literal.head? = some '-' →
      wordAt (u.getLast?.or before) = true := by
    intro u split negative
    obtain rfl | last := foreign'.sign u split negative
    · -- the sign comes after a word
      obtain ⟨rfl, -⟩ := List.cons.inj split
      rw [eq] at front
      have word : wordAt before' = true := by
        simpa [isBoundary, show wordAt (some '-') = false from rfl] using front
      exact same ▸ word
    · have hu : u ≠ [] := by
        rintro rfl
        cases last
      rwa [getLast?_or hu]
  have back' : isBoundary ((c :: m).getLast?.or before) t.head? = true := by
    rw [getLast?_or hm] at back ⊢
    exact back
  obtain ⟨t', rfl, next⟩ := replaceFrom_reflects begins ends lit foreign'.words sign eq back'
  refine standsAt_iff.2 ⟨?_, c :: m, t', rfl, spelled, ?_⟩
  · rwa [eq, isBoundary, same] at front
  · rwa [isBoundary, next]

include begins ends lit in
theorem standsAt_replaceFrom (foreign : Foreign n literal) (ne : n ≠ [])
    (same : wordAt before' = wordAt before) (h : occursFrom n before cs = false) :
    standsAt n before' (replaceFrom name literal 0 before cs) = false :=
  Bool.eq_false_iff.2 fun stands =>
    Bool.eq_false_iff.1 (standsAt_of_occursFrom h)
      (standsAt_of_replaceFrom begins ends lit foreign ne same stands)

include lit in
theorem standsAt_literal (foreign : Foreign n literal) (ne : n ≠ []) (split : literal = x ++ y)
    (hx : x ≠ []) (hy : y ≠ [])
    (hr : wordAt rest.head? = false) : standsAt n (x.getLast?.or before) (y ++ rest) = false := by
  rw [Bool.eq_false_iff]
  intro stands
  obtain ⟨front, m, t, eq, spelled, back⟩ := standsAt_iff.1 stands
  have hm := ne_nil_of_spells ne spelled
  have foreign' := foreign.of_spells lit spelled
  have edge : Edge x.getLast? y :=
    .of_isBoundary (by rwa [getLast?_or hx, List.head?_append_of_ne_nil _ hy] at front)
  subst split
  obtain ⟨empty, -⟩ | ⟨-, rfl⟩ :=
    lit.sign_or_point hy edge hr eq hm (.of_isBoundary (by rwa [getLast?_or hm] at back))
      foreign'.words
  · exact hx empty
  · obtain ⟨c, y, rfl⟩ := List.exists_cons_of_ne_nil hy
    obtain ⟨rfl, -⟩ := List.cons.inj eq
    exact foreign'.point rfl (by simp)

include begins ends lit in
theorem occursFrom_replaceFrom (foreign : Foreign n literal) (ne : n ≠ [])
    (same : wordAt before' = wordAt before) (h : occursFrom n before cs = false) :
    occursFrom n before' (replaceFrom name literal 0 before cs) = false := by
  induction before, cs using replaceFrom_induction begins generalizing before' with
  | nil before =>
    rw [replaceFrom_nil begins, occursFrom, standsAt_congr same]
    exact h
  | other before c cs hc ih =>
    have front := standsAt_replaceFrom begins ends lit foreign ne same h
    rw [replaceFrom_cons begins literal hc] at front ⊢
    rw [occursFrom, front, Bool.false_or]
    exact ih rfl (Bool.or_eq_false_iff.1 h).2
  | passes before v rest hv hr stands ih =>
    have front := standsAt_replaceFrom begins ends lit foreign ne same h
    rw [replaceFrom_passes begins literal hv stands] at front ⊢
    refine occursFrom_append (fun x y split hy => ?_) (ih ?_ (occursFrom_of_append h))
    · by_cases hx : x = []
      · obtain rfl : v = y := by rw [split, hx, List.nil_append]
        rw [hx]
        exact front
      · -- no name begins inside of a word
        have word : ∀ c ∈ x ++ y, isWord c = true := split ▸ hv.2
        have inside : wordAt (x.getLast?.or before') = true :=
          wordAt_last ⟨hx, fun c hc => word c (List.mem_append_left y hc)⟩
        have next :
            wordAt (y ++ replaceFrom name literal 0 (v.getLast?.or before) rest).head? = true :=
          wordAt_head ⟨hy, fun c hc => word c (List.mem_append_right x hc)⟩
        exact standsAt_within (inside.trans next.symm)
    · rw [wordAt_last hv, wordAt_last hv]
  | stands before w after hw spelled stands here ih =>
    have front := standsAt_replaceFrom begins ends lit foreign ne same h
    obtain ⟨-, last, outside⟩ := outside_of_spells begins ends spelled here
    rw [replaceFrom_stands literal hw spelled stands] at front ⊢
    refine occursFrom_append (fun x y split hy => ?_) (ih ?_ (occursFrom_of_append h))
    · by_cases hx : x = []
      · obtain rfl : literal = y := by rw [split, hx, List.nil_append]
        rw [hx]
        exact front
      · exact standsAt_literal lit foreign ne split hx hy (wordAt_replaceFrom begins outside)
    · rw [last, getLast?_or lit.ne_nil, lit.last]

end Replace

theorem isWord_of_isDigit (h : c.isDigit = true) : isWord c = true :=
  isWord_of_isNamePart (isNamePart_of_isDigit h)

theorem wordAt_of_digits (ne : w ≠ []) (hw : ∀ c ∈ w, c.isDigit = true) :
    wordAt (w ++ rest).head? = true :=
  wordAt_head ⟨ne, fun c hc => isWord_of_isDigit (hw c hc)⟩

theorem begins_of_isPositional (h : Decimal.IsPositional w) : wordAt w.head? = true := by
  cases h with
  | whole ne digits =>
    rw [← List.append_nil w]
    exact wordAt_of_digits ne digits
  | point ne digits _ _ => exact wordAt_of_digits ne digits

theorem point_of_isPositional (h : Decimal.IsPositional w) (eq : w = x ++ c :: y)
    (hc : isWord c = false) :
    wordAt y.head? = true ∧ x ≠ [] ∧ c = '.' := by
  have other : ∀ {ds : List Char}, (∀ d ∈ ds, d.isDigit = true) → c ∉ ds := fun digits hd =>
    Bool.noConfusion ((isWord_of_isDigit (digits c hd)).symm.trans hc)
  cases h with
  | whole _ digits => exact absurd (by simp [eq]) (other digits)
  | @point ds es ne digits ne' digits' =>
    obtain ⟨a, rfl, split⟩ | ⟨a, rfl, split⟩ := List.append_eq_append_iff.1 eq
    · cases a with
      | nil =>
        obtain ⟨rfl, rfl⟩ := List.cons.inj split
        refine ⟨?_, by simpa using ne, rfl⟩
        rw [← List.append_nil es]
        exact wordAt_of_digits ne' digits'
      | cons d a =>
        obtain ⟨-, rfl⟩ := List.cons.inj split
        exact absurd (by simp) (other digits')
    · cases a with
      | nil =>
        obtain ⟨rfl, rfl⟩ := List.cons.inj split
        refine ⟨?_, by simpa using ne, rfl⟩
        rw [← List.append_nil y]
        exact wordAt_of_digits ne' digits'
      | cons d a =>
        obtain ⟨rfl, -⟩ := List.cons.inj split
        exact absurd (by simp) (other digits)

theorem isLiteral_plain {v : Float} (finite : v.isFinite = true) : IsLiteral (Decimal.plain v) where
  ne_nil empty := by
    obtain ⟨c, hc, -⟩ := exists_isDigit_literal finite
    rw [empty] at hc
    cases hc
  digits c := isDigit_of_mem_literal finite
  other x c y eq hc := by
    have shape := Decimal.isPositional_unsignedText v
    rw [Decimal.plain_eq finite, Decimal.signed] at eq
    split at eq
    · cases x with
      | nil =>
        obtain ⟨rfl, rfl⟩ := List.cons.inj eq
        exact ⟨begins_of_isPositional shape, .inl ⟨rfl, rfl⟩⟩
      | cons d x =>
        obtain ⟨-, tail⟩ := List.cons.inj eq
        obtain ⟨next, -, point⟩ := point_of_isPositional shape tail hc
        exact ⟨next, .inr ⟨List.cons_ne_nil d x, point⟩⟩
    · obtain ⟨next, hx, point⟩ := point_of_isPositional shape eq hc
      exact ⟨next, .inr ⟨hx, point⟩⟩

variable {f : String} {b l : Bindings} {p : String × Float} {cs' : List Char}

/-- What is put in for the name cannot be a part of another name. -/
structure Harmless (n : String) (p : String × Float) : Prop where
  begins : wordAt p.1.toList.head? = true
  ends : wordAt p.1.toList.getLast? = true
  foreign : Foreign n.toList (Decimal.plain p.2)

theorem Harmless.replaceName (n : String) (ne : n ≠ "")
    (harmless : p.2.isFinite = true → Harmless n p)
    (h : occursFrom n.toList none cs = false) (replaced : replaceName cs p = .ok cs') :
    occursFrom n.toList none cs' = false := by
  rw [Formula.replaceName] at replaced
  split at replaced
  · split at replaced
    · rename_i finite
      cases replaced
      obtain ⟨begins, ends, foreign⟩ := harmless finite
      exact occursFrom_replaceFrom begins ends (isLiteral_plain finite) foreign
        (by simpa using ne) rfl h
    · cases replaced
  · cases replaced
    exact h

theorem foldlM_replaceName_unmentioned {n : String} (ne : n ≠ "") (v : Float) (l' : Bindings)
    (harmless : ∀ p ∈ l, p.2.isFinite = true → Harmless n p)
    (h : occursFrom n.toList none cs = false) :
    (l ++ (n, v) :: l').foldlM replaceName cs = (l ++ l').foldlM replaceName cs := by
  induction l generalizing cs with
  | nil =>
    rw [List.nil_append, List.foldlM_cons, replaceName_absent h]
    rfl
  | cons p l ih =>
    obtain ⟨first, rest⟩ := List.forall_mem_cons.1 harmless
    rw [List.cons_append, List.cons_append, List.foldlM_cons, List.foldlM_cons]
    cases replaced : replaceName cs p with
    | error => rfl
    | ok cs' => exact ih rest (Harmless.replaceName n ne first h replaced)

theorem Bindings.inOrder_set {n : String} (distinct : (b.map Prod.fst).Nodup)
    (new : n ∉ b.map Prod.fst) (v : Float) :
    ∃ l l', (b.set n v).inOrder = l ++ (n, v) :: l' ∧ b.inOrder = l ++ l' ∧
      ∀ p ∈ l, p ∈ b ∧ Bindings.precedes p (n, v) = true := by
  have unset : (b.set n v).unset n = b := by
    rw [Bindings.unset_set_self, Bindings.unset, List.filter_eq_self]
    exact fun p hp => decide_eq_true fun eq => new (List.mem_map.2 ⟨p, hp, eq⟩)
  have distinct' := Bindings.nodup_set distinct n v
  have perm := (b.set n v).inOrder_perm
  obtain ⟨l, l', split⟩ :=
    List.append_of_mem (perm.mem_iff.2 (Bindings.mem_set.2 (.inl ⟨rfl, rfl⟩)))
  have sorted := (b.set n v).pairwise_inOrder
  have single := (perm.map Prod.fst).nodup_iff.2 distinct'
  rw [split] at perm sorted single
  -- the name stands in the one pair only
  have others : ∀ p ∈ l ++ l', p.1 ≠ n := by
    rw [List.map_append, List.map_cons, List.nodup_middle, List.nodup_cons,
      ← List.map_append] at single
    exact fun p hp eq => single.1 (List.mem_map.2 ⟨p, hp, eq⟩)
  refine ⟨l, l', split, ?_,
    fun p hp => ⟨?_, (List.pairwise_append.1 sorted).2.2 p hp _ List.mem_cons_self⟩⟩
  · have order := Bindings.inOrder_unset distinct' n
    have kept : (l ++ l').filter (·.1 ≠ n) = l ++ l' :=
      List.filter_eq_self.2 fun p hp => decide_eq_true (others p hp)
    rwa [unset, split, List.filter_append, List.filter_cons_of_neg (by simp), ← List.filter_append,
      kept] at order
  · have listed : p ∈ b.set n v := perm.mem_iff.1 (List.mem_append_left _ hp)
    obtain ⟨eq, -⟩ | ⟨-, mem⟩ := Bindings.mem_set.1 listed
    · exact absurd eq (others p (List.mem_append_left l' hp))
    · exact mem

/--
A new binding that the formula does not mention, and
that nothing put in can complete, has no effect.
-/
theorem evaluate_set_unmentioned (f : String) (b : Bindings) (n : String) (v : Float)
    (distinct : (b.map Prod.fst).Nodup) (new : n ∉ b.map Prod.fst) (ne : n ≠ "")
    (unmentioned : occursFrom n.toList none f.toList = false)
    (harmless : ∀ p ∈ b, p.2.isFinite = true → Bindings.precedes p (n, v) = true → Harmless n p) :
    prepare f (b.set n v) = prepare f b ∧ evaluate f (b.set n v) = evaluate f b := by
  have same : prepare f (b.set n v) = prepare f b := by
    obtain ⟨l, l', order, order', before⟩ := Bindings.inOrder_set distinct new v
    rw [prepare, prepare, prepareText, prepareText, order, order',
      foldlM_replaceName_unmentioned ne v l' ?_ unmentioned]
    exact fun p hp finite => harmless p (before p hp).1 finite (before p hp).2
  exact ⟨same, by rw [evaluate, evaluate, same]⟩

theorem evaluate_set_unmentioned_phrase :
    occursFrom "Tier 2".toList none "MAX HP - tier".toList = false ∧
    prepare "MAX HP - tier" (Bindings.set [("Max HP", -3.5)] "Tier 2" (0 / 0)) =
      prepare "MAX HP - tier" [("Max HP", -3.5)] ∧
    evaluate "MAX HP - tier" (Bindings.set [("Max HP", -3.5)] "Tier 2" (0 / 0)) =
      evaluate "MAX HP - tier" [("Max HP", -3.5)] := by
  have unmentioned : occursFrom "Tier 2".toList none "MAX HP - tier".toList = false := by
    decide +kernel
  have harmless : Harmless "Tier 2" ("Max HP", -3.5) := by
    refine ⟨by decide, by decide, by decide +kernel, fun point => ?_, fun u split => ?_⟩
    · cases point
    · have last := congrArg List.getLast? split
      rw [List.getLast?_concat] at last
      cases last
  refine ⟨unmentioned,
    evaluate_set_unmentioned _ _ _ _ (by decide) (by decide) (by decide) unmentioned ?_⟩
  exact List.forall_mem_singleton.2 fun _ _ => harmless

/-- A name of digits is found in what is put in for another name. -/
theorem literal_replaced : "5" ∉ List.map Prod.fst [("hp", (5 : Float))] ∧ isBlankText "5" = false ∧
    occursFrom "5".toList none "hp".toList = false ∧ prepare "hp" [("hp", 5)] = .ok "5" ∧
    prepare "hp" (Bindings.set [("hp", 5)] "5" 7) = .ok "7" := by
  have own : Bindings.inOrder [("hp", 5)] = [("hp", 5)] :=
    Bindings.inOrder_eq (.refl _) (List.pairwise_singleton _ _) (by decide)
  have both : Bindings.inOrder (Bindings.set [("hp", 5)] "5" 7) = [("hp", 5), ("5", 7)] := by
    refine Bindings.inOrder_eq (.refl _) ?_ (by decide)
    simp only [List.pairwise_cons]
    decide +kernel
  refine ⟨by decide, by decide, by decide +kernel, ?_, ?_⟩
  · rw [prepare, prepareText, own]
    exact ok_of_toOption (by decide +kernel)
  · rw [prepare, prepareText, both]
    exact ok_of_toOption (by decide +kernel)

end GameBalance.Formula
