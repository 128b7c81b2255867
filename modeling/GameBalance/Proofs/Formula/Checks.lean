import GameBalance.Proofs.Formula.Balance
import GameBalance.Proofs.Formula.Names
import GameBalance.Proofs.Formula.Separation

namespace GameBalance.Formula

open Text Grammar

namespace Expr

mutual

theorem isSome_of_evalIn : (e : Expr) → e.evalIn env = .ok x → ∀ n ∈ e.vars, (env n).isSome
  | .number _, _, _, hn => nomatch hn
  | .var name, ok, n, hn => by
    obtain rfl := List.mem_singleton.1 hn
    rw [evalIn] at ok
    cases value : env n with
    | none =>
      rw [value] at ok
      cases ok
    | some => rfl
  | .negate e, ok, n, hn => by
    rw [evalIn] at ok
    obtain ⟨_, operand, -⟩ := ok_of_bind ok
    exact isSome_of_evalIn e operand n hn
  | .binary op l r, ok, n, hn => by
    rw [evalIn] at ok
    obtain ⟨_, left, ok⟩ := ok_of_bind ok
    obtain ⟨_, right, -⟩ := ok_of_bind ok
    obtain hn | hn := List.mem_append.1 hn
    · exact isSome_of_evalIn l left n hn
    · exact isSome_of_evalIn r right n hn
  | .call f args, ok, n, hn => by
    rw [evalIn] at ok
    obtain ⟨_, all, -⟩ := ok_of_bind ok
    exact isSome_of_evalAll args all n hn

theorem isSome_of_evalAll :
    (es : List Expr) → evalAll env es = .ok xs → ∀ n ∈ varsAll es, (env n).isSome
  | [], _, _, hn => nomatch hn
  | e :: es, ok, n, hn => by
    rw [evalAll] at ok
    obtain ⟨_, first, ok⟩ := ok_of_bind ok
    obtain ⟨_, others, -⟩ := ok_of_bind ok
    obtain hn | hn := List.mem_append.1 hn
    · exact isSome_of_evalIn e first n hn
    · exact isSome_of_evalAll es others n hn

end

end Expr

variable {cs w rest : List Char} {b : Bindings} {f n : String} {x : Float}

theorem suffix_of_mem_namesIn_run (hw : ∀ c ∈ w, isNamePart c = true) (hr : Stops isNamePart rest)
    (hn : n ∈ namesIn (w ++ rest)) :
    (∃ u, w = u ++ n.toList ∧ ∀ c ∈ u, isNameStart c = false) ∨ n ∈ namesIn rest := by
  induction w with
  | nil => exact .inr hn
  | cons c w ih =>
    have part : ∀ d ∈ w, isNamePart d = true := fun d hd => hw d (List.mem_cons_of_mem c hd)
    cases start : isNameStart c with
    | true =>
      rw [List.cons_append, namesIn_start start, (span_run part hr).1, (span_run part hr).2] at hn
      obtain rfl | hn := List.mem_cons.1 hn
      · exact .inl ⟨[], by rw [String.toList_ofList, List.nil_append], fun _ h => nomatch h⟩
      · exact .inr hn
    | false =>
      rw [List.cons_append, namesIn_other start] at hn
      refine (ih part hn).imp_left ?_
      rintro ⟨u, rfl, before⟩
      exact ⟨c :: u, rfl, List.forall_mem_cons.2 ⟨start, before⟩⟩

theorem exists_word_of_mem_namesIn (letters : ∀ w ∈ words cs, ∀ c ∈ w, isNamePart c = true)
    (hn : n ∈ namesIn cs) :
    ∃ w ∈ words cs, ∃ u, w = u ++ n.toList ∧ ∀ c ∈ u, isNameStart c = false := by
  induction cs using word_induction with
  | nil =>
    rw [namesIn] at hn
    cases hn
  | other c cs hc ih =>
    have other : isNameStart c = false := Bool.eq_false_iff.2 fun start =>
      Bool.noConfusion ((isWord_of_isNamePart (isNamePart_of_isNameStart start)).symm.trans hc)
    rw [namesIn_other other] at hn
    rw [words_other hc] at letters ⊢
    exact ih letters hn
  | word w rest hw hr ih =>
    rw [words_word hw hr] at letters ⊢
    obtain ⟨part, letters⟩ := List.forall_mem_cons.1 letters
    obtain own | later := suffix_of_mem_namesIn_run part (wordAt_of_stops hr) hn
    · exact ⟨w, List.mem_cons_self, own⟩
    · obtain ⟨w', hw', split⟩ := ih letters later
      exact ⟨w', List.mem_cons_of_mem w hw', split⟩

theorem isNamePart_of_mem_words (ascii : ∀ c ∈ w, c.toNat < 128) (hw : w ∈ words cs) :
    ∀ c ∈ w, isNamePart c = true := by
  intro c hc
  rw [← isWord_eq_isNamePart (ascii c hc)]
  exact (isWord_of_mem_words hw).2 c hc

theorem mem_words_mapWords (hw : w ∈ words cs) (kept : g w = w) : w ∈ words (mapWords g cs) := by
  rw [words_mapWords]
  refine List.mem_flatMap.2 ⟨w, hw, ?_⟩
  rw [kept, words_of_isWord (isWord_of_mem_words hw)]
  exact List.mem_cons_self

theorem isSome_of_letters (letters : ∀ w ∈ words f.toList, ∀ c ∈ w, isNamePart c = true)
    (proper : b.Proper) (finite : ∀ p ∈ b, p.2.isFinite = true) (notBlank : isBlankText f = false)
    (ok : evaluate f b = .ok x) (hn : n ∈ referencedNames f) : (b.value? n).isSome := by
  obtain ⟨ts, e, d, lexes, ⟨k, expr⟩, -, value⟩ := eval_of_evaluate proper.names finite notBlank ok
  obtain ⟨found, free⟩ := List.mem_filter.1 hn
  obtain ⟨w, hw, u, split, before⟩ := exists_word_of_mem_namesIn letters found
  obtain ⟨c, cs, eq, start, -⟩ := isName_of_mem_namesIn found
  have whole : IsName w → .ofList w = n := by
    rintro ⟨d, ds, rfl, start', -⟩
    cases u with
    | nil => rw [split, List.nil_append, String.ofList_toList]
    | cons d' u =>
      obtain ⟨rfl, -⟩ := List.cons.inj split
      exact Bool.noConfusion (start'.symm.trans (before d List.mem_cons_self))
  rw [Option.isSome_iff_ne_none]
  intro none
  -- the word stands in the changed text too, where it can
  -- be no part of a numeral, so there is a variable for it
  have kept : literalIn b.inOrder w = w := by
    have names : ∀ p ∈ b.inOrder, IsName p.1.toList :=
      fun p hp => proper.names p (b.inOrder_perm.mem_iff.1 hp)
    by_cases name : IsName w
    · rw [literalIn_eq names name, proper.value?_perm b.inOrder_perm, whole name, none,
        Option.elim_none]
    · exact literalIn_other names (letters w hw) name
  obtain digits | ⟨name, token⟩ := lexes.words expr.apart (mem_words_mapWords hw kept)
  · have digit := digits c (by rw [split, eq]; simp)
    have numeral : isNumeral c = true := by rw [isNumeral, digit, Bool.true_or]
    exact Bool.noConfusion (numeral.symm.trans (class_of_isNameStart start).2.2)
  · rw [whole name] at token
    obtain var | builtin := expr.mentions.mem_vars token
    · exact Bool.noConfusion (Expr.isSome_of_evalIn e value n var)
    · rw [builtin] at free
      cases free

theorem isSome_of_evaluate (ascii : ∀ c ∈ f.toList, c.toNat < 128) (proper : b.Proper)
    (finite : ∀ p ∈ b, p.2.isFinite = true) (notBlank : isBlankText f = false)
    (ok : evaluate f b = .ok x) (hn : n ∈ referencedNames f) : (b.value? n).isSome :=
  isSome_of_letters
    (fun _ hw => isNamePart_of_mem_words (fun c hc => ascii c (mem_of_mem_words hw hc)) hw)
    proper finite
    notBlank ok hn

theorem imbalance?_of_evaluate (names : ∀ p ∈ b, IsName p.1.toList)
    (finite : ∀ p ∈ b, p.2.isFinite = true)
    (notBlank : isBlankText f = false) (ok : evaluate f b = .ok x) : imbalance? f = none := by
  obtain ⟨ts, e, d, lexes, derives, -⟩ := eval_of_evaluate names finite notBlank ok
  refine imbalance?_eq_none lexes derives (parens_mapWords fun w hw => ?_)
  exact parens_literalIn (fun p hp => finite p (b.inOrder_perm.mem_iff.1 hp))
    (isWord_of_mem_words hw)

theorem foldl_addSpelling_ne_nil (names : List String) {seen : List String} (h : seen ≠ []) :
    names.foldl addSpelling seen ≠ [] := by
  induction names generalizing seen with
  | nil => exact h
  | cons name names ih =>
    refine ih ?_
    rw [addSpelling]
    split
    · exact h
    · exact List.append_ne_nil_of_right_ne_nil _ (List.cons_ne_nil _ _)

theorem unknownVariables_eq_nil_iff {known : List String} :
    unknownVariables f known = [] ↔ ∀ n ∈ referencedNames f, lowercase n ∈ known := by
  have none : ((referencedNames f).filter fun n => !known.contains (lowercase n)) = [] ↔
      ∀ n ∈ referencedNames f, lowercase n ∈ known := by
    simp [List.filter_eq_nil_iff]
  rw [unknownVariables, ← none]
  constructor
  · intro h
    cases unknown : (referencedNames f).filter fun n => !known.contains (lowercase n) with
    | nil => rfl
    | cons n names =>
      rw [unknown, List.foldl_cons] at h
      exact absurd h (foldl_addSpelling_ne_nil names (List.cons_ne_nil _ _))
  · intro h
    rw [h, List.foldl_nil]

theorem unknownVariables_congr {known known' : List String}
    (same : ∀ n ∈ referencedNames f, lowercase n ∈ known ↔ lowercase n ∈ known') :
    unknownVariables f known = unknownVariables f known' := by
  rw [unknownVariables, unknownVariables]
  refine congrArg (List.foldl addSpelling []) (List.filter_congr fun n hn => ?_)
  simp [same n hn]

theorem validate_congr {names' : List String} {b' : Bindings}
    (known : ∀ n ∈ referencedNames f, lowercase n ∈ knownNames names ↔
      lowercase n ∈ knownNames names')
    (value : evaluate f b = evaluate f b') :
    validate f names (some b) = validate f names' (some b') := by
  rw [validate, validate, staticIssue?, staticIssue?, unknownVariables_congr known, value]

theorem validate_eq_valid_iff (notBlank : isBlankText f = false) :
    validate f names (some b) = .valid sample ↔
    ∃ x, evaluate f b = .ok x ∧ staticIssue? f (knownNames names) = none ∧ sample = some x := by
  rw [validate, notBlank, if_neg Bool.false_ne_true]
  cases staticIssue? f (knownNames names) with
  | some issue => simp
  | none =>
    cases evaluate f b with
    | error e => simp
    | ok x => simp [eq_comm]

end GameBalance.Formula
