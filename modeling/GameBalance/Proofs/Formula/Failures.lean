import GameBalance.Proofs.Formula.Checks

namespace GameBalance.Formula

open Text Grammar

variable {cs w : List Char} {b : Bindings} {f : String} {env : String → Option Float}
    {err : EvalError}

theorem error_of_bind {r : Except ε α} {g : α → Except ε β} (h : r >>= g = .error e) :
    r = .error e ∨ ∃ a, r = .ok a ∧ g a = .error e := by
  cases r with
  | error => exact .inl (congrArg Except.error (Except.error.inj h))
  | ok a => exact .inr ⟨a, rfl, h⟩

theorem error_of_mapError {r : Except ε α} {g : ε → ε'} (h : r.mapError g = .error e) :
    ∃ e', r = .error e' ∧ e = g e' := by
  cases r with
  | error e' => exact ⟨e', rfl, (Except.error.inj h).symm⟩
  | ok => cases h

inductive Fails (ts : List Token) : EvalError → Prop
  | division : Fails ts .divisionByZero
  | unresolved : .identifier n ∈ ts → Builtin.isName n = false → Fails ts (.unresolvedVariable n)

theorem Fails.mono (h : Fails ts err) (sub : ts ⊆ us) : Fails us err := by
  cases h with
  | division => exact .division
  | unresolved mem free => exact .unresolved (sub mem) free

theorem BinaryOp.apply_error {op : BinaryOp} {x y : Float} (h : op.apply x y = .error err) :
    err = .divisionByZero := by
  cases op with
  | div =>
    rw [BinaryOp.apply] at h
    split at h
    · exact (Except.error.inj h).symm
    · cases h
  | _ => cases h

theorem Fails.binary {op : BinaryOp} {l r : Expr} (h : (Expr.binary op l r).evalIn env = .error err)
    (left : l.evalIn env = .error err → Fails ts err)
    (right : r.evalIn env = .error err → Fails us err)
    (hts : ts ⊆ vs) (hus : us ⊆ vs) : Fails vs err := by
  rw [Expr.evalIn] at h
  obtain h | ⟨x, -, h⟩ := error_of_bind h
  · exact (left h).mono hts
  obtain h | ⟨y, -, h⟩ := error_of_bind h
  · exact (right h).mono hus
  · rw [BinaryOp.apply_error h]
    exact .division

theorem Builtin.apply_evalAll {f : Builtin} {xs : List Float} (some : es ≠ [])
    (args : Expr.evalAll env es = .ok xs) :
    ∃ x, f.apply xs = .ok x := by
  obtain ⟨e, rest, rfl⟩ := List.exists_cons_of_ne_nil some
  rw [Expr.evalAll] at args
  obtain ⟨x, -, args⟩ := ok_of_bind args
  obtain ⟨xs, -, args⟩ := ok_of_bind args
  cases args
  exact ⟨_, rfl⟩

namespace Grammar

theorem fails_compositional :
    Compositional (fun ts e => e.evalIn env = .error err → Fails ts err)
      fun ts es => es ≠ [] ∧ (Expr.evalAll env es = .error err → Fails ts err) where
  number _ error := nomatch error
  var free error := by
    rw [Expr.evalIn] at error
    split at error
    · cases error
    · cases error
      exact .unresolved List.mem_cons_self (by rw [Builtin.isName, free]; rfl)
  link left right error := .binary error left right (List.subset_append_left _ _) (by simp)
  plus operand error := (operand error).mono (List.subset_cons_self _ _)
  minus operand error := by
    rw [Expr.evalIn] at error
    obtain error | ⟨x, -, error⟩ := error_of_bind error
    · exact (operand error).mono (List.subset_cons_self _ _)
    · cases error
  parens inner error := (inner error).mono (by simp)
  call _ args error := by
    rw [Expr.evalIn] at error
    obtain error | ⟨xs, values, error⟩ := error_of_bind error
    · exact (args.2 error).mono
        (List.subset_cons_of_subset _ (List.subset_cons_of_subset _ (List.subset_append_left _ _)))
    · obtain ⟨x, value⟩ := Builtin.apply_evalAll args.1 values
      rw [value] at error
      cases error
  last only := by
    refine ⟨List.cons_ne_nil _ _, fun error => ?_⟩
    rw [Expr.evalAll] at error
    obtain error | ⟨x, -, error⟩ := error_of_bind error
    · exact only error
    · cases error
  more first others := by
    refine ⟨List.cons_ne_nil _ _, fun error => ?_⟩
    rw [Expr.evalAll] at error
    obtain error | ⟨x, -, error⟩ := error_of_bind error
    · exact (first error).mono (List.subset_append_left _ _)
    · obtain error | ⟨xs, -, error⟩ := error_of_bind error
      · exact (others.2 error).mono (by simp)
      · cases error

theorem Expression.fails (h : Expression n ts e d) : e.evalIn env = .error err → Fails ts err :=
  fails_compositional.expression h

end Grammar

theorem replaceName_error {p : String × Float} (h : replaceName cs p = .error err) :
    err = .nonFiniteBinding p.1 p.2 ∧ p.2.isFinite = false := by
  rw [replaceName] at h
  split at h
  · split at h
    · cases h
    · rename_i infinite
      exact ⟨(Except.error.inj h).symm, Bool.eq_false_iff.2 infinite⟩
  · cases h

theorem foldlM_replaceName_error (h : b.foldlM replaceName cs = .error err) :
    ∃ p ∈ b, err = .nonFiniteBinding p.1 p.2 ∧ p.2.isFinite = false := by
  induction b generalizing cs with
  | nil => cases h
  | cons p b ih =>
    rw [List.foldlM_cons] at h
    obtain h | ⟨cs', -, h⟩ := error_of_bind h
    · exact ⟨p, List.mem_cons_self, replaceName_error h⟩
    · obtain ⟨q, hq, failure⟩ := ih h
      exact ⟨q, List.mem_cons_of_mem p hq, failure⟩

theorem error_of_evaluate (h : evaluate f b = .error err) :
    isBlankText f = false ∧ ((∃ p ∈ b, err = .nonFiniteBinding p.1 p.2 ∧ p.2.isFinite = false) ∨
      (∃ e, err = .token e) ∨ (∃ e, err = .parse e) ∨
      ∃ cs ts, prepareText f.toList b = .ok cs ∧ Lexes cs ts ∧ Apart ts ∧ Fails ts err) := by
  cases blank : isBlankText f with
  | true =>
    rw [evaluate, if_pos blank] at h
    cases h
  | false =>
    refine ⟨rfl, ?_⟩
    cases prepared : prepareText f.toList b with
    | error e =>
      have failed : evaluate f b = .error e := by
        rw [evaluate, blank, prepare, prepared]
        rfl
      obtain rfl := Except.error.inj (h.symm.trans failed)
      obtain ⟨p, hp, failure⟩ := foldlM_replaceName_error prepared
      exact .inl ⟨p, b.inOrder_perm.mem_iff.1 hp, failure⟩
    | ok cs =>
      rw [evaluate_eq blank prepared] at h
      obtain h | ⟨ts, lexed, h⟩ := error_of_bind h
      · obtain ⟨e, -, eq⟩ := error_of_mapError h
        exact .inr (.inl ⟨e, eq⟩)
      obtain h | ⟨e, parsed, h⟩ := error_of_bind h
      · obtain ⟨e, -, eq⟩ := error_of_mapError h
        exact .inr (.inr (.inl ⟨e, eq⟩))
      · obtain ⟨d, ⟨n, expr⟩, -⟩ := parse_eq_ok_iff.1 (ok_of_mapError parsed)
        exact .inr
          (.inr
            (.inr ⟨cs, ts, rfl, lexes_of_tokensFrom (ok_of_mapError lexed), expr.apart,
              expr.fails h⟩))

/-- The names that a formula may refer to, the reserved ones included, are those with values. -/
def Covers (b : Bindings) (names : List String) : Prop :=
  ∀ key, (∃ p ∈ b, lowercase p.1 = key) ↔ key ∈ knownNames names

theorem exists_name_of_mem_knownNames {names : List String} {key : String}
    (hnames : ∀ k ∈ names, IsName k.toList)
    (h : key ∈ knownNames names) : ∃ k : String, IsName k.toList ∧ lowercase k = key := by
  obtain ⟨k, hk, rfl⟩ := List.mem_map.1 h
  refine ⟨k, ?_, rfl⟩
  obtain hk | hk := List.mem_append.1 hk
  · exact hnames k hk
  · have reserved : ∀ k ∈ reservedNames, IsName k.toList := by decide
    exact reserved k hk

theorem Covers.isLabel {names : List String} (h : Covers b names)
    (hnames : ∀ k ∈ names, IsName k.toList) :
    ∀ p ∈ b, IsLabel p.1.toList := by
  intro p hp
  obtain ⟨k, hk, same⟩ := exists_name_of_mem_knownNames hnames ((h _).1 ⟨p, hp, rfl⟩)
  exact hk.isLabel.of_spells (spells_of_lowercase hk same.symm)

theorem mem_words_of_prepared {n : String} (finite : ∀ p ∈ b, p.2.isFinite = true)
    (hn : IsName n.toList) (left : n.toList ∈ words (mapWords (literalIn b) cs)) :
    n.toList ∈ words cs ∧ ∀ p ∈ b, spells p.1.toList n.toList = false := by
  rw [words_mapWords] at left
  obtain ⟨w, hw, left⟩ := List.mem_flatMap.1 left
  rw [literalIn] at left
  split at left
  · rename_i name x found
    obtain ⟨c, hc, other⟩ := hn.isLabel.other
    have digit :=
      isDigit_of_mem_literal (finite _ (List.mem_of_find?_eq_some found)) (mem_of_mem_words left hc)
      ((isWord_of_mem_words left).2 c hc)
    exact Bool.noConfusion (digit.symm.trans other)
  · rename_i none
    rw [words_of_isWord (isWord_of_mem_words hw), List.mem_singleton] at left
    rw [left]
    exact ⟨hw, fun p hp => Bool.eq_false_iff.2 (List.find?_eq_none.1 none p hp)⟩

theorem Covers.error_cases {names : List String} (covers : Covers b names)
    (hnames : ∀ k ∈ names, IsName k.toList) (finite : ∀ p ∈ b, p.2.isFinite = true)
    (known : ∀ n ∈ referencedNames f, lowercase n ∈ knownNames names)
    (h : evaluate f b = .error err) :
    (∃ e, err = .token e) ∨ (∃ e, err = .parse e) ∨ err = .divisionByZero := by
  have ordered : ∀ p ∈ b.inOrder, p.2.isFinite = true :=
    fun p hp => finite p (b.inOrder_perm.mem_iff.1 hp)
  obtain ⟨-, ⟨p, hp, -, infinite⟩ | token | parse | ⟨cs, ts, prepared, lexes, apart, fails⟩⟩ :=
    error_of_evaluate h
  · exact Bool.noConfusion (infinite.symm.trans (finite p hp))
  · exact .inl token
  · exact .inr (.inl parse)
  cases fails with
  | division => exact .inr (.inr rfl)
  | @unresolved n mem free =>
    have text : prepareText f.toList b = .ok (mapWords (literalIn b.inOrder) f.toList) :=
      Bindings.prepareText_eq (covers.isLabel hnames) fun w _ p hp =>
        ordered p (List.mem_of_find?_eq_some hp)
    obtain rfl : cs = _ := Except.ok.inj (prepared.symm.trans text)
    obtain ⟨name, word⟩ := lexes.mem_words apart mem
    obtain ⟨stands, unbound⟩ := mem_words_of_prepared ordered name word
    have found : n ∈ scanNames f := by
      rw [← String.ofList_toList (s := n)]
      exact mem_namesIn name stands
    have referenced : n ∈ referencedNames f := List.mem_filter.2 ⟨found, by rw [free]; rfl⟩
    obtain ⟨p, hp, same⟩ := (covers _).2 (known n referenced)
    have fits := unbound p (b.inOrder_perm.mem_iff.2 hp)
    rw [spells_comm, spells_of_lowercase name same] at fits
    cases fits

theorem evaluate_error_of_validate {names : List String}
    (h : validate f names (some b) = .invalid (.evaluation err)) :
    (∀ n ∈ referencedNames f, lowercase n ∈ knownNames names) ∧ evaluate f b = .error err := by
  rw [validate] at h
  split at h
  · cases h
  split at h
  · rename_i issue static
    cases h
    rw [staticIssue?] at static
    split at static
    · cases static
    · split at static
      · cases static
      · split at static <;> cases static
  · rename_i static
    split at h
    · cases h
    · rename_i failed
      cases h
      refine ⟨unknownVariables_eq_nil_iff.1 (Decidable.byContradiction fun unknown => ?_), failed⟩
      rw [staticIssue?, if_pos unknown] at static
      cases static

/--
No evaluation misses an argument or finds its result not finite. Where the names that a formula may
use are those with finite values, a trial evaluation moreover fails only in reading the prepared
text or by a division by zero.
-/
theorem evaluation_failures (f : String) (b : Bindings) :
    (∀ function, evaluate f b ≠ .error (.missingArguments function)) ∧
      (∀ x, evaluate f b ≠ .error (.nonFiniteResult x)) ∧
      ∀ names, (∀ k ∈ names, IsName k.toList) → Covers b names → (∀ p ∈ b, p.2.isFinite = true) →
        ∀ err, validate f names (some b) = .invalid (.evaluation err) →
          (∃ e, err = .token e) ∨ (∃ e, err = .parse e) ∨ err = .divisionByZero := by
  refine ⟨fun function h => ?_, fun x h => ?_, ?_⟩
  · obtain ⟨-, ⟨_, -, ⟨⟩, -⟩ | ⟨_, ⟨⟩⟩ | ⟨_, ⟨⟩⟩ | ⟨_, _, -, -, -, ⟨⟩⟩⟩ := error_of_evaluate h
  · obtain ⟨-, ⟨_, -, ⟨⟩, -⟩ | ⟨_, ⟨⟩⟩ | ⟨_, ⟨⟩⟩ | ⟨_, _, -, -, -, ⟨⟩⟩⟩ := error_of_evaluate h
  · intro names hnames covers finite err h
    obtain ⟨known, failed⟩ := evaluate_error_of_validate h
    exact covers.error_cases hnames finite known failed

theorem evaluation_failures_accented :
    validate "éLevel" [] (some [("BaseValue", 0), ("LEVEL", 1)]) =
      .invalid (.evaluation (.token (.unexpectedChar 'é' 0))) ∧
      ((∃ e, EvalError.token (.unexpectedChar 'é' 0) = .token e) ∨
        (∃ e, EvalError.token (.unexpectedChar 'é' 0) = .parse e) ∨
          EvalError.token (.unexpectedChar 'é' 0) = .divisionByZero) := by
  have unknown : unknownVariables "éLevel" (knownNames []) = [] := by decide +kernel
  have inOrder : Bindings.inOrder [("BaseValue", 0), ("LEVEL", 1)] =
      [("BaseValue", 0), ("LEVEL", 1)] := by
    refine List.mergeSort_of_pairwise ?_
    simp only [List.pairwise_cons]
    decide
  have prepared : prepareText "éLevel".toList [("BaseValue", 0), ("LEVEL", 1)] =
      .ok "éLevel".toList := by
    have base : replaceName "éLevel".toList ("BaseValue", 0) = .ok "éLevel".toList :=
      replaceName_absent (by decide +kernel)
    have level : replaceName "éLevel".toList ("LEVEL", 1) = .ok "éLevel".toList :=
      replaceName_absent (by decide +kernel)
    rw [prepareText, inOrder, List.foldlM_cons, base]
    change (replaceName "éLevel".toList ("LEVEL", 1) >>= fun cs => .ok cs) = _
    rw [level]
    rfl
  have lexed : tokensFrom 0 "éLevel".toList = .error (.unexpectedChar 'é' 0) := by
    rw [show "éLevel".toList = 'é' :: "Level".toList from rfl, tokensFrom]
    rfl
  have failed : validate "éLevel" [] (some [("BaseValue", 0), ("LEVEL", 1)]) =
      .invalid (.evaluation (.token (.unexpectedChar 'é' 0))) := by
    have evaluated : evaluate "éLevel" [("BaseValue", 0), ("LEVEL", 1)] = _ :=
      evaluate_eq (by decide) prepared
    have passes : staticIssue? "éLevel" (knownNames []) = none := by
      rw [staticIssue?, unknown]
      rfl
    rw [validate, if_neg (by decide), passes]
    dsimp only
    rw [evaluated, lexed]
    rfl
  have covers : Covers [("BaseValue", 0), ("LEVEL", 1)] [] := fun key => by
    have base : lowercase "BaseValue" = "basevalue" := by decide +kernel
    have level : lowercase "LEVEL" = "level" := by decide +kernel
    have known : knownNames [] = ["level", "basevalue"] := by decide +kernel
    simp [base, level, known, or_comm, eq_comm]
  refine ⟨failed, (evaluation_failures _ _).2.2 [] (by simp) covers ?_ _ failed⟩
  simp only [List.forall_mem_cons]
  exact ⟨by decide +kernel, by decide +kernel, by simp⟩

end GameBalance.Formula
