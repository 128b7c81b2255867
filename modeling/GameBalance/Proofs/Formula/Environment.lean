import GameBalance.Proofs.Formula.Mentions

namespace GameBalance.Formula

open Text Grammar

theorem lexes_of_isBlank (h : ∀ c ∈ cs, isBlank c = true) : Lexes cs [] := by
  induction cs with
  | nil => exact .nil
  | cons c cs ih =>
    exact .blank (h c List.mem_cons_self) (ih fun d hd => h d (List.mem_cons_of_mem c hd))

theorem evaluate_eq_parse {f : String} {b : Bindings} (proper : b.Proper)
    (lexes : Lexes f.toList ts) (expr : Expression n ts e d)
    (finite : ∀ n ∈ e.vars, ∀ x, b.value? n = some x → x.isFinite = true) :
    evaluate f b = (parse (ts.flatMap (Token.image b.value?))).mapError .parse >>= Expr.eval := by
  have notBlank : isBlankText f = false := by
    rw [Bool.eq_false_iff]
    intro blank
    exact expr.ne_nil (lexes.unique (lexes_of_isBlank (List.all_eq_true.1 blank)))
  have operands : ∀ w, .identifier w ∈ ts → ∀ x, b.value? w = some x → x.isFinite = true := by
    intro w hw x value
    obtain var | builtin := expr.mentions.mem_vars hw
    · exact finite w var x value
    · obtain ⟨f, function⟩ := Option.isSome_iff_exists.1 builtin
      rw [Bindings.callsFree proper.noBuiltin w f function] at value
      cases value
  have ordered : ∀ p ∈ b.inOrder, IsName p.1.toList :=
    fun p hp => proper.names p (b.inOrder_perm.mem_iff.1 hp)
  have same : b.inOrder.value? = b.value? := proper.value?_perm b.inOrder_perm
  -- values are replaced in words, and a word that is spelled
  -- like a name is a whole identifier of the formula
  have needed : ∀ w ∈ words f.toList, ∀ p ∈ b.inOrder.find? (spells ·.1.toList w),
      p.2.isFinite = true := by
    intro w hw p hp
    have mem := List.mem_of_find?_eq_some hp
    have fits := List.find?_some hp
    obtain digits | ⟨name, occurs⟩ := lexes.words expr.apart hw
    · obtain ⟨c, w, rfl⟩ := List.exists_cons_of_ne_nil (isWord_of_mem_words hw).1
      rw [spells_digit (ordered p mem) (digits c List.mem_cons_self)] at fits
      cases fits
    · refine operands _ occurs p.2 ?_
      rw [← same, Bindings.value?, ← Bindings.find?_spells ordered name, hp]
      rfl
  have replaced := lexes.mapWords expr.apart (same ▸ Bindings.writes ordered) operands
  rw [evaluate_eq notBlank (Bindings.prepareText_eq proper.labels needed),
    tokensFrom_of_lexes replaced]
  rfl

/--
Evaluating the text of a formula is evaluating its tree where names have their values. What replaces
a name with a minus sign may nest the text too deeply, and nothing else can make a difference.
-/
theorem evaluate_eq_evalIn (f : String) (b : Bindings) (ts : List Token) (e : Expr)
    (proper : b.Proper) (lexed : tokenize f = .ok ts) (parsed : parse ts = .ok e)
    (finite : ∀ n ∈ e.vars, ∀ x, b.value? n = some x → x.isFinite = true) :
    evaluate f b = e.evalIn b.value? ∨
      (∃ p, evaluate f b = .error (.parse (.tooDeep p))) ∧
        ∃ n ∈ e.vars, ∃ x, b.value? n = some x ∧ Double.isNegative x = true := by
  obtain ⟨d, ⟨n, expr⟩, le⟩ := parse_eq_ok_iff.1 parsed
  rw [evaluate_eq_parse proper (lexes_of_tokensFrom lexed) expr finite]
  obtain ⟨d', expr', -, depth⟩ := expr.subst (Bindings.callsFree proper.noBuiltin)
  have reaches := Derives.parse_reaches ⟨n, expr'⟩
  by_cases allowed : d' ≤ maxDepth
  · left
    rw [reaches.1 allowed]
    exact Expr.eval_subst e finite
  · right
    obtain ⟨p, deep⟩ := reaches.2 (Nat.lt_of_not_le allowed)
    refine ⟨⟨p, by rw [deep]; rfl⟩, ?_⟩
    -- without a minus sign the changed tokens would be nested no deeper than the formula
    refine Decidable.byContradiction fun none => allowed ?_
    have unsigned : Expr.Unsigned b.value? e.vars := fun n hn x value =>
      Bool.eq_false_iff.2 fun negative => none ⟨n, hn, x, value, negative⟩
    rw [depth unsigned]
    exact le

theorem evaluate_eq_evalIn_negative :
    evaluate "x ^ x" [("X", -3), ("unused", 0 / 0)] =
        Expr.evalIn (Bindings.value? [("X", -3), ("unused", 0 / 0)])
          (.binary .pow (.var "x") (.var "x")) ∨
      (∃ p, evaluate "x ^ x" [("X", -3), ("unused", 0 / 0)] = .error (.parse (.tooDeep p))) ∧
        ∃ n ∈ Expr.vars (.binary .pow (.var "x") (.var "x")), ∃ x,
          Bindings.value? [("X", -3), ("unused", 0 / 0)] n = some x ∧
          Double.isNegative x = true := by
  have proper : Bindings.Proper [("X", -3), ("unused", 0 / 0)] := by
    constructor
    · simp only [List.forall_mem_cons]
      exact ⟨by decide, by decide, by simp⟩
    · simp only [List.forall_mem_cons]
      exact ⟨by decide, by decide, by simp⟩
    · simp only [List.pairwise_cons]
      decide
  have name : IsName ['x'] := by decide
  have edge : Stops isNamePart [' ', '^', ' ', 'x'] ∧ Stops isNamePart [] :=
    ⟨fun c hc => by cases hc; rfl, fun c hc => nomatch hc⟩
  have lexed :
      Lexes ['x', ' ', '^', ' ', 'x'] [.identifier "x", .operator .caret, .identifier "x"] :=
    .name name edge.1 (.blank rfl (.symbol rfl (.blank rfl (.name name edge.2 .nil))))
  have free : ¬∃ f, Denotes "x" f := lookup?_eq_none_iff.1 (by decide)
  have parsed : parse [.identifier "x", .operator .caret, .identifier "x"] =
      .ok (.binary .pow (.var "x") (.var "x")) :=
    parse_eq_ok_iff.2 ⟨1, ⟨0, .first (.first (.raised (.primary (.var free))
      (.base (.primary (.var free)))))⟩, by decide⟩
  refine evaluate_eq_evalIn _ _ _ _ proper (tokensFrom_of_lexes lexed 0) parsed
    fun n hn x value => ?_
  have var : n = "x" := by simpa [Expr.vars] using hn
  subst var
  cases value
  decide +kernel

end GameBalance.Formula
