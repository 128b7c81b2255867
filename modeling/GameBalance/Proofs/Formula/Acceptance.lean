import GameBalance.Proofs.Formula.Absence
import GameBalance.Proofs.Formula.Adjacency
import GameBalance.Proofs.Formula.Checks

namespace GameBalance.Formula

open Text Grammar

variable {w rest cs : List Char} {ts : List Token} {f n : String} {names : List String}

theorem mem_knownNames : lowercase n ∈ knownNames names ↔
    lowercase n ∈ reservedNames.map lowercase ∨ ∃ k ∈ names, lowercase k = lowercase n := by
  rw [knownNames, List.map_append, List.mem_append, or_comm, List.mem_map (l := names)]

theorem staticIssue?_eq_none_iff {known : List String} : staticIssue? f known = none ↔
    unknownVariables f known = [] ∧ imbalance? f = none ∧ operatorsClash f = false := by
  rw [staticIssue?]
  by_cases unknown : unknownVariables f known = []
  · cases imbalance? f with
    | none => simp [unknown]
    | some imbalance => simp [unknown]
  · simp [unknown]

theorem validate_of_staticIssue? (h : staticIssue? f (knownNames names) = none) :
    validate f names none = .valid none := by
  rw [validate.eq_def, h]
  exact ite_self _

theorem beside_of_signs
    (signs : ∀ before op after, ts ≠ before ++ .operator op :: .operator .plus :: after) :
    Beside (fun _ p => p ≠ .plus) ts := by
  refine List.isChain_iff_forall_rel_of_append_cons_cons.2
    fun {t u before after} eq o p op op' plus => ?_
  subst op op' plus
  exact signs before o after eq

/--
A formula with a tree passes every check without values,
if its variables are known and no `+` follows an operator.
-/
theorem validate_of_parse (f : String) (ts : List Token) (e : Expr) (names : List String)
    (lexed : tokenize f = .ok ts) (parsed : parse ts = .ok e)
    (signs : ∀ before op after, ts ≠ before ++ .operator op :: .operator .plus :: after)
    (known : ∀ n ∈ e.vars, lowercase n ∉ reservedNames.map lowercase →
      ∃ k ∈ names, lowercase k = lowercase n) :
    unknownVariables f (knownNames names) = [] ∧ imbalance? f = none ∧ operatorsClash f = false ∧
      validate f names none = .valid none := by
  have lexes := lexes_of_tokensFrom lexed
  obtain ⟨d, derives, -⟩ := parse_eq_ok_iff.1 parsed
  have unknown : unknownVariables f (knownNames names) = [] := by
    refine unknownVariables_eq_nil_iff.2 fun n hn => mem_knownNames.2 ?_
    exact or_iff_not_imp_left.2 (known n (vars_eq_referencedNames lexes derives ▸ hn))
  have balanced : imbalance? f = none := imbalance?_eq_none lexes derives rfl
  have clear : operatorsClash f = false := by
    obtain ⟨_, expr⟩ := derives
    have beside := lexes.besideIn expr.joined.beside
    refine operatorsClash_eq_false beside (lexes.last_solid expr.joined)
      fun before after eq binary => ?_
    -- what ends in an operator has it beside the `+`
    obtain rfl | ⟨before, c, rfl⟩ := before.eq_nil_or_concat'
    · exact not_endsBinary_nil binary
    · obtain ⟨o, op⟩ := Option.isSome_iff_exists.1 (endsBinary_concat.1 binary).1
      have free := lexes.besideIn (beside_of_signs signs)
      rw [BesideIn, eq, List.append_assoc, List.singleton_append,
        List.isChain_append_cons_cons] at free
      exact free.2.1 o .plus op rfl rfl
  exact ⟨unknown, balanced, clear,
    validate_of_staticIssue? (staticIssue?_eq_none_iff.2 ⟨unknown, balanced, clear⟩)⟩

theorem validate_of_parse_signed : unknownVariables "5. - -HP" (knownNames ["hp"]) = [] ∧
    imbalance? "5. - -HP" = none ∧ operatorsClash "5. - -HP" = false ∧
    validate "5. - -HP" ["hp"] none = .valid none := by
  have edge : Stops isNumeral [' ', '-', ' ', '-', 'H', 'P'] ∧ Stops isNamePart [] :=
    ⟨fun c hc => by cases hc; rfl, fun c hc => nomatch hc⟩
  have free : ¬∃ f, Denotes "HP" f := lookup?_eq_none_iff.1 (by decide)
  obtain ⟨x, value⟩ : ∃ x, Decimal.numeral? ['5', '.'] = some x :=
    Option.isSome_iff_exists.1 (by decide +kernel)
  have name : IsName ['H', 'P'] := by decide
  have lexed : Lexes (['5', '.'] ++ [' ', '-', ' ', '-', 'H', 'P'])
      [.number x, .operator .minus, .operator .minus, .identifier "HP"] :=
    .number (by simp) (List.all_eq_true.1 rfl) value edge.1
      (.blank rfl (.symbol rfl (.blank rfl (.symbol rfl (.name name edge.2 .nil)))))
  have sum : Expression 1 ([.number x] ++ .operator .minus :: [.operator .minus, .identifier "HP"])
      (.binary .sub (.number x) (.negate (.var "HP"))) 2 :=
    .link (.first (.first (.base (.primary .number)))) .minus
      (.first (.base (.minus (.primary (.var free)))))
  have parsed : parse [.number x, .operator .minus, .operator .minus, .identifier "HP"] =
      .ok (.binary .sub (.number x) (.negate (.var "HP"))) :=
    parse_eq_ok_iff.2 ⟨2, ⟨1, sum⟩, by decide⟩
  refine validate_of_parse _ _ _ _ (tokensFrom_of_lexes lexed 0) parsed ?_ ?_
  · intro before op after eq
    have plus : .operator .plus ∈ before ++ .operator op :: .operator .plus :: after := by simp
    rw [← eq] at plus
    simp at plus
  · intro n hn _
    obtain rfl : n = "HP" := by simpa [Expr.vars] using hn
    exact ⟨"hp", List.mem_cons_self, by decide⟩

/--
A formula whose scans can be trusted: no `+` follows an operator that is no sign, and words that are
names in any case are in ASCII.
-/
structure Conventional (f : String) (names : List String) : Prop where
  plus : ∀ before after, solid f.toList = before ++ '+' :: after → ¬EndsBinary before
  ascii : ∀ w ∈ words f.toList, ∀ name ∈ names, spells name.toList w = true → ∀ c ∈ w, c.toNat < 128

variable {l b : Bindings} {x : Float}

theorem foldlM_filter_finite (ok : l.foldlM replaceName cs = .ok w) :
    (l.filter (·.2.isFinite)).foldlM replaceName cs = .ok w := by
  induction l generalizing cs with
  | nil => exact ok
  | cons p l ih =>
    rw [List.foldlM_cons] at ok
    obtain ⟨cs', first, rest⟩ := ok_of_bind ok
    cases finite : p.2.isFinite with
    | true =>
      rw [List.filter_cons, if_pos finite, List.foldlM_cons, first]
      exact ih rest
    | false =>
      have same : cs = cs' := by
        rw [replaceName, finite] at first
        split at first
        · cases first
        · exact Except.ok.inj first
      rw [List.filter_cons, if_neg (Bool.eq_false_iff.1 finite)]
      exact ih (same ▸ rest)

theorem evaluate_filter_finite (distinct : (b.map Prod.fst).Nodup) (ok : evaluate f b = .ok x) :
    evaluate f (b.filter (·.2.isFinite)) = .ok x := by
  rw [evaluate_of_inOrder rfl] at ok
  rw [evaluate_of_inOrder (Bindings.inOrder_filter distinct _)]
  cases blank : isBlankText f with
  | true =>
    rw [blank] at ok
    exact ok
  | false =>
    rw [blank] at ok
    obtain ⟨text, prepared, value⟩ := ok_of_bind ok
    obtain ⟨cs, replaced, rfl⟩ := ok_of_map prepared
    rw [if_neg Bool.false_ne_true, foldlM_filter_finite replaced]
    exact value

theorem Bindings.Proper.nodup (proper : b.Proper) : (b.map Prod.fst).Nodup := by
  refine List.pairwise_map.2 (proper.distinct.imp fun {p q} other eq => ?_)
  rw [eq] at other
  exact Bool.eq_false_iff.1 other (decide_eq_true rfl)

theorem Bindings.Proper.filter (proper : b.Proper) (q : String × Float → Bool) :
    Bindings.Proper (b.filter q) where
  names p hp := proper.names p (List.mem_filter.1 hp).1
  noBuiltin p hp := proper.noBuiltin p (List.mem_filter.1 hp).1
  distinct := proper.distinct.filter q

theorem letters_of_evaluate (proper : b.Proper) (finite : ∀ p ∈ b, p.2.isFinite = true)
    (notBlank : isBlankText f = false) (ok : evaluate f b = .ok x)
    (ascii : ∀ w ∈ words f.toList, ∀ p ∈ b, spells p.1.toList w = true → ∀ c ∈ w, c.toNat < 128) :
    ∀ w ∈ words f.toList, ∀ c ∈ w, isNamePart c = true := by
  intro w hw
  obtain ⟨ts, e, d, lexes, ⟨k, expr⟩, -⟩ := eval_of_evaluate proper.names finite notBlank ok
  by_cases bound : ∃ p ∈ b, spells p.1.toList w = true
  · obtain ⟨p, hp, same⟩ := bound
    exact isNamePart_of_mem_words (ascii w hw p hp same) hw
  · have kept : literalIn b.inOrder w = w :=
      literalIn_eq_self fun p hp => Bool.eq_false_iff.2 fun same =>
      bound ⟨p, b.inOrder_perm.mem_iff.1 hp, same⟩
    obtain digits | ⟨name, -⟩ := lexes.words expr.apart (mem_words_mapWords hw kept)
    · exact fun c hc => isNamePart_of_isDigit (digits c hc)
    · exact name.isNamePart

theorem operatorsClash_of_evaluate (names : ∀ p ∈ b, IsName p.1.toList)
    (finite : ∀ p ∈ b, p.2.isFinite = true)
    (notBlank : isBlankText f = false) (ok : evaluate f b = .ok x)
    (plus : ∀ before after, solid f.toList = before ++ '+' :: after → ¬EndsBinary before) :
    operatorsClash f = false := by
  obtain ⟨ts, e, d, lexes, ⟨k, expr⟩, -⟩ := eval_of_evaluate names finite notBlank ok
  refine operatorsClash_eq_false (BesideIn.of_mapWords (lexes.besideIn expr.joined.beside))
    (fun c hc => ?_) plus
  rw [Bool.eq_false_iff]
  intro operator
  obtain ⟨o, op⟩ := Option.isSome_iff_exists.1 operator
  exact Bool.eq_false_iff.1 (lexes.last_solid expr.joined c (last_solid_mapWords hc op)) operator

theorem staticIssue?_eq_none_of_evaluate (conventional : Conventional f names) (proper : b.Proper)
    (known : ∀ p ∈ b, p.1 ∈ names) (notBlank : isBlankText f = false) (ok : evaluate f b = .ok x) :
    staticIssue? f (knownNames names) = none := by
  have proper' := proper.filter (·.2.isFinite)
  have known' : ∀ p ∈ b.filter (·.2.isFinite), p.1 ∈ names :=
    fun p hp => known p (List.mem_filter.1 hp).1
  have finite : ∀ p ∈ b.filter (·.2.isFinite), p.2.isFinite = true :=
    fun p hp => (List.mem_filter.1 hp).2
  have ok' := evaluate_filter_finite proper.nodup ok
  have letters := letters_of_evaluate proper' finite notBlank ok' fun w hw p hp =>
      conventional.ascii w hw p.1 (known' p hp)
  refine staticIssue?_eq_none_iff.2 ⟨?_, imbalance?_of_evaluate proper'.names finite notBlank ok',
    operatorsClash_of_evaluate proper'.names finite notBlank ok' conventional.plus⟩
  refine unknownVariables_eq_nil_iff.2 fun n hn => mem_knownNames.2 (.inr ?_)
  obtain ⟨y, value⟩ :=
    Option.isSome_iff_exists.1 (isSome_of_letters letters proper' finite notBlank ok' hn)
  obtain ⟨p, found, -⟩ := Option.map_eq_some_iff.1 value
  have mem := List.mem_of_find?_eq_some found
  have same := List.find?_some found
  have name := isName_of_mem_namesIn (List.mem_filter.1 hn).1
  exact ⟨p.1, known' p mem, (sameIgnoringCase_iff (proper'.names p mem).ascii name.ascii).1 same⟩

end GameBalance.Formula
