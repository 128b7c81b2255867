import GameBalance.Proofs.Formula.Adjacency
import GameBalance.Proofs.Formula.Checks
import GameBalance.Proofs.Formula.Lookahead

namespace GameBalance.Formula

open Text Grammar

section Characters

theorem toLower_cases (c : Char) : c.toLower.toLower = c.toLower ∧
    (c.toLower = c ∨ isNameStart c = true ∧ isNameStart c.toLower = true) := by
  by_cases ascii : c.toNat < 128
  · refine ascii_cases (p := fun c => c.toLower.toLower = c.toLower ∧
      (c.toLower = c ∨ isNameStart c = true ∧ isNameStart c.toLower = true)) ?_ c ascii
    decide +kernel
  · have same : c.toLower = c := by
      refine dif_neg fun upper => ascii ?_
      have last : c.toNat ≤ 90 := UInt32.le_iff_toNat_le.1 upper.2
      omega
    exact ⟨by rw [same, same], .inl same⟩

theorem toLower_invariant {g : Char → α} {a : α} (letters : ∀ c, isNameStart c = true → g c = a)
    (c : Char) :
    g c.toLower = g c := by
  obtain same | ⟨start, start'⟩ := (toLower_cases c).2
  · rw [same]
  · rw [letters c start, letters _ start']

theorem fold_toLower (c : Char) : fold c.toLower = fold c := by
  obtain ⟨lower, same | ⟨start, start'⟩⟩ := toLower_cases c
  · rw [same]
  · have ascii {c : Char} (h : isNameStart c = true) : fold c = c.toLower :=
      fold_ascii (toNat_lt_of_isNamePart (isNamePart_of_isNameStart h))
    rw [ascii start, ascii start', lower]

theorem isWord_toLower (c : Char) : isWord c.toLower = isWord c := by
  rw [← isWord_fold, fold_toLower, isWord_fold]

theorem isBlank_toLower : ∀ c : Char, isBlank c.toLower = isBlank c :=
  toLower_invariant fun _ start => (class_of_isNameStart start).1

theorem symbol?_toLower : ∀ c : Char, symbol? c.toLower = symbol? c :=
  toLower_invariant fun _ start => (class_of_isNameStart start).2.1

theorem isNumeral_toLower : ∀ c : Char, isNumeral c.toLower = isNumeral c :=
  toLower_invariant fun _ start => (class_of_isNameStart start).2.2

theorem startsName_toLower : ∀ c : Char, isNameStart c.toLower = isNameStart c :=
  toLower_invariant fun _ start => start

theorem inName_toLower : ∀ c : Char, isNamePart c.toLower = isNamePart c :=
  toLower_invariant fun _ start => isNamePart_of_isNameStart start

theorem ofChar?_toLower : ∀ c : Char, Operator.ofChar? c.toLower = Operator.ofChar? c :=
  toLower_invariant fun _ start =>
    ofChar?_of_isWord (isWord_of_isNamePart (isNamePart_of_isNameStart start))

theorem eq_toLower {d : Char} (other : isNameStart d = false) (c : Char) :
    c.toLower = d ↔ c = d := by
  obtain same | ⟨start, start'⟩ := (toLower_cases c).2
  · rw [same]
  · have ne {c : Char} (start : isNameStart c = true) : c ≠ d := by
      rintro rfl
      exact Bool.noConfusion (start.symm.trans other)
    exact iff_of_false (ne start') (ne start)

theorem toLower_of_other (other : isNameStart c = false) : c.toLower = c :=
  (eq_toLower other c).2 rfl

theorem toLower_of_isNumeral (h : isNumeral c = true) : c.toLower = c := by
  refine toLower_of_other ?_
  rw [← Bool.not_eq_true]
  exact fun start => Bool.noConfusion ((class_of_isNameStart start).2.2.symm.trans h)

theorem takeWhile_toLower {p : Char → Bool} (h : ∀ c : Char, p c.toLower = p c) (cs : List Char) :
    (cs.map Char.toLower).takeWhile p = (cs.takeWhile p).map Char.toLower := by
  rw [List.takeWhile_map, show p ∘ Char.toLower = p from funext h]

theorem dropWhile_toLower {p : Char → Bool} (h : ∀ c : Char, p c.toLower = p c) (cs : List Char) :
    (cs.map Char.toLower).dropWhile p = (cs.dropWhile p).map Char.toLower := by
  rw [List.dropWhile_map, show p ∘ Char.toLower = p from funext h]

end Characters

section Replacing

variable {name literal : List Char}

theorem beginsWith_toLower (name cs : List Char) :
    beginsWith name (cs.map Char.toLower) = beginsWith name cs := by
  induction name generalizing cs with
  | nil => rfl
  | cons n ns ih =>
    cases cs with
    | nil => rfl
    | cons c cs => rw [List.map_cons, beginsWith, beginsWith, fold_toLower, ih]

theorem wordAt_toLower (before : Option Char) :
    wordAt (before.map Char.toLower) = wordAt before := by
  cases before with
  | none => rfl
  | some c => exact isWord_toLower c

theorem standsAt_toLower (name : List Char) (before : Option Char) (cs : List Char) :
    standsAt name (before.map Char.toLower) (cs.map Char.toLower) = standsAt name before cs := by
  have last : ((cs.map Char.toLower).take name.length).getLast?.or (before.map Char.toLower) =
      ((cs.take name.length).getLast?.or before).map Char.toLower := by
    rw [← List.map_take, List.getLast?_map, Option.map_or]
  simp only [standsAt, beginsWith_toLower, isBoundary, last, ← List.map_drop, List.head?_map,
    wordAt_toLower]

theorem occursFrom_toLower (name : List Char) (before : Option Char) (cs : List Char) :
    occursFrom name (before.map Char.toLower) (cs.map Char.toLower) =
      occursFrom name before cs := by
  induction cs generalizing before with
  | nil => exact standsAt_toLower name before []
  | cons c cs ih =>
    have stands := standsAt_toLower name before (c :: cs)
    have others := ih (some c)
    rw [List.map_cons] at stands ⊢
    rw [occursFrom, occursFrom, stands, ← others, Option.map_some]

theorem replaceFrom_toLower (lower : literal.map Char.toLower = literal) (name : List Char)
    (skip : Nat) (before : Option Char) (cs : List Char) :
    replaceFrom name literal skip (before.map Char.toLower) (cs.map Char.toLower) =
      (replaceFrom name literal skip before cs).map Char.toLower := by
  induction cs generalizing skip before with
  | nil =>
    have stands := standsAt_toLower name before []
    rw [List.map_nil] at stands ⊢
    rw [replaceFrom, replaceFrom, stands]
    split
    · exact lower.symm
    · rfl
  | cons c cs ih =>
    have stands := standsAt_toLower name before (c :: cs)
    have others := fun k => ih k (some c)
    simp only [Option.map_some] at others
    rw [List.map_cons] at stands ⊢
    cases skip with
    | succ skip => rw [replaceFrom, replaceFrom, others]
    | zero =>
      rw [replaceFrom, replaceFrom, stands]
      split
      · split
        · rw [others, List.map_append, List.map_cons, lower]
        · rw [others, List.map_append, lower]
      · rw [others, List.map_cons]

theorem plain_toLower {x : Float} (finite : x.isFinite = true) :
    (Decimal.plain x).map Char.toLower = Decimal.plain x := by
  refine (List.map_congr_left fun c hc => ?_).trans (List.map_id _)
  obtain rfl | numeral := minus_or_isNumeral finite hc
  · rfl
  · exact toLower_of_isNumeral numeral

theorem replaceName_toLower (p : String × Float) (cs : List Char) :
    replaceName (cs.map Char.toLower) p = (replaceName cs p).map (List.map Char.toLower) := by
  have occurs := occursFrom_toLower p.1.toList none cs
  rw [Option.map_none] at occurs
  rw [replaceName, replaceName, occurs]
  split
  · split
    · rename_i finite
      have replaced := replaceFrom_toLower (plain_toLower finite) p.1.toList 0 none cs
      rw [Option.map_none] at replaced
      rw [replaced]
      rfl
    · rfl
  · rfl

theorem prepareText_toLower (b : Bindings) (cs : List Char) :
    prepareText (cs.map Char.toLower) b = (prepareText cs b).map (List.map Char.toLower) := by
  rw [prepareText, prepareText]
  induction b.inOrder generalizing cs with
  | nil => rfl
  | cons p b ih =>
    rw [List.foldlM_cons, List.foldlM_cons, replaceName_toLower]
    cases replaceName cs p with
    | error e => rfl
    | ok cs => exact ih cs

end Replacing

section Reading

theorem lowerAscii_ofList (cs : List Char) :
    lowerAscii (.ofList cs) = .ofList (cs.map Char.toLower) := by
  rw [lowerAscii, String.toList_ofList]

theorem lowerAscii_lowerAscii (s : String) : lowerAscii (lowerAscii s) = lowerAscii s := by
  simp [lowerAscii, Function.comp_def, (toLower_cases _).1]

theorem lookup?_lowerAscii (name : String) :
    Builtin.lookup? (lowerAscii name) = Builtin.lookup? name :=
  lookup?_of_same (decide_eq_true (lowerAscii_lowerAscii name))

theorem rename_symbol {ρ : String → String} (h : symbol? c = some t) : t.rename ρ = t := by
  unfold symbol? at h
  split at h
  · cases h
    rfl
  · cases h
    rfl
  · cases h
    rfl
  · obtain ⟨op, -, rfl⟩ := Option.map_eq_some_iff.1 h
    rfl

theorem tokensFrom_toLower (p : Nat) (cs : List Char) : tokensFrom p (cs.map Char.toLower) =
    (tokensFrom p cs).map (List.map (Token.rename lowerAscii)) := by
  have cons (t : Token) (r : Except TokenError (List Token)) :
      (r.map (List.map (Token.rename lowerAscii))).map (t.rename lowerAscii :: ·) =
        (r.map (t :: ·)).map (List.map (Token.rename lowerAscii)) := by
    cases r <;> rfl
  have numerals (cs : List Char) : (cs.map Char.toLower).takeWhile isNumeral =
      cs.takeWhile isNumeral := by
    rw [takeWhile_toLower isNumeral_toLower]
    have all := List.all_eq_true.1 (List.all_takeWhile (l := cs) (p := isNumeral))
    exact (List.map_congr_left fun c hc => toLower_of_isNumeral (all c hc)).trans (List.map_id _)
  fun_induction tokensFrom p cs with
  | case1 p => rw [List.map_nil, tokensFrom]; rfl
  | case2 p c cs blank ih =>
    rw [List.map_cons, tokensFrom.eq_def]
    simp only [isBlank_toLower, blank, if_true, ih]
  | case3 p c cs blank t symbol ih =>
    rw [List.map_cons, tokensFrom.eq_def]
    simp only [isBlank_toLower, blank, symbol?_toLower, symbol, ih, if_false, Bool.false_eq_true]
    rw [← cons, rename_symbol symbol]
  | case4 p c cs blank symbol numeral run x hx ih =>
    have value : Decimal.numeral? (c :: cs.takeWhile isNumeral) = some x := hx
    rw [List.map_cons, toLower_of_isNumeral numeral, tokensFrom.eq_def]
    simp only [blank, symbol, numeral, if_true, if_false, Bool.false_eq_true, numerals, value,
      dropWhile_toLower isNumeral_toLower]
    exact (congrArg (Except.map _) ih).trans (cons (.number x) _)
  | case5 p c cs blank symbol numeral run hx =>
    have value : Decimal.numeral? (c :: cs.takeWhile isNumeral) = none := hx
    rw [List.map_cons, toLower_of_isNumeral numeral, tokensFrom.eq_def]
    simp only [blank, symbol, numeral, if_true, if_false, Bool.false_eq_true, numerals, value]
    rfl
  | case6 p c cs blank symbol numeral start run ih =>
    rw [List.map_cons, tokensFrom.eq_def]
    simp only [isBlank_toLower, blank, symbol?_toLower, symbol, isNumeral_toLower, numeral,
      startsName_toLower, start, if_true, if_false, Bool.false_eq_true,
      takeWhile_toLower inName_toLower, dropWhile_toLower inName_toLower, ← List.map_cons,
      List.length_map]
    rw [ih, ← lowerAscii_ofList]
    exact cons (.identifier (.ofList run)) _
  | case7 p c cs blank symbol numeral start =>
    rw [List.map_cons, toLower_of_other (Bool.eq_false_iff.2 start), tokensFrom.eq_def]
    simp only [blank, symbol, numeral, start, if_false, Bool.false_eq_true]
    rfl

theorem tokenize_lowerAscii (f : String) :
    tokenize (lowerAscii f) = (tokenize f).map (List.map (Token.rename lowerAscii)) := by
  rw [tokenize, lowerAscii, String.toList_ofList, tokensFrom_toLower, tokenize]

theorem prepare_lowerAscii (f : String) (b : Bindings) :
    prepare (lowerAscii f) b = (prepare f b).map lowerAscii := by
  rw [prepare, lowerAscii, String.toList_ofList, prepareText_toLower, prepare]
  cases prepareText f.toList b with
  | error e => rfl
  | ok cs => exact congrArg Except.ok (lowerAscii_ofList cs).symm

theorem isBlankText_lowerAscii (f : String) : isBlankText (lowerAscii f) = isBlankText f := by
  have blank : isBlank ∘ Char.toLower = isBlank := funext isBlank_toLower
  rw [isBlankText, lowerAscii, String.toList_ofList, List.all_map, blank, isBlankText]

theorem mapError_bind_congr {r r' : Except ε α} {h : α → γ} {g : ε → δ}
    (same : (r.map h).mapError g = (r'.map h).mapError g) {k k' : α → Except ε β}
    (step : ∀ a a', h a = h a' → (k a).mapError g = (k' a').mapError g) :
    (r >>= k).mapError g = (r' >>= k').mapError g := by
  cases r with
  | error e =>
    cases r' with
    | error e' => exact congrArg Except.error (Except.error.inj same)
    | ok a' => cases same
  | ok a =>
    cases r' with
    | error e' => cases same
    | ok a' => exact step a a' (Except.ok.inj same)

theorem map_mapError (r : Except ε α) (f : α → β) (g : ε → δ) :
    (r.mapError g).map f = (r.map f).mapError g := by
  cases r <;> rfl

theorem evaluateText_caseless {f f' : String} (same : lowerAscii f = lowerAscii f') :
    (evaluateText f).mapError (EvalError.rename lowerAscii) =
      (evaluateText f').mapError (EvalError.rename lowerAscii) := by
  have parse (r : Except ParseError Expr) :
      (r.mapError .parse).mapError (EvalError.rename lowerAscii) =
      (r.mapError (ParseError.rename lowerAscii)).mapError .parse := by
    cases r <;> rfl
  rw [evaluateText, evaluateText]
  refine mapError_bind_congr (h := List.map (Token.rename lowerAscii)) ?_ fun ts us tokens => ?_
  · rw [map_mapError, map_mapError, ← tokenize_lowerAscii, ← tokenize_lowerAscii, same]
  refine mapError_bind_congr (h := Expr.rename lowerAscii) ?_ fun e e' tree => ?_
  · rw [map_mapError, map_mapError, parse, parse, parse_rename lookup?_lowerAscii tokens]
  · rw [← Expr.eval_rename, tree, Expr.eval_rename]

theorem evaluate_caseless {f f' : String} (same : lowerAscii f = lowerAscii f') (b : Bindings) :
    (evaluate f b).mapError (EvalError.rename lowerAscii) =
      (evaluate f' b).mapError (EvalError.rename lowerAscii) := by
  rw [evaluate, evaluate, ← isBlankText_lowerAscii f, same, isBlankText_lowerAscii]
  split
  · rfl
  · refine mapError_bind_congr (h := lowerAscii) ?_ fun text text' => evaluateText_caseless
    rw [← prepare_lowerAscii, ← prepare_lowerAscii, same]

end Reading

section Checking

theorem namesIn_toLower (cs : List Char) :
    namesIn (cs.map Char.toLower) = (namesIn cs).map lowerAscii := by
  fun_induction namesIn cs with
  | case1 => rw [List.map_nil, namesIn, List.map_nil]
  | case2 c cs start ih =>
    rw [List.map_cons, namesIn_start ((startsName_toLower c).trans start),
      takeWhile_toLower inName_toLower, dropWhile_toLower inName_toLower, ih, ← List.map_cons,
      ← lowerAscii_ofList, List.map_cons]
  | case3 c cs start ih =>
    rw [List.map_cons, namesIn_other ((startsName_toLower c).trans (Bool.eq_false_iff.2 start)), ih]

theorem referencedNames_lowerAscii (f : String) :
    referencedNames (lowerAscii f) = (referencedNames f).map lowerAscii := by
  have own : (fun name => !Builtin.isName name) ∘ lowerAscii = fun name =>
      !Builtin.isName name := by
    funext name
    simp only [Function.comp_apply, Builtin.isName, lookup?_lowerAscii]
  rw [referencedNames, scanNames, lowerAscii, String.toList_ofList, namesIn_toLower,
    List.filter_map, own, referencedNames, scanNames]

theorem imbalanceAt_toLower (depth : Nat) (cs : List Char) :
    imbalanceAt depth (cs.map Char.toLower) = imbalanceAt depth cs := by
  fun_induction imbalanceAt depth cs <;>
    simp_all [imbalanceAt, eq_toLower (d := '(') rfl, eq_toLower (d := ')') rfl]

theorem operatorsClashFrom_toLower (afterOperator : Bool) (last : Option Char) (cs : List Char) :
    operatorsClashFrom afterOperator (last.map Char.toLower) (cs.map Char.toLower) =
      operatorsClashFrom afterOperator last cs := by
  have opens (last : Option Char) : opensOperand (last.map Char.toLower) = opensOperand last := by
    cases last with
    | none => rfl
    | some c => simp only [opensOperand, Option.map_some, eq_toLower (d := '(') rfl]
  have operator (c : Char) : isOperator c.toLower = isOperator c := by
    rw [isOperator, ofChar?_toLower, isOperator]
  induction cs generalizing afterOperator last with
  | nil => rfl
  | cons c cs ih =>
    have others := fun after => ih after (some c)
    simp only [Option.map_some] at others
    simp only [List.map_cons, operatorsClashFrom, eq_toLower (d := '-') rfl, opens,
      operator, others]

theorem operatorsClash_lowerAscii (f : String) :
    operatorsClash (lowerAscii f) = operatorsClash f := by
  have blank : (fun c => !isBlank c) ∘ Char.toLower = fun c => !isBlank c :=
    funext fun c => congrArg Bool.not (isBlank_toLower c)
  rw [operatorsClash, lowerAscii, String.toList_ofList, List.filter_map, blank]
  exact operatorsClashFrom_toLower false none _

/-- The same is wrong, with the same names but for their case. -/
def Issue.Alike : Issue → Issue → Prop
  | .unknownVariables names, .unknownVariables names' => ∀ n, n ∈ names.map lowerAscii ↔
      n ∈ names'.map lowerAscii
  | .unbalancedParens imbalance, .unbalancedParens imbalance' => imbalance = imbalance'
  | .invalidOperators, .invalidOperators => True
  | .evaluation e, .evaluation e' => e.rename lowerAscii = e'.rename lowerAscii
  | _, _ => False

structure Verdict.Alike (v v' : Verdict) : Prop where
  isValid : v.isValid = v'.isValid
  sample : v.sample? = v'.sample?
  issue : ∀ i i', v = .invalid i → v' = .invalid i' → i.Alike i'

theorem Verdict.Alike.valid (sample : Option Float) :
    Verdict.Alike (.valid sample) (.valid sample) where
  isValid := rfl
  sample := rfl
  issue := nofun

theorem Verdict.Alike.invalid {i i' : Issue} (h : i.Alike i') :
    Verdict.Alike (.invalid i) (.invalid i') where
  isValid := rfl
  sample := rfl
  issue j j' eq eq' := by
    cases eq
    cases eq'
    exact h

theorem mem_addSpelling {seen : List String} {name n : String} :
    n ∈ addSpelling seen name ↔ n ∈ seen ∨ n = name := by
  rw [addSpelling]
  split
  · rename_i found
    constructor
    · exact .inl
    · rintro (mem | rfl)
      · exact mem
      · simpa using found
  · rw [List.mem_append, List.mem_singleton]

theorem mem_foldl_addSpelling {names seen : List String} {n : String} :
    n ∈ names.foldl addSpelling seen ↔ n ∈ seen ∨ n ∈ names := by
  induction names generalizing seen with
  | nil => simp
  | cons name names ih => rw [List.foldl_cons, ih, mem_addSpelling, or_assoc, List.mem_cons]

theorem lowercase_of_mem_referencedNames (h : n ∈ referencedNames f) :
    lowercase n = lowerAscii n := by
  have name := isName_of_mem_namesIn (List.mem_filter.1 h).1
  rw [lowercase, lowerAfter_ascii name.ascii, lowerAscii]

theorem mem_unknownVariables_iff {known : List String} {n : String} :
    n ∈ unknownVariables f known ↔ n ∈ referencedNames f ∧ lowercase n ∉ known := by
  rw [unknownVariables, mem_foldl_addSpelling]
  simp [List.mem_filter]

theorem mem_unknown_lower_iff {known : List String} {n : String} :
    n ∈ (unknownVariables f known).map lowerAscii ↔ n ∈ referencedNames (lowerAscii f) ∧
      n ∉ known := by
  rw [referencedNames_lowerAscii, List.mem_map, List.mem_map]
  constructor
  · rintro ⟨m, unknown, rfl⟩
    obtain ⟨mem, other⟩ := mem_unknownVariables_iff.1 unknown
    exact ⟨⟨m, mem, rfl⟩, lowercase_of_mem_referencedNames mem ▸ other⟩
  · rintro ⟨⟨m, mem, rfl⟩, other⟩
    exact ⟨m,
      mem_unknownVariables_iff.2 ⟨mem, (lowercase_of_mem_referencedNames mem).symm ▸ other⟩, rfl⟩

theorem staticIssue?_caseless {f f' : String} (same : lowerAscii f = lowerAscii f')
    (known : List String) :
    Option.Rel Issue.Alike (staticIssue? f known) (staticIssue? f' known) := by
  have names : ∀ n, n ∈ (unknownVariables f known).map lowerAscii ↔
      n ∈ (unknownVariables f' known).map lowerAscii := by
    intro n
    rw [mem_unknown_lower_iff, mem_unknown_lower_iff, same]
  have none : unknownVariables f known = [] ↔ unknownVariables f' known = [] := by
    rw [← List.map_eq_nil_iff (f := lowerAscii), List.eq_nil_iff_forall_not_mem,
      ← List.map_eq_nil_iff (f := lowerAscii), List.eq_nil_iff_forall_not_mem]
    exact forall_congr' fun n => not_congr (names n)
  have parens : imbalance? f = imbalance? f' := by
    rw [imbalance?, imbalance?, ← imbalanceAt_toLower, String.ofList_inj.1 same,
      imbalanceAt_toLower]
  have operators : operatorsClash f = operatorsClash f' := by
    rw [← operatorsClash_lowerAscii, same, operatorsClash_lowerAscii]
  rw [staticIssue?, staticIssue?, parens, operators]
  by_cases known : unknownVariables f known = []
  · rw [if_neg (not_not.2 known), if_neg (not_not.2 (none.1 known))]
    split
    · exact .some rfl
    · split
      · exact .some trivial
      · exact .none
  · rw [if_pos known, if_pos (mt none.2 known)]
    exact .some names

/--
Formulas that differ in nothing but the case of ASCII
letters have the same value, or the same is wrong with them.
-/
theorem evaluate_validate_caseless (f f' : String) (same : sameIgnoringCase f f' = true)
    (b : Bindings) (names : List String) (values : Option Bindings) :
    (evaluate f b).mapError (EvalError.rename lowerAscii) =
      (evaluate f' b).mapError (EvalError.rename lowerAscii) ∧
      (validate f names values).Alike (validate f' names values) := by
  have same : lowerAscii f = lowerAscii f' := of_decide_eq_true same
  refine ⟨evaluate_caseless same b, ?_⟩
  rw [validate.eq_def, validate.eq_def f', ← isBlankText_lowerAscii f, same, isBlankText_lowerAscii]
  split
  · exact .valid none
  have issues := staticIssue?_caseless same (knownNames names)
  generalize staticIssue? f (knownNames names) = issue, staticIssue? f' (knownNames names) =
    issue' at issues ⊢
  cases issues with
  | some alike => exact .invalid alike
  | none =>
    cases values with
    | none => exact .valid none
    | some b =>
      have value := evaluate_caseless same b
      dsimp only
      generalize evaluate f b = r, evaluate f' b = r' at value ⊢
      cases r with
      | error e =>
        cases r' with
        | error e' => exact .invalid (Except.error.inj value)
        | ok => cases value
      | ok x =>
        cases r' with
        | error e' => cases value
        | ok x' =>
          cases value
          exact .valid (some x)

theorem evaluate_validate_caseless_max :
    sameIgnoringCase "Max(Hp, 2) / mp" "mAX(hP, 2) / MP" = true ∧
    (evaluate "Max(Hp, 2) / mp" [("HP", 7)]).mapError (EvalError.rename lowerAscii) =
      (evaluate "mAX(hP, 2) / MP" [("HP", 7)]).mapError (EvalError.rename lowerAscii) ∧
    (validate "Max(Hp, 2) / mp" ["hp"] (some [("HP", 7)])).Alike
      (validate "mAX(hP, 2) / MP" ["hp"] (some [("HP", 7)])) := by
  have same : sameIgnoringCase "Max(Hp, 2) / mp" "mAX(hP, 2) / MP" = true := by decide
  exact ⟨same, evaluate_validate_caseless _ _ same [("HP", 7)] ["hp"] (some [("HP", 7)])⟩

end Checking

end GameBalance.Formula
