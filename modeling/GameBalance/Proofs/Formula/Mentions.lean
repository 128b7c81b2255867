import GameBalance.Proofs.Formula.Names

namespace GameBalance.Formula

open Text Grammar

def Token.name? : Token → Option String
  | .identifier name => some name
  | _ => none

variable {w rest cs : List Char} {ts : List Token}

theorem name?_of_symbol? (h : symbol? c = some t) : t.name? = none := by
  unfold symbol? at h
  split at h
  · cases h; rfl
  · cases h; rfl
  · cases h; rfl
  · obtain ⟨op, -, rfl⟩ := Option.map_eq_some_iff.1 h
    rfl

theorem namesIn_skip (hw : ∀ c ∈ w, isNameStart c = false) (rest : List Char) :
    namesIn (w ++ rest) = namesIn rest := by
  induction w with
  | nil => rfl
  | cons c w ih =>
    obtain ⟨first, others⟩ := List.forall_mem_cons.1 hw
    rw [List.cons_append, namesIn_other first, ih others]

theorem namesIn_name (hw : IsName w) (hr : Stops isNamePart rest) :
    namesIn (w ++ rest) = .ofList w :: namesIn rest := by
  obtain ⟨c, run, rfl, start, part⟩ := hw
  obtain ⟨left, right⟩ := span_run part hr
  rw [List.cons_append, namesIn_start start, left, right]

theorem isNameStart_eq_false
    (h : isBlank c = true ∨ (∃ t, symbol? c = some t) ∨ isNumeral c = true) :
    isNameStart c = false := by
  rw [Bool.eq_false_iff]
  intro start
  obtain ⟨blank, symbol, numeral⟩ := class_of_isNameStart start
  obtain h | ⟨t, h⟩ | h := h
  · exact Bool.noConfusion (h.symm.trans blank)
  · cases h.symm.trans symbol
  · exact Bool.noConfusion (h.symm.trans numeral)

theorem Lexes.namesIn (h : Lexes cs ts) : namesIn cs = ts.filterMap Token.name? := by
  induction h with
  | nil => rw [Formula.namesIn, List.filterMap_nil]
  | blank hc _ ih => rw [namesIn_other (isNameStart_eq_false (.inl hc)), ih]
  | symbol hc _ ih =>
    rw [namesIn_other (isNameStart_eq_false (.inr (.inl ⟨_, hc⟩))), ih,
      List.filterMap_cons_none (name?_of_symbol? hc)]
  | number _ hrun _ _ _ ih =>
    rw [namesIn_skip fun c hc => isNameStart_eq_false (.inr (.inr (hrun c hc))), ih]
    exact (List.filterMap_cons_none rfl).symm
  | name hw hr _ ih =>
    rw [namesIn_name hw hr, ih]
    rfl

/--
The identifiers among the tokens are these variables
and functions, each kind in the order of the tokens.
-/
structure Mentions (ts : List Token) (vars : List String) (calls : List Builtin) : Prop where
  vars : vars = (ts.filterMap Token.name?).filter (!Builtin.isName ·)
  calls : calls.map some = ((ts.filterMap Token.name?).filter Builtin.isName).map Builtin.lookup?

namespace Mentions

variable {ts us : List Token} {vs ws : List String} {fs gs : List Builtin}

theorem nil : Mentions [] [] [] :=
  ⟨rfl, rfl⟩

theorem append (h : Mentions ts vs fs) (h' : Mentions us ws gs) :
    Mentions (ts ++ us) (vs ++ ws) (fs ++ gs) where
  vars := by rw [List.filterMap_append, List.filter_append, h.vars, h'.vars]
  calls := by
    rw [List.filterMap_append, List.filter_append, List.map_append, List.map_append,
      h.calls, h'.calls]

theorem skip {t : Token} (h : Mentions ts vs fs) (ht : t.name? = none) :
    Mentions (t :: ts) vs fs where
  vars := by rw [List.filterMap_cons_none ht, h.vars]
  calls := by rw [List.filterMap_cons_none ht, h.calls]

theorem var (h : Builtin.lookup? name = none) : Mentions [.identifier name] [name] [] where
  vars := by simp [Token.name?, Builtin.isName, h]
  calls := by simp [Token.name?, Builtin.isName, h]

theorem call (hf : Builtin.lookup? name = some f) (h : Mentions ts vs fs) :
    Mentions (.identifier name :: ts) vs (f :: fs) where
  vars := by simp [Token.name?, Builtin.isName, hf, h.vars]
  calls := by simp [Token.name?, Builtin.isName, hf, h.calls]

theorem link {t : Token} (h : Mentions ts vs fs) (ht : t.endsOperand = false)
    (h' : Mentions us ws gs) :
    Mentions (ts ++ t :: us) (vs ++ ws) (fs ++ gs) := by
  refine h.append (h'.skip ?_)
  cases t with
  | identifier => cases ht
  | _ => rfl

theorem mem_vars (h : Mentions ts vs fs) (mem : .identifier name ∈ ts) :
    name ∈ vs ∨ Builtin.isName name = true := by
  cases builtin : Builtin.isName name with
  | true => exact .inr rfl
  | false =>
    rw [h.vars]
    exact .inl (List.mem_filter.2 ⟨List.mem_filterMap.2 ⟨_, mem, rfl⟩, by rw [builtin]; rfl⟩)

theorem close (h : Mentions ts vs fs) : Mentions (ts ++ [.closeParen]) vs fs := by
  have closed := h.append (nil.skip (t := .closeParen) rfl)
  rwa [List.append_nil, List.append_nil] at closed

end Mentions

namespace Grammar

theorem mentions_compositional :
    Compositional (fun ts e => Mentions ts e.vars e.calls)
      fun ts es => Mentions ts (Expr.varsAll es) (Expr.callsAll es) where
  number _ := .skip .nil rfl
  var free := .var free
  link h h' := h.link rfl h'
  plus h := h.skip rfl
  minus h := h.skip rfl
  parens h := h.close.skip rfl
  call function h := .call function (h.close.skip rfl)
  last h := by simpa [Expr.varsAll, Expr.callsAll] using h
  more h h' := h.link rfl h'

theorem Expression.mentions (h : Expression n ts e d) : Mentions ts e.vars e.calls :=
  mentions_compositional.expression h

end Grammar

theorem vars_eq_referencedNames {f : String} (lexes : Lexes f.toList ts)
    (derives : Derives ts e d) :
    e.vars = referencedNames f := by
  obtain ⟨_, expr⟩ := derives
  rw [referencedNames, scanNames, lexes.namesIn]
  exact expr.mentions.vars

/--
The scan of a text finds what its tokens have for names. If they have
a tree, the names that are no functions are its variables from left
to right, and the others are looked up as the functions it calls.
-/
theorem mentions_of_tokenize (f : String) (ts : List Token) (lexed : tokenize f = .ok ts) :
    scanNames f = ts.filterMap Token.name? ∧
      ∀ e, parse ts = .ok e → e.vars = referencedNames f ∧
        e.calls.map some = ((scanNames f).filter Builtin.isName).map Builtin.lookup? := by
  have lexes := lexes_of_tokensFrom lexed
  have scanned : scanNames f = ts.filterMap Token.name? := lexes.namesIn
  refine ⟨scanned, fun e parsed => ?_⟩
  obtain ⟨d, derives, -⟩ := parse_eq_ok_iff.1 parsed
  refine ⟨vars_eq_referencedNames lexes derives, ?_⟩
  obtain ⟨_, expr⟩ := derives
  rw [scanned]
  exact expr.mentions.calls

theorem mentions_of_tokenize_nested :
    tokenize "Max(a1,-min(B))" =
      .ok [.identifier "Max", .openParen, .identifier "a1", .comma, .operator .minus,
        .identifier "min", .openParen, .identifier "B", .closeParen, .closeParen] ∧
    scanNames "Max(a1,-min(B))" = ["Max", "a1", "min", "B"] ∧
    referencedNames "Max(a1,-min(B))" =
      (Expr.call .max [.var "a1", .negate (.call .min [.var "B"])]).vars ∧
    ((scanNames "Max(a1,-min(B))").filter Builtin.isName).map Builtin.lookup? =
      [some .max, some .min] := by
  have stops : Stops isNamePart ['(', 'a', '1', ',', '-', 'm', 'i', 'n', '(', 'B', ')', ')'] ∧
      Stops isNamePart [',', '-', 'm', 'i', 'n', '(', 'B', ')', ')'] ∧
      Stops isNamePart ['(', 'B', ')', ')'] ∧
      Stops isNamePart [')', ')'] := by
    refine ⟨?_, ?_, ?_, ?_⟩ <;> exact fun c hc => by cases hc; rfl
  have lexed :
      Lexes "Max(a1,-min(B))".toList
        [.identifier "Max", .openParen, .identifier "a1", .comma, .operator .minus,
          .identifier "min", .openParen, .identifier "B", .closeParen, .closeParen] :=
    .name (w := ['M', 'a', 'x']) (by decide) stops.1 <| .symbol rfl <|
      .name (w := ['a', '1']) (by decide) stops.2.1 <| .symbol rfl <| .symbol rfl <|
      .name (w := ['m', 'i', 'n']) (by decide) stops.2.2.1 <| .symbol rfl <|
      .name (w := ['B']) (by decide) stops.2.2.2 <| .symbol rfl <| .symbol rfl .nil
  have operand {ts e d} (h : Primary ts e d) : Expression 0 ts e d :=
    .first (.first (.base (.primary h)))
  have free : Builtin.lookup? "a1" = none ∧ Builtin.lookup? "B" = none := by decide
  have last : Arguments [.identifier "B"] [.var "B"] 0 :=
    .last (operand (.var (lookup?_eq_none_iff.1 free.2)))
  have inner : Primary [.identifier "min", .openParen, .identifier "B", .closeParen]
      (.call .min [.var "B"]) 1 :=
    Primary.call (lookup?_eq_some_iff.1 (by decide)) last
  have arguments : Arguments ([.identifier "a1"] ++ .comma :: _)
      [.var "a1", .negate (.call .min [.var "B"])] _ :=
    .more (operand (.var (lookup?_eq_none_iff.1 free.1)))
      (.last (.first (.first (.base (.minus (.primary inner))))))
  have parsed : Primary [.identifier "Max", .openParen, .identifier "a1", .comma, .operator .minus,
      .identifier "min",
      .openParen, .identifier "B", .closeParen, .closeParen]
      (.call .max [.var "a1", .negate (.call .min [.var "B"])]) 3 :=
    Primary.call (lookup?_eq_some_iff.1 (by decide)) arguments
  obtain ⟨scanned, trees⟩ := mentions_of_tokenize _ _ (tokensFrom_of_lexes lexed 0)
  obtain ⟨vars, calls⟩ := trees _ (parse_eq_ok_iff.2 ⟨3, ⟨0, operand parsed⟩, by decide⟩)
  exact ⟨tokensFrom_of_lexes lexed 0, scanned, vars.symm, calls.symm⟩

end GameBalance.Formula
