import GameBalance.Proofs.Formula.Lexing
import GameBalance.Proofs.Formula.Recognition

namespace GameBalance.Formula

open Text

def Token.isOperand : Token → Bool
  | .number _ | .identifier _ => true
  | _ => false

def literalTokens (x : Float) : List Token :=
  (if Double.isNegative x then [.operator .minus] else []) ++
    [.number (Double.ofMagnitude false (Double.magnitude x))]

def Token.image (env : String → Option Float) : Token → List Token
  | .identifier name => match env name with
    | some x => literalTokens x
    | none => [.identifier name]
  | t => [t]

def Token.endsOperand : Token → Bool
  | .number _ | .identifier _ | .closeParen => true
  | _ => false

def Apart : List Token → Prop
  | [] => True
  | t :: ts => (t.endsOperand = true → ∀ u ∈ ts.head?, u.isOperand = false) ∧ Apart ts

theorem Apart.append (h : Apart ts) (h' : Apart us) (first : ∀ u ∈ us.head?, u.isOperand = false) :
    Apart (ts ++ us) := by
  induction ts with
  | nil => exact h'
  | cons t ts ih =>
    refine ⟨fun ends u hu => ?_, ih h.2⟩
    cases ts with
    | nil => exact first u hu
    | cons v ts => exact h.1 ends u hu

theorem Apart.of_append (h : Apart (ts ++ us)) : Apart us := by
  induction ts with
  | nil => exact h
  | cons t ts ih => exact ih h.2

theorem Apart.cons {t : Token} (ht : t.endsOperand = false) (h : Apart ts) : Apart (t :: ts) :=
  ⟨fun ends => Bool.noConfusion (ht.symm.trans ends), h⟩

theorem isOperand_of_endsOperand {t : Token} (h : t.endsOperand = false) : t.isOperand = false := by
  cases t with
  | number => cases h
  | identifier => cases h
  | _ => rfl

theorem Apart.join {t : Token} (h : Apart ts) (ht : t.endsOperand = false) (h' : Apart us) :
    Apart (ts ++ t :: us) :=
  h.append (h'.cons ht) fun u hu => by
    cases hu
    exact isOperand_of_endsOperand ht

theorem Apart.close (h : Apart ts) : Apart (ts ++ [.closeParen]) :=
  h.append ⟨fun _ _ h => (nomatch h), trivial⟩ fun u hu => by
    cases hu
    rfl

namespace Grammar

theorem SumOperator.endsOperand (h : SumOperator t op) : t.endsOperand = false := by
  cases h <;> rfl

theorem ProductOperator.endsOperand (h : ProductOperator t op) : t.endsOperand = false := by
  cases h <;> rfl

theorem apart_compositional : Compositional (fun ts _ => Apart ts) fun ts _ => Apart ts where
  number _ := ⟨fun _ _ h => (nomatch h), trivial⟩
  var _ := ⟨fun _ _ h => (nomatch h), trivial⟩
  link h h' := h.join rfl h'
  plus h := h.cons rfl
  minus h := h.cons rfl
  parens h := h.close.cons rfl
  call _ h := ⟨fun _ _ h => by cases h; rfl, h.close.cons rfl⟩
  last h := h
  more h h' := h.join rfl h'

theorem Expression.apart (h : Expression n ts e d) : Apart ts :=
  apart_compositional.expression h

end Grammar

theorem isOperand_of_symbol? (h : symbol? c = some t) : t.isOperand = false := by
  unfold symbol? at h
  split at h
  · cases h; rfl
  · cases h; rfl
  · cases h; rfl
  · obtain ⟨op, -, rfl⟩ := Option.map_eq_some_iff.1 h
    rfl

theorem image_of_isOperand (h : t.isOperand = false) : Token.image env t = [t] := by
  cases t with
  | identifier => cases h
  | _ => rfl

theorem Lexes.clear (h : Lexes cs ts) (ht : ∀ t ∈ ts.head?, t.isOperand = false) :
    wordAt cs.head? = false ∧ Stops isNumeral cs := by
  cases h with
  | nil => exact ⟨rfl, fun _ h => nomatch h⟩
  | blank hc _ =>
    refine ⟨isWord_of_isBlank hc, fun d hd => ?_⟩
    cases hd
    rw [Bool.eq_false_iff]
    exact fun numeral => Bool.noConfusion (hc.symm.trans (class_of_isNumeral numeral).1)
  | symbol hc _ =>
    refine ⟨isWord_of_symbol? hc, fun d hd => ?_⟩
    cases hd
    rw [Bool.eq_false_iff]
    exact fun numeral => nomatch hc.symm.trans (class_of_isNumeral numeral).2
  | number => exact Bool.noConfusion (ht _ rfl)
  | name => exact Bool.noConfusion (ht _ rfl)

theorem head?_mapWords (h : wordAt cs.head? = false) : (mapWords g cs).head? = cs.head? := by
  cases cs with
  | nil => rw [mapWords_nil]
  | cons c cs => rw [mapWords_other h, List.head?_cons, List.head?_cons]

theorem lexes_literal {x : Float} (h : x.isFinite = true) (hr : Stops isNumeral rest)
    (lexes : Lexes rest ts) :
    Lexes (Decimal.plain x ++ rest) (literalTokens x ++ ts) := by
  have read := Decimal.numeral?_unsignedText h
  have digits : Lexes (Decimal.unsignedText x ++ rest)
      (.number (Double.ofMagnitude false (Double.magnitude x)) :: ts) := by
    refine .number ?_ (fun c hc => ?_) read hr lexes
    · intro empty
      rw [empty] at read
      cases read
    · exact isNumeral_of_mem_unsignedText h hc
  rw [Decimal.plain_eq h, Decimal.signed, literalTokens]
  split
  · exact .symbol rfl digits
  · exact digits

/--
`g` gives words the texts of the values that `env` gives
names, and leaves what begins with a digit as it is.
-/
structure Writes (g : List Char → List Char) (env : String → Option Float) : Prop where
  value : IsName w → env (.ofList w) = some x → g w = Decimal.plain x
  free : IsName w → env (.ofList w) = none → g w = w
  digits : c.isDigit = true → g (c :: w) = c :: w

theorem Lexes.mapWords (h : Lexes cs ts) (apart : Apart ts) (writes : Writes g env)
    (finite : ∀ w, .identifier w ∈ ts → ∀ x, env w = some x → x.isFinite = true) :
    Lexes (mapWords g cs) (ts.flatMap (Token.image env)) := by
  induction h with
  | nil =>
    rw [mapWords_nil]
    exact .nil
  | blank hc _ ih =>
    rw [mapWords_other (isWord_of_isBlank hc)]
    exact .blank hc (ih apart finite)
  | symbol hc _ ih =>
    rw [mapWords_other (isWord_of_symbol? hc), List.flatMap_cons,
      image_of_isOperand (isOperand_of_symbol? hc)]
    exact .symbol hc (ih apart.2 fun w hw => finite w (List.mem_cons_of_mem _ hw))
  | @number run x rest ts ne hrun hx hr h ih =>
    obtain ⟨edge, -⟩ := h.clear (apart.1 rfl)
    have unchanged : Text.mapWords g run = run := mapWords_eq_self fun w hw => by
      obtain ⟨c, w, rfl, digit⟩ := words_digit (fun c hc => isDigit_of_isNumeral (hrun c hc)) hw
      exact writes.digits digit
    rw [mapWords_append edge, unchanged]
    refine .number ne hrun hx ?_ (ih apart.2 fun w hw => finite w (List.mem_cons_of_mem _ hw))
    rwa [Stops, head?_mapWords edge]
  | @name w rest ts hw hr h ih =>
    obtain ⟨edge, stops⟩ := h.clear (apart.1 rfl)
    have lexes := ih apart.2 fun w hw => finite w (List.mem_cons_of_mem _ hw)
    rw [mapWords_word hw.isWord edge, List.flatMap_cons, Token.image]
    cases value : env (.ofList w) with
    | none =>
      rw [writes.free hw value]
      refine .name hw ?_ lexes
      rwa [Stops, head?_mapWords edge]
    | some x =>
      rw [writes.value hw value]
      refine lexes_literal (finite _ List.mem_cons_self x value) ?_ lexes
      rwa [Stops, head?_mapWords edge]

theorem Lexes.words (h : Lexes cs ts) (apart : Apart ts) (hw : w ∈ words cs) :
    (∀ c ∈ w, c.isDigit = true) ∨ IsName w ∧ .identifier (.ofList w) ∈ ts := by
  induction h with
  | nil => simp at hw
  | blank hc _ ih => exact ih apart (words_other (isWord_of_isBlank hc) ▸ hw)
  | symbol hc _ ih =>
    refine (ih apart.2 ?_).imp_right fun ⟨hn, mem⟩ => ⟨hn, List.mem_cons_of_mem _ mem⟩
    rwa [words_other (isWord_of_symbol? hc)] at hw
  | number ne hrun hx hr h ih =>
    obtain ⟨edge, -⟩ := h.clear (apart.1 rfl)
    rw [words_append edge] at hw
    obtain hw | hw := List.mem_append.1 hw
    · exact .inl fun c hc =>
        isDigit_of_isNumeral (hrun c (mem_of_mem_words hw hc)) ((isWord_of_mem_words hw).2 c hc)
    · exact (ih apart.2 hw).imp_right fun ⟨hn, mem⟩ => ⟨hn, List.mem_cons_of_mem _ mem⟩
  | name hname hr h ih =>
    obtain ⟨edge, -⟩ := h.clear (apart.1 rfl)
    rw [words_word hname.isWord edge] at hw
    obtain rfl | hw := List.mem_cons.1 hw
    · exact .inr ⟨hname, List.mem_cons_self⟩
    · exact (ih apart.2 hw).imp_right fun ⟨hn, mem⟩ => ⟨hn, List.mem_cons_of_mem _ mem⟩

theorem Lexes.mem_words (h : Lexes cs ts) (apart : Apart ts) (mem : .identifier n ∈ ts) :
    IsName n.toList ∧ n.toList ∈ Text.words cs := by
  induction h with
  | nil => cases mem
  | blank hc _ ih =>
    rw [words_other (isWord_of_isBlank hc)]
    exact ih apart mem
  | symbol hc _ ih =>
    rw [words_other (isWord_of_symbol? hc)]
    obtain rfl | mem := List.mem_cons.1 mem
    · cases isOperand_of_symbol? hc
    · exact ih apart.2 mem
  | number ne hrun hx hr h ih =>
    obtain ⟨edge, -⟩ := h.clear (apart.1 rfl)
    obtain ⟨name, mem⟩ := ih apart.2 ((List.mem_cons.1 mem).resolve_left nofun)
    rw [words_append edge]
    exact ⟨name, List.mem_append_right _ mem⟩
  | name hname hr h ih =>
    obtain ⟨edge, -⟩ := h.clear (apart.1 rfl)
    rw [words_word hname.isWord edge]
    obtain eq | mem := List.mem_cons.1 mem
    · cases eq
      rw [String.toList_ofList]
      exact ⟨hname, List.mem_cons_self⟩
    · obtain ⟨name, mem⟩ := ih apart.2 mem
      exact ⟨name, List.mem_cons_of_mem _ mem⟩

end GameBalance.Formula
