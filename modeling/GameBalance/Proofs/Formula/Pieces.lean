import GameBalance.Proofs.Decimal.Literal
import GameBalance.Proofs.Formula.Adjacency

namespace GameBalance.Formula

open Text Grammar

inductive Piece
  | blanks (run : List Char)
  | symbol (c : Char)
  | numeral (run : List Char)
  | name (run : List Char)
  | stray (c : Char)

namespace Piece

def text : Piece → List Char
  | .blanks run | .numeral run | .name run => run
  | .symbol c | .stray c => [c]

def IsFormed : Piece → Prop
  | .blanks run => run ≠ [] ∧ ∀ c ∈ run, isBlank c = true
  | .symbol c => c ∈ ['(', ')', ',', '+', '-', '*', '/', '^']
  | .numeral run => run ≠ [] ∧ ∀ c ∈ run, isNumeral c = true
  | .name run => IsName run
  | .stray c => isBlank c = false ∧ symbol? c = none ∧ isNumeral c = false ∧ isNameStart c = false

def IsAccepted : Piece → Prop
  | .numeral run => Decimal.IsNumber run
  | .stray _ => False
  | _ => True

def token? : Piece → Option Token
  | .blanks _ | .stray _ => none
  | .symbol c => symbol? c
  | .numeral run => (Decimal.number? run).map .number
  | .name run => some (.identifier (.ofList run))

def error? (position : Nat) : Piece → Option TokenError
  | .numeral run =>
    if Decimal.IsNumber run then none else some (.invalidNumber (.ofList run) position)
  | .stray c => some (.unexpectedChar c position)
  | _ => none

/-- The longest piece that a text begins with, before the text `rest`. -/
structure Leads (p : Piece) (rest : List Char) : Prop where
  formed : p.IsFormed
  longest : ∀ q : Piece, q.IsFormed → q.text <+: p.text ++ rest → q.text.length ≤ p.text.length

end Piece

inductive Splits : List Char → List Piece → Prop
  | nil : Splits [] []
  | cons : p.Leads cs → Splits cs ps → Splits (p.text ++ cs) (p :: ps)

namespace Piece

variable {p q : Piece} {c : Char} {cs rest : List Char}

theorem IsFormed.ne_nil (h : p.IsFormed) : p.text ≠ [] := by
  cases p with
  | blanks | numeral => exact h.1
  | name =>
    obtain ⟨c, run, rfl, -⟩ := h
    exact List.cons_ne_nil c run
  | symbol c | stray c => exact List.cons_ne_nil c []

def first (c : Char) (cs : List Char) : Piece :=
  if isBlank c then .blanks (c :: cs.takeWhile isBlank)
  else if (symbol? c).isSome then .symbol c
  else if isNumeral c then .numeral (c :: cs.takeWhile isNumeral)
  else if isNameStart c then .name (c :: cs.takeWhile isNamePart)
  else .stray c

theorem mem_symbols_iff :
    c ∈ ['(', ')', ',', '+', '-', '*', '/', '^'] ↔ (symbol? c).isSome = true := by
  constructor
  · revert c
    simp only [List.forall_mem_cons]
    exact ⟨rfl, rfl, rfl, rfl, rfl, rfl, rfl, rfl, fun _ h => absurd h List.not_mem_nil⟩
  · intro h
    obtain ⟨t, ht⟩ := Option.isSome_iff_exists.1 h
    exact symbol?_cases ht

theorem text_first (c : Char) (cs : List Char) : ∃ rest, c :: cs = (first c cs).text ++ rest := by
  unfold first
  split
  · exact ⟨cs.dropWhile isBlank, by simp [text]⟩
  split
  · exact ⟨cs, rfl⟩
  split
  · exact ⟨cs.dropWhile isNumeral, by simp [text]⟩
  split
  · exact ⟨cs.dropWhile isNamePart, by simp [text]⟩
  · exact ⟨cs, rfl⟩

theorem isFormed_first (c : Char) (cs : List Char) : (first c cs).IsFormed := by
  have run {p : Char → Bool} (h : p c = true) : c :: cs.takeWhile p ≠ [] ∧
      ∀ d ∈ c :: cs.takeWhile p, p d = true :=
    ⟨List.cons_ne_nil _ _, List.forall_mem_cons.2 ⟨h, List.all_eq_true.1 List.all_takeWhile⟩⟩
  unfold first
  split
  · exact run ‹_›
  split
  · exact mem_symbols_iff.2 ‹_›
  split
  · exact run ‹_›
  split
  · exact ⟨c, _, rfl, ‹_›, List.all_eq_true.1 List.all_takeWhile⟩
  · simp_all [IsFormed]

theorem first_of_isFormed (h : q.IsFormed) (eq : c :: cs = q.text ++ rest) :
    ∃ more, (first c cs).text = q.text ++ more ∧ (more = [] → first c cs = q) := by
  have run {p : Char → Bool} {w : List Char} (hp : ∀ d ∈ w, p d = true) :
      (w ++ rest).takeWhile p = w ++ rest.takeWhile p :=
    List.takeWhile_append_of_pos hp
  cases q with
  | blanks w =>
    obtain ⟨d, w, rfl⟩ := List.exists_cons_of_ne_nil h.1
    obtain ⟨rfl, rfl⟩ := List.cons.inj eq
    obtain ⟨blank, others⟩ := List.forall_mem_cons.1 h.2
    refine ⟨rest.takeWhile isBlank, ?_, fun none => ?_⟩
    · simp [first, blank, text, run others]
    · simp [first, blank, run others, none]
  | symbol d =>
    obtain ⟨rfl, rfl⟩ := List.cons.inj eq
    have symbol := mem_symbols_iff.1 h
    obtain ⟨t, ht⟩ := Option.isSome_iff_exists.1 symbol
    refine ⟨[], ?_, fun _ => ?_⟩
    · simp [first, isBlank_of_symbol? ht, symbol, text]
    · simp [first, isBlank_of_symbol? ht, symbol]
  | numeral w =>
    obtain ⟨d, w, rfl⟩ := List.exists_cons_of_ne_nil h.1
    obtain ⟨rfl, rfl⟩ := List.cons.inj eq
    obtain ⟨numeral, others⟩ := List.forall_mem_cons.1 h.2
    obtain ⟨blank, symbol⟩ := class_of_isNumeral numeral
    refine ⟨rest.takeWhile isNumeral, ?_, fun none => ?_⟩
    · simp [first, blank, symbol, numeral, text, run others]
    · simp [first, blank, symbol, numeral, run others, none]
  | name w =>
    obtain ⟨d, w, rfl, start, others⟩ := h
    obtain ⟨rfl, rfl⟩ := List.cons.inj eq
    obtain ⟨blank, symbol, numeral⟩ := class_of_isNameStart start
    refine ⟨rest.takeWhile isNamePart, ?_, fun none => ?_⟩
    · simp [first, blank, symbol, numeral, start, text, run others]
    · simp [first, blank, symbol, numeral, start, run others, none]
  | stray d =>
    obtain ⟨rfl, rfl⟩ := List.cons.inj eq
    obtain ⟨blank, symbol, numeral, start⟩ := h
    refine ⟨[], ?_, fun _ => ?_⟩
    · simp [first, blank, symbol, numeral, start, text]
    · simp [first, blank, symbol, numeral, start]

theorem leads_first (eq : c :: cs = (first c cs).text ++ rest) : (first c cs).Leads rest where
  formed := isFormed_first c cs
  longest q hq := fun ⟨left, same⟩ => by
    obtain ⟨more, part, -⟩ := first_of_isFormed hq (eq.trans same.symm)
    rw [part, List.length_append]
    exact Nat.le_add_right _ _

theorem Leads.eq_first (h : p.Leads rest) (eq : c :: cs = p.text ++ rest) : p = first c cs := by
  obtain ⟨more, part, whole⟩ := first_of_isFormed h.formed eq
  obtain ⟨left, split⟩ := text_first c cs
  have le := h.longest _ (isFormed_first c cs) ⟨left, by rw [← eq, split]⟩
  rw [part, List.length_append] at le
  exact (whole (List.eq_nil_of_length_eq_zero (by omega))).symm

/-- The text after a numeral or a name does not go on with it. -/
def Ends : Piece → List Char → Prop
  | .numeral _, rest => Stops isNumeral rest
  | .name _, rest => Stops isNamePart rest
  | _, _ => True

theorem Leads.ends (h : p.Leads rest) : p.Ends rest := by
  -- one more character would make a longer piece
  have short {q : Piece} {c : Char} (formed : q.IsFormed) (more : q.text = p.text ++ [c]) :
      c ∉ rest.head? := by
    intro hc
    obtain ⟨rest, rfl⟩ := List.head?_eq_some_iff.1 hc
    have le := h.longest q formed ⟨rest, by simp [more]⟩
    simp [more] at le
  have formed := h.formed
  cases p with
  | numeral w =>
    intro c hc
    rw [← Bool.not_eq_true]
    intro numeral
    refine short (q := .numeral (w ++ [c])) ⟨by simp, ?_⟩ rfl hc
    exact List.forall_mem_append.2 ⟨formed.2, List.forall_mem_singleton.2 numeral⟩
  | name w =>
    intro c hc
    rw [← Bool.not_eq_true]
    intro part
    obtain ⟨d, w, rfl, start, others⟩ := formed
    refine short (q := .name (d :: w ++ [c])) ⟨d, w ++ [c], rfl, start, ?_⟩ rfl hc
    exact List.forall_mem_append.2 ⟨others, List.forall_mem_singleton.2 part⟩
  | _ => trivial

theorem Ends.insert {u v w : List Char} (h : p.Ends (u ++ v)) (blank : ∀ c ∈ w, isBlank c = true) :
    p.Ends (u ++ (w ++ v)) := by
  have stops {q : Char → Bool} (apart : ∀ c, q c = true → isBlank c = false)
      (h : Stops q (u ++ v)) :
      Stops q (u ++ (w ++ v)) := by
    cases u with
    | cons => exact h
    | nil =>
      cases w with
      | nil => exact h
      | cons c w =>
        intro d hd
        cases hd
        rw [← Bool.not_eq_true]
        intro part
        exact Bool.noConfusion ((apart c part).symm.trans (blank c List.mem_cons_self))
  cases p with
  | numeral => exact stops (fun c hc => (class_of_isNumeral hc).1) h
  | name => exact stops (fun c hc => (class_of_isNamePart hc).1) h
  | _ => trivial

theorem error?_eq_none_iff {k : Nat} : p.error? k = none ↔ p.IsAccepted := by
  cases p with
  | numeral w => simp [error?, IsAccepted]
  | stray c => simp [error?, IsAccepted]
  | _ => exact iff_of_true rfl trivial

theorem tokensFrom_blanks {w : List Char} (h : ∀ c ∈ w, isBlank c = true) (k : Nat)
    (rest : List Char) :
    tokensFrom k (w ++ rest) = tokensFrom (k + w.length) rest := by
  induction w generalizing k with
  | nil => rfl
  | cons c w ih =>
    obtain ⟨blank, others⟩ := List.forall_mem_cons.1 h
    rw [List.cons_append, tokensFrom.eq_def]
    simp only [blank, if_true, ih others, List.length_cons, Nat.add_assoc, Nat.add_comm 1]

theorem numeral?_eq {w : List Char} (h : ∀ c ∈ w, isNumeral c = true) :
    Decimal.numeral? w = Decimal.number? w ∧ (Decimal.number? w = none ↔ ¬Decimal.IsNumber w) := by
  have run : ∀ c ∈ w, c.isDigit = true ∨ c = '.' := fun c hc => by simpa [isNumeral] using h c hc
  refine ⟨(Decimal.number?_run run).symm, ?_⟩
  rw [Decimal.number?_eq run]
  split <;> simp [*]

theorem tokensFrom_piece (formed : p.IsFormed) (ends : p.Ends rest) (k : Nat) :
    tokensFrom k (p.text ++ rest) =
    match p.error? k with
    | some e => .error e
    | none => (tokensFrom (k + p.text.length) rest).map (p.token?.toList ++ ·) := by
  cases p with
  | blanks w =>
    refine (tokensFrom_blanks formed.2 k rest).trans ?_
    simp only [error?, token?, text]
    cases tokensFrom (k + w.length) rest <;> rfl
  | symbol c =>
    obtain ⟨t, ht⟩ := Option.isSome_iff_exists.1 (mem_symbols_iff.1 formed)
    rw [tokensFrom.eq_def]
    simp [text, isBlank_of_symbol? ht, ht, error?, token?]
  | numeral w =>
    obtain ⟨ne, numerals⟩ := formed
    obtain ⟨c, w, rfl⟩ := List.exists_cons_of_ne_nil ne
    obtain ⟨numeral, others⟩ := List.forall_mem_cons.1 numerals
    obtain ⟨blank, symbol⟩ := class_of_isNumeral numeral
    obtain ⟨left, right⟩ := span_run others ends
    obtain ⟨same, number⟩ := numeral?_eq numerals
    simp only [text, List.cons_append]
    rw [tokensFrom.eq_def]
    simp only [blank, Bool.false_eq_true, if_false, symbol, numeral, if_true, left, right, same,
      error?, token?]
    cases value : Decimal.number? (c :: w) with
    | none => simp [number.1 value]
    | some x =>
      have accepted : Decimal.IsNumber (c :: w) := by
        by_contra none
        rw [number.2 none] at value
        cases value
      simp [accepted]
  | name w =>
    obtain ⟨c, w, rfl, start, others⟩ := formed
    obtain ⟨blank, symbol, numeral⟩ := class_of_isNameStart start
    obtain ⟨left, right⟩ := span_run others ends
    simp only [text, List.cons_append]
    rw [tokensFrom.eq_def]
    simp [blank, symbol, numeral, start, left, right, error?, token?]
  | stray c =>
    obtain ⟨blank, symbol, numeral, start⟩ := formed
    rw [tokensFrom.eq_def]
    simp [text, blank, symbol, numeral, start, error?]

theorem tokensFrom_piece_eq_ok_iff (formed : p.IsFormed) (ends : p.Ends rest) {k : Nat}
    {ts : List Token} :
    tokensFrom k (p.text ++ rest) = .ok ts ↔
      p.IsAccepted ∧ ∃ us, tokensFrom (k + p.text.length) rest = .ok us ∧
      p.token?.toList ++ us = ts := by
  rw [tokensFrom_piece formed ends k, ← error?_eq_none_iff (k := k)]
  cases p.error? k with
  | some e => simp
  | none =>
    constructor
    · exact fun read => ⟨rfl, ok_of_map read⟩
    · rintro ⟨-, us, read, rfl⟩
      dsimp only
      rw [read]
      rfl

theorem filterMap_token?_cons (p : Piece) (ps : List Piece) :
    (p :: ps).filterMap token? = p.token?.toList ++ ps.filterMap token? := by
  rw [List.filterMap_cons]
  cases p.token? <;> rfl

end Piece

open Piece

/--
In a text that begins at `k` and has these pieces, `e`
is the error of the first one that is not accepted.
-/
def FirstError (k : Nat) (ps : List Piece) (e : TokenError) : Prop :=
  ∃ before p after, ps = before ++ p :: after ∧ (∀ q ∈ before, q.IsAccepted) ∧
    p.error? (k + (before.flatMap Piece.text).length) = some e

theorem firstError_cons_iff {k : Nat} {p : Piece} {ps : List Piece} {e : TokenError} :
    FirstError k (p :: ps) e ↔
    p.error? k = some e ∨ p.IsAccepted ∧ FirstError (k + p.text.length) ps e := by
  constructor
  · rintro ⟨before, q, after, split, accepted, error⟩
    cases before with
    | nil =>
      obtain ⟨rfl, rfl⟩ := List.cons.inj split
      exact .inl error
    | cons r before =>
      obtain ⟨rfl, rfl⟩ := List.cons.inj split
      obtain ⟨first, others⟩ := List.forall_mem_cons.1 accepted
      rw [List.flatMap_cons, List.length_append, ← Nat.add_assoc] at error
      exact .inr ⟨first, before, q, after, rfl, others, error⟩
  · rintro (error | ⟨first, before, q, after, rfl, others, error⟩)
    · exact ⟨[], p, ps, rfl, fun _ hq => absurd hq List.not_mem_nil, error⟩
    · refine ⟨p :: before, q, after, rfl, List.forall_mem_cons.2 ⟨first, others⟩, ?_⟩
      rwa [List.flatMap_cons, List.length_append, ← Nat.add_assoc]

namespace Splits

variable {p : Piece} {ps qs : List Piece} {cs : List Char}

theorem text (h : Splits cs ps) : ps.flatMap Piece.text = cs := by
  induction h with
  | nil => rfl
  | cons _ _ ih => rw [List.flatMap_cons, ih]

theorem unique (h : Splits cs ps) (h' : Splits cs qs) : ps = qs := by
  induction h generalizing qs with
  | nil =>
    generalize eq : [] = text at h'
    cases h' with
    | nil => rfl
    | cons leads _ => exact absurd (List.append_eq_nil_iff.1 eq.symm).1 leads.formed.ne_nil
  | @cons cs ps p leads _ ih =>
    obtain ⟨c, w, hw⟩ := List.exists_cons_of_ne_nil leads.formed.ne_nil
    generalize eq : p.text ++ cs = text at h'
    cases h' with
    | nil => exact absurd (List.append_eq_nil_iff.1 eq).1 leads.formed.ne_nil
    | @cons ds qs q leads' rest =>
      have head : c :: (w ++ cs) = p.text ++ cs := by rw [hw, List.cons_append]
      obtain rfl : p = q := (leads.eq_first head).trans (leads'.eq_first (head.trans eq)).symm
      rw [ih (List.append_cancel_left eq ▸ rest)]

theorem formed (h : Splits cs ps) : ∀ p ∈ ps, p.IsFormed := by
  induction h with
  | nil => exact fun p hp => absurd hp List.not_mem_nil
  | cons leads _ ih => exact List.forall_mem_cons.2 ⟨leads.formed, ih⟩

theorem tokensFrom_eq_ok_iff (h : Splits cs ps) {k : Nat} {ts : List Token} :
    tokensFrom k cs = .ok ts ↔ (∀ p ∈ ps, p.IsAccepted) ∧ ts = ps.filterMap Piece.token? := by
  induction h generalizing k ts with
  | nil => simp [tokensFrom, eq_comm]
  | cons leads _ ih =>
    rw [tokensFrom_piece_eq_ok_iff leads.formed leads.ends, List.forall_mem_cons,
      filterMap_token?_cons]
    constructor
    · rintro ⟨first, us, read, rfl⟩
      obtain ⟨accepted, rfl⟩ := ih.1 read
      exact ⟨⟨first, accepted⟩, rfl⟩
    · rintro ⟨⟨first, accepted⟩, rfl⟩
      exact ⟨first, _, ih.2 ⟨accepted, rfl⟩, rfl⟩

theorem tokensFrom_eq_error_iff (h : Splits cs ps) {k : Nat} {e : TokenError} :
    tokensFrom k cs = .error e ↔ FirstError k ps e := by
  induction h generalizing k with
  | nil => simp [tokensFrom, FirstError]
  | @cons cs ps p leads _ ih =>
    rw [tokensFrom_piece leads.formed leads.ends k, firstError_cons_iff,
      ← error?_eq_none_iff (k := k), ← ih]
    cases p.error? k with
    | some e' => simp
    | none => cases tokensFrom (k + p.text.length) cs <;> simp [Except.map]

theorem insert_blanks {before after : List Piece} (h : Splits cs (before ++ after)) {w : List Char}
    (blank : ∀ c ∈ w, isBlank c = true) {k k' : Nat} {ts : List Token} : tokensFrom k cs = .ok ts ↔
      tokensFrom k' (before.flatMap Piece.text ++ (w ++ after.flatMap Piece.text)) = .ok ts := by
  induction before generalizing cs k k' ts with
  | nil =>
    have whole : after.flatMap Piece.text = cs := h.text
    rw [whole, List.flatMap_nil, List.nil_append, tokensFrom_blanks blank]
    exact lexes_iff.symm.trans lexes_iff
  | cons p before ih =>
    rw [List.cons_append] at h
    cases h with
    | @cons cs _ _ leads rest =>
      have ends := leads.ends
      have text := rest.text
      rw [List.flatMap_append] at text
      have ends' := Ends.insert (text ▸ ends) blank
      rw [List.flatMap_cons, List.append_assoc, tokensFrom_piece_eq_ok_iff leads.formed ends,
        tokensFrom_piece_eq_ok_iff leads.formed ends']
      exact and_congr_right fun _ => exists_congr fun us => and_congr_left fun _ => ih rest

end Splits

theorem exists_splits (cs : List Char) : ∃ ps, Splits cs ps := by
  induction length : cs.length using Nat.strongRecOn generalizing cs with
  | ind k ih =>
    subst length
    cases cs with
    | nil => exact ⟨[], .nil⟩
    | cons c cs =>
      obtain ⟨rest, eq⟩ := text_first c cs
      have leads := leads_first eq
      have shorter : rest.length < (c :: cs).length := by
        have := List.length_pos_of_ne_nil leads.formed.ne_nil
        rw [eq, List.length_append]
        omega
      obtain ⟨ps, split⟩ := ih _ shorter rest rfl
      exact ⟨first c cs :: ps, eq ▸ .cons leads split⟩

end GameBalance.Formula
