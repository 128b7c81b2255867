import GameBalance.Proofs.Formula.Replacement
import GameBalance.Proofs.Formula.Soundness

namespace GameBalance.Formula

open Text Grammar

def Stops (p : Char → Bool) (rest : List Char) : Prop :=
  ∀ c ∈ rest.head?, p c = false

inductive Lexes : List Char → List Token → Prop
  | nil : Lexes [] []
  | blank : isBlank c = true → Lexes cs ts → Lexes (c :: cs) ts
  | symbol : symbol? c = some t → Lexes cs ts → Lexes (c :: cs) (t :: ts)
  | number : run ≠ [] → (∀ c ∈ run, isNumeral c = true) → Decimal.numeral? run = some x →
      Stops isNumeral rest →
      Lexes rest ts → Lexes (run ++ rest) (.number x :: ts)
  | name : IsName w → Stops isNamePart rest → Lexes rest ts →
      Lexes (w ++ rest) (.identifier (.ofList w) :: ts)

theorem span_run {p : Char → Bool} {run rest : List Char} (hp : ∀ c ∈ run, p c = true)
    (hr : Stops p rest) :
    (run ++ rest).takeWhile p = run ∧ (run ++ rest).dropWhile p = rest := by
  rw [List.takeWhile_append_of_pos hp, List.dropWhile_append_of_pos hp]
  cases rest with
  | nil => simp
  | cons c cs => simp [hr c rfl]

theorem stops_dropWhile (p : Char → Bool) (cs : List Char) : Stops p (cs.dropWhile p) := by
  intro c hc
  have h := List.head?_dropWhile_not p cs
  rw [Option.mem_def.1 hc] at h
  exact h

theorem toNat_lt_of_isNumeral {c : Char} (h : isNumeral c = true) : c.toNat < 128 := by
  simp only [isNumeral, Bool.or_eq_true, decide_eq_true_eq] at h
  obtain h | rfl := h
  · exact toNat_lt_of_isNamePart (isNamePart_of_isDigit h)
  · decide

theorem classes_apart : ∀ c : Char, c.toNat < 128 →
    (isNumeral c = true → isBlank c = false ∧ (symbol? c).isNone = true) ∧
    (isNameStart c = true → isBlank c = false ∧ (symbol? c).isNone = true ∧ isNumeral c = false) ∧
    (isBlank c = true → isWord c = false) :=
  ascii_cases (by decide +kernel)

theorem class_of_isNumeral {c : Char} (h : isNumeral c = true) :
    isBlank c = false ∧ symbol? c = none := by
  obtain ⟨blank, symbol⟩ := (classes_apart c (toNat_lt_of_isNumeral h)).1 h
  exact ⟨blank, Option.isNone_iff_eq_none.1 symbol⟩

theorem class_of_isNameStart {c : Char} (h : isNameStart c = true) :
    isBlank c = false ∧ symbol? c = none ∧ isNumeral c = false := by
  obtain ⟨blank, symbol, numeral⟩ :=
    (classes_apart c (toNat_lt_of_isNamePart (isNamePart_of_isNameStart h))).2.1 h
  exact ⟨blank, Option.isNone_iff_eq_none.1 symbol, numeral⟩

theorem symbol?_cases (h : symbol? c = some t) : c ∈ ['(', ')', ',', '+', '-', '*', '/', '^'] := by
  unfold symbol? at h
  split at h
  · simp
  · simp
  · simp
  · unfold Operator.ofChar? at h
    split at h <;> simp at h ⊢

theorem isBlank_of_symbol? (h : symbol? c = some t) : isBlank c = false := by
  have none : ['(', ')', ',', '+', '-', '*', '/', '^'].any isBlank = false := by decide
  exact Bool.eq_false_iff.2 (List.any_eq_false.1 none c (symbol?_cases h))

theorem isWord_of_symbol? (h : symbol? c = some t) : isWord c = false := by
  have none : ['(', ')', ',', '+', '-', '*', '/', '^'].any isWord = false := by decide
  exact Bool.eq_false_iff.2 (List.any_eq_false.1 none c (symbol?_cases h))

theorem wordRanges_blank :
    ∀ row ∈ wordRanges, 0xA0 < row.1 ∧
      (row.2 < 0x1680 ∨ 0x1680 < row.1 ∧ row.2 < 0x2000 ∨ 0x200A < row.1 ∧ row.2 < 0x2028 ∨
        0x2029 < row.1 ∧ row.2 < 0x202F ∨ 0x202F < row.1 ∧ row.2 < 0x205F ∨
        0x205F < row.1 ∧ row.2 < 0x3000 ∨ 0x3000 < row.1) := by
  decide +kernel

theorem isWord_of_isBlank {c : Char} (h : isBlank c = true) : isWord c = false := by
  by_cases hc : c.toNat < 128
  · exact (classes_apart c hc).2.2 h
  · have beyond : isWord c = inRanges wordRanges c.toNat := if_neg hc
    refine beyond.trans (List.any_eq_false.2 fun row mem => ?_)
    have clear := wordRanges_blank row mem
    simp only [isBlank, Bool.or_eq_true, Bool.and_eq_true, decide_eq_true_eq] at h ⊢
    omega

theorem tokensFrom_of_lexes (h : Lexes cs ts) (p : Nat) : tokensFrom p cs = .ok ts := by
  induction h generalizing p with
  | nil => rw [tokensFrom.eq_def]
  | blank hc _ ih =>
    rw [tokensFrom.eq_def]
    simp only [hc, if_true, ih]
  | symbol hc _ ih =>
    rw [tokensFrom.eq_def]
    simp only [isBlank_of_symbol? hc, Bool.false_eq_true, if_false, hc, ih]
    rfl
  | @number run x rest ts ne hrun hx hr _ ih =>
    obtain ⟨c, run, rfl⟩ := List.exists_cons_of_ne_nil ne
    obtain ⟨blank, symbol⟩ := class_of_isNumeral (hrun c List.mem_cons_self)
    obtain ⟨left, right⟩ := span_run (fun d hd => hrun d (List.mem_cons_of_mem _ hd)) hr
    rw [List.cons_append, tokensFrom.eq_def]
    simp only [blank, Bool.false_eq_true, if_false, symbol, hrun c List.mem_cons_self, if_true,
      left, right, hx, ih]
    rfl
  | @name w rest ts hw hr _ ih =>
    obtain ⟨c, run, rfl, start, part⟩ := hw
    obtain ⟨blank, symbol, numeral⟩ := class_of_isNameStart start
    obtain ⟨left, right⟩ := span_run part hr
    rw [List.cons_append, tokensFrom.eq_def]
    simp only [blank, symbol, numeral, Bool.false_eq_true, if_false, start, if_true,
      left, right, ih]
    rfl

theorem lexes_of_tokensFrom (h : tokensFrom p cs = .ok ts) : Lexes cs ts := by
  fun_induction tokensFrom p cs generalizing ts with
  | case1 =>
    cases h
    exact .nil
  | case2 p c cs blank ih => exact .blank blank (ih h)
  | case3 p c cs blank t symbol ih =>
    obtain ⟨us, hus, rfl⟩ := ok_of_map h
    exact .symbol symbol (ih hus)
  | case4 p c cs blank symbol numeral run x hx =>
    rename_i ih
    obtain ⟨us, hus, rfl⟩ := ok_of_map h
    have digits : ∀ d ∈ c :: cs.takeWhile isNumeral, isNumeral d = true :=
      List.forall_mem_cons.2 ⟨numeral, List.all_eq_true.1 List.all_takeWhile⟩
    have lexes :=
      Lexes.number (List.cons_ne_nil _ _) digits hx (stops_dropWhile isNumeral cs) (ih hus)
    rwa [List.cons_append, List.takeWhile_append_dropWhile] at lexes
  | case5 => cases h
  | case6 p c cs blank symbol numeral start run =>
    rename_i ih
    obtain ⟨us, hus, rfl⟩ := ok_of_map h
    have name : IsName (c :: cs.takeWhile isNamePart) :=
      ⟨c, _, rfl, start, List.all_eq_true.1 List.all_takeWhile⟩
    have lexes := Lexes.name name (stops_dropWhile isNamePart cs) (ih hus)
    rwa [List.cons_append, List.takeWhile_append_dropWhile] at lexes
  | case7 => cases h

theorem lexes_iff : Lexes cs ts ↔ tokensFrom p cs = .ok ts :=
  ⟨fun h => tokensFrom_of_lexes h p, lexes_of_tokensFrom⟩

namespace Lexes

theorem unique (h : Lexes cs ts) (h' : Lexes cs us) : ts = us :=
  Except.ok.inj ((tokensFrom_of_lexes h 0).symm.trans (tokensFrom_of_lexes h' 0))

theorem of_blank (hc : isBlank c = true) (h : Lexes (c :: cs) ts) : Lexes cs ts := by
  have read := tokensFrom_of_lexes h 0
  rw [tokensFrom.eq_def] at read
  simp only [hc, if_true] at read
  exact lexes_of_tokensFrom read

theorem of_symbol (hc : symbol? c = some t) (h : Lexes (c :: cs) ts) :
    ∃ us, ts = t :: us ∧ Lexes cs us := by
  have read := tokensFrom_of_lexes h 0
  rw [tokensFrom.eq_def] at read
  simp only [isBlank_of_symbol? hc, Bool.false_eq_true, if_false, hc] at read
  obtain ⟨us, left, rfl⟩ := ok_of_map read
  exact ⟨us, rfl, lexes_of_tokensFrom left⟩

theorem of_number {run rest : List Char} (ne : run ≠ []) (hrun : ∀ c ∈ run, isNumeral c = true)
    (hr : Stops isNumeral rest) (h : Lexes (run ++ rest) ts) :
    ∃ x us, ts = .number x :: us ∧ Decimal.numeral? run = some x ∧ Lexes rest us := by
  have read := tokensFrom_of_lexes h 0
  obtain ⟨c, run, rfl⟩ := List.exists_cons_of_ne_nil ne
  obtain ⟨blank, symbol⟩ := class_of_isNumeral (hrun c List.mem_cons_self)
  obtain ⟨left, right⟩ := span_run (fun d hd => hrun d (List.mem_cons_of_mem _ hd)) hr
  rw [List.cons_append, tokensFrom.eq_def] at read
  simp only [blank, Bool.false_eq_true, if_false, symbol, hrun c List.mem_cons_self, if_true, left,
    right] at read
  cases value : Decimal.numeral? (c :: run) with
  | none =>
    rw [value] at read
    cases read
  | some x =>
    rw [value] at read
    obtain ⟨us, left, rfl⟩ := ok_of_map read
    exact ⟨x, us, rfl, rfl, lexes_of_tokensFrom left⟩

theorem of_name {w rest : List Char} (hw : IsName w) (hr : Stops isNamePart rest)
    (h : Lexes (w ++ rest) ts) :
    ∃ us, ts = .identifier (.ofList w) :: us ∧ Lexes rest us := by
  have read := tokensFrom_of_lexes h 0
  obtain ⟨c, run, rfl, start, part⟩ := hw
  obtain ⟨blank, symbol, numeral⟩ := class_of_isNameStart start
  obtain ⟨left, right⟩ := span_run part hr
  rw [List.cons_append, tokensFrom.eq_def] at read
  simp only [blank, symbol, numeral, Bool.false_eq_true, if_false, start, if_true, left,
    right] at read
  obtain ⟨us, left, rfl⟩ := ok_of_map read
  exact ⟨us, rfl, lexes_of_tokensFrom left⟩

theorem head (h : Lexes (c :: cs) ts) :
    isBlank c = true ∨ (∃ t, symbol? c = some t) ∨ isNumeral c = true ∨ isNameStart c = true := by
  generalize eq : c :: cs = text at h
  cases h with
  | nil => cases eq
  | blank hc _ =>
    cases eq
    exact .inl hc
  | symbol hc _ =>
    cases eq
    exact .inr (.inl ⟨_, hc⟩)
  | number ne hrun _ _ _ =>
    obtain ⟨d, run, rfl⟩ := List.exists_cons_of_ne_nil ne
    cases eq
    exact .inr (.inr (.inl (hrun c List.mem_cons_self)))
  | name hw _ _ =>
    obtain ⟨d, run, rfl, start, -⟩ := hw
    cases eq
    exact .inr (.inr (.inr start))

end Lexes

end GameBalance.Formula
