import GameBalance.Proofs.Yaml.Block
import GameBalance.Yaml.Token

namespace GameBalance.Yaml

namespace Lexer

def Yields (l : Lexer) (ts : List Token) : Prop :=
  ∀ fuel, l.skipGap.rest.length < fuel → l.tokens fuel = some ts

def lineStart (rest : List Char) (indents : List Nat) : Lexer :=
  ⟨rest, 0, indents, 0, true⟩

section Gaps

variable {rest : List Char} {column : Nat} {indents : List Nat} {flow : Nat} {keyAllowed : Bool}

theorem Yields.congr {l m : Lexer} (h : m.Yields ts) (same : l.skipGap = m.skipGap) :
    l.Yields ts := by
  intro fuel enough
  have back := h fuel (same ▸ enough)
  cases fuel with
  | zero => cases back
  | succ fuel => simpa only [tokens, same] using back

theorem skipGap_text {c : Char} (blank : isBlank c = false) (unbroken : isBreak c = false)
    (comment : c ≠ '#') (cs : List Char) :
    (⟨c :: cs, column, indents, flow, keyAllowed⟩ : Lexer).skipGap =
      ⟨c :: cs, column, indents, flow, keyAllowed⟩ := by
  have tab : c ≠ '\t' := fun same => by
    subst same
    cases blank
  simp [skipGap, skip, unbroken, comment, tab, ne_space_of_isBlank blank]

theorem skipGap_space (cs : List Char) :
    (⟨' ' :: cs, column, indents, 0, keyAllowed⟩ : Lexer).skipGap =
    (⟨cs, column + 1, indents, 0, keyAllowed⟩ : Lexer).skipGap := by
  have unbroken : isBreak ' ' = false := rfl
  simp [skipGap, skip, unbroken]

theorem skipGap_newline (cs : List Char) :
    (⟨'\n' :: cs, column, indents, 0, keyAllowed⟩ : Lexer).skipGap =
    (lineStart cs indents).skipGap := by
  have broken : isBreak '\n' = true := rfl
  simp [lineStart, skipGap, skip, broken]

theorem skipGap_spaces (j : Nat) (cs : List Char) :
    (⟨spaces j ++ cs, column, indents, 0, keyAllowed⟩ : Lexer).skipGap =
    (⟨cs, column + j, indents, 0, keyAllowed⟩ : Lexer).skipGap := by
  induction j generalizing column with
  | zero => rfl
  | succ j ih =>
    rw [spaces, List.replicate_succ, List.cons_append, skipGap_space]
    exact ih.trans (by rw [Nat.add_right_comm, Nat.add_assoc])

theorem skipGap_outdents (outdents : Outdents k rest) :
    (⟨afterDepth rest, depthOf rest, indents, 0, true⟩ : Lexer).skipGap =
      (lineStart rest indents).skipGap ∧
      (lineStart rest indents).skipGap = ⟨afterDepth rest, depthOf rest, indents, 0, true⟩ := by
  cases outdents with
  | nil => exact ⟨rfl, rfl⟩
  | @line j c cs le blank unbroken comment =>
    obtain ⟨depth, after⟩ := depth_spaces j cs (ne_space_of_isBlank blank)
    have text : (lineStart (spaces j ++ c :: cs) indents).skipGap =
        ⟨c :: cs, j, indents, 0, true⟩ := by
      rw [lineStart, skipGap_spaces, skipGap_text blank unbroken comment, Nat.zero_add]
    rw [depth, after, text]
    exact ⟨skipGap_text blank unbroken comment cs, rfl⟩

end Gaps

theorem length_skip_le (inFlow inComment keyAllowed : Bool) (column : Nat) (cs : List Char) :
    (skip inFlow inComment keyAllowed column cs).2.2.length ≤ cs.length := by
  fun_induction skip inFlow inComment keyAllowed column cs with
  | case1 => exact Nat.le_refl _
  | case2 _ _ _ c cs _ ih => exact Nat.le_succ_of_le ih
  | case3 _ _ _ c cs _ _ ih => exact Nat.le_succ_of_le ih
  | case4 => exact Nat.le_succ_of_le ‹_›
  | case5 => exact Nat.le_refl _

theorem Yields.step {l l' : Lexer} (gap : l.skipGap = l) (closed : l.close = ([], l))
    (next : l.next = some (ts, l'))
    (shorter : l'.rest.length < l.rest.length) (h : l'.Yields more) : l.Yields (ts ++ more) := by
  intro fuel enough
  rw [gap] at enough
  obtain ⟨fuel, rfl⟩ := Nat.exists_eq_add_one_of_ne_zero (Nat.ne_zero_of_lt enough)
  have ne : l.rest.isEmpty = false := by
    rw [List.isEmpty_eq_false_iff]
    intro nil
    rw [nil] at shorter
    exact Nat.not_lt_zero _ shorter
  have within : l'.skipGap.rest.length < fuel := by
    have le : l'.skipGap.rest.length ≤ l'.rest.length := length_skip_le _ _ _ _ _
    omega
  rw [tokens, gap, closed]
  simp only [ne, Bool.false_eq_true, if_false, next, Option.bind_eq_bind, Option.bind_some,
    h fuel within, Option.pure_def, List.nil_append]

section Close

variable {rest : List Char} {column : Nat} {indents : List Nat} {keyAllowed : Bool}

theorem close_eq (h : ∀ i ∈ indents.head?, i ≤ column) :
    (⟨rest, column, indents, 0, keyAllowed⟩ : Lexer).close =
      ([], ⟨rest, column, indents, 0, keyAllowed⟩) := by
  cases indents with
  | nil => rfl
  | cons i indents =>
    have within : ¬column < i := Nat.not_lt.2 (h i rfl)
    simp [close, within]

theorem close_cons (deeper : column < i) :
    (⟨rest, column, i :: indents, 0, keyAllowed⟩ : Lexer).close =
    (.blockEnd :: (⟨rest, column, indents, 0, keyAllowed⟩ : Lexer).close.1,
      (⟨rest, column, indents, 0, keyAllowed⟩ : Lexer).close.2) := by
  simp [close, deeper]

theorem Yields.close (outdents : Outdents k rest) (hk : k < i)
    (h : (lineStart rest indents).Yields ts) :
    (lineStart rest (i :: indents)).Yields (.blockEnd :: ts) := by
  have deeper : depthOf rest < i := by
    refine Nat.lt_of_le_of_lt ?_ hk
    cases outdents with
    | nil => exact Nat.zero_le k
    | @line j c cs le blank _ _ =>
      rw [(depth_spaces j cs (ne_space_of_isBlank blank)).1]
      exact le
  -- the step that finds the tokens of the line closes this collection before all else
  intro fuel enough
  rw [(skipGap_outdents outdents).2] at enough
  have back := h fuel (by rwa [(skipGap_outdents outdents).2])
  obtain ⟨fuel, rfl⟩ := Nat.exists_eq_add_one_of_ne_zero (Nat.ne_zero_of_lt enough)
  simp only [tokens, (skipGap_outdents outdents).2, close_cons deeper] at back ⊢
  generalize (⟨afterDepth rest, depthOf rest, indents, 0, true⟩ : Lexer).close = closed at back ⊢
  split at back
  · rename_i ended
    split at back
    · rename_i flow
      rw [if_pos ended, if_pos flow, List.cons_append, Option.some.inj back]
    · cases back
  · rename_i goes
    simp only [Option.bind_eq_bind, Option.bind_eq_some_iff, Option.pure_def,
      Option.some.injEq] at back
    obtain ⟨⟨ts', l'⟩, next, more, rest', rfl⟩ := back
    simp only [goes, next, rest', Bool.false_eq_true, if_false, Option.bind_eq_bind,
      Option.bind_some, Option.pure_def, List.cons_append]

theorem yields_end (indents : List Nat) :
    (lineStart [] indents).Yields (indents.map fun _ => .blockEnd) := by
  intro fuel enough
  obtain ⟨fuel, rfl⟩ := Nat.exists_eq_add_one_of_ne_zero (Nat.ne_zero_of_lt enough)
  have ends : ((indents.takeWhile (0 < ·)).map fun _ => Token.blockEnd) ++
      (indents.drop (indents.takeWhile (0 < ·)).length).map (fun _ => Token.blockEnd) =
      indents.map fun _ => .blockEnd := by
    rw [← List.map_append, List.prefix_iff_eq_append.1 (List.takeWhile_prefix _)]
  simp only [tokens, Lexer.close, lineStart]
  exact congrArg some ends

end Close

def EndsPlain (tail : List Char) : Prop :=
  ∀ c ∈ tail.head?, c ≠ '-' ∧ c ≠ '.'

theorem eq_of_atMark {column : Nat} (h : atMark column cs = true) :
    ∃ c rest, (c = '-' ∨ c = '.') ∧ cs = c :: c :: c :: rest := by
  rw [atMark.eq_def] at h
  split at h
  · exact ⟨'-', _, .inl rfl, rfl⟩
  · exact ⟨'.', _, .inr rfl, rfl⟩
  · cases h

theorem atMark_append (h : beginsAsMark cs = false) (ne : cs ≠ []) (ends : EndsPlain tail)
    (column : Nat) :
    atMark column (cs ++ tail) = false := by
  refine Bool.eq_false_iff.2 fun mark => ?_
  obtain ⟨c, rest, hc, eq⟩ := eq_of_atMark mark
  have apart : tail.head? ≠ some c := fun head => by
    obtain ⟨dash, dot⟩ := ends c head
    exact hc.elim dash dot
  -- a mark of three characters begins in the tail unless the text has all of it
  obtain _ | ⟨a, _ | ⟨b, _ | ⟨d, cs⟩⟩⟩ := cs
  · exact ne rfl
  · rw [List.singleton_append, List.cons.injEq] at eq
    exact apart (by rw [eq.2, List.head?_cons])
  · rw [List.cons_append, List.singleton_append, List.cons.injEq, List.cons.injEq] at eq
    exact apart (by rw [eq.2.2, List.head?_cons])
  · simp only [List.cons_append, List.cons.injEq] at eq
    obtain ⟨rfl, rfl, rfl, -⟩ := eq
    obtain rfl | rfl := hc <;> cases h

section Plain

variable {c : Char} {cs : List Char} (plain : canBePlain (c :: cs) = true)
include plain

theorem ne_of_canBePlain :
    ∀ d ∈ ['#', ',', '[', ']', '\x7b', '\x7d', '&', '*', '!', '|', '>', '\'', '"', '%', '@',
      '\x60', ' '],
    c ≠ d := by
  simp only [canBePlain, isPlainStart, Bool.and_eq_true, Bool.not_eq_true'] at plain
  obtain ⟨⟨⟨⟨-, start, -⟩, -⟩, -⟩, -⟩ := plain
  intro d hd same
  rw [same, ← Bool.not_eq_true, List.contains_iff_mem] at start
  exact start hd

theorem endsWord_of_canBePlain (hc : c ∈ ['?', ':', '-']) (tail : List Char) :
    endsWord (cs ++ tail) = false := by
  have goes : endsWord cs = false := by
    simp only [canBePlain, isPlainStart, Bool.and_eq_true, Bool.not_eq_true',
      Bool.and_eq_false_iff] at plain
    obtain ⟨⟨⟨⟨-, -, word⟩, -⟩, -⟩, -⟩ := plain
    refine word.resolve_left fun other => ?_
    rw [← Bool.not_eq_true, List.contains_iff_mem] at other
    exact other hc
  rw [endsWord_append _ tail, goes]
  rintro rfl
  cases goes

theorem plain_text : isBlank c = false ∧ isBreak c = false ∧ c ≠ '#' := by
  have rest := PlainRest.of_canBePlain plain
  refine ⟨?_, rest.unbroken c List.mem_cons_self, ne_of_canBePlain plain _ (by decide)⟩
  rw [Bool.eq_false_iff, ne_eq, isBlank_of_isPrintable (rest.printable c List.mem_cons_self)]
  exact ne_of_canBePlain plain ' ' (by decide)

theorem isIndicator_of_canBePlain : isIndicator c = false := by
  have apart := ne_of_canBePlain plain
  simp only [List.forall_mem_cons] at apart
  simp [isIndicator, isFlowIndicator, apart]

theorem beginsPlain_of_canBePlain (tail : List Char) : beginsPlain false c (cs ++ tail) = true := by
  have within := endsWord_of_canBePlain plain
  rw [beginsPlain]
  split
  · rename_i mark
    rw [Bool.or_eq_true, decide_eq_true_eq, decide_eq_true_eq] at mark
    rw [within (by obtain rfl | rfl := mark <;> decide)]
    rfl
  · split
    · rename_i colon
      subst colon
      rw [within (by decide)]
      rfl
    · rw [isIndicator_of_canBePlain plain, (plain_text plain).1]
      rfl

end Plain

section Next

variable {l : Lexer} {cs tail : List Char}

theorem next_plain (plain : canBePlain cs = true) (flow : l.flow = 0) (text : l.rest = cs ++ tail)
    (ends : EndsPlain tail) :
    l.next = (plainText false l.margin .none l.column (cs ++ tail)).bind (l.takeScalar true) := by
  cases cs with
  | nil => cases plain
  | cons c cs =>
    have marks : beginsAsMark (c :: cs) = false := by
      simp only [canBePlain, Bool.and_eq_true, Bool.not_eq_true'] at plain
      exact plain.2
    have mark := atMark_append marks (List.cons_ne_nil c cs) ends l.column
    have apart := ne_of_canBePlain plain
    have begins := beginsPlain_of_canBePlain plain tail
    have dash : ¬(c = '-' ∧ endsWord (cs ++ tail) = true) := by
      rintro ⟨rfl, stops⟩
      rw [endsWord_of_canBePlain plain (by decide)] at stops
      cases stops
    simp only [List.forall_mem_cons] at apart
    rw [List.cons_append] at text mark ⊢
    simp only [next, text, mark, flow]
    simp [isFlowIndicator, apart, dash, begins]

theorem takeScalar_eq {s : Scanned} (alone : l.colon? s = none) (free : l.needsKey = false)
    (plain : Bool) :
    l.takeScalar plain s = some ([.scalar plain (.ofList s.text)],
      { l with rest := s.rest, column := s.column, keyAllowed := s.fresh }) := by
  rw [takeScalar, alone]
  simp [free]

theorem colon?_newline (l : Lexer) (text : List Char) (column : Nat) (oneLine fresh : Bool)
    (rest : List Char) :
    l.colon? ⟨text, '\n' :: rest, column, oneLine, fresh⟩ = none := by
  have blank : isBlank '\n' = false := rfl
  simp [colon?, blank]

theorem colon?_lines (l : Lexer) (text rest : List Char) (column : Nat) (fresh : Bool) :
    l.colon? ⟨text, rest, column, false, fresh⟩ = none := by
  rw [colon?]
  split <;> simp

end Next

section Scalar

variable {cs rest : List Char} {column : Nat} {indents : List Nat} {keyAllowed : Bool}

theorem margin_le (within : ∀ i ∈ indents.head?, i ≤ column) :
    (⟨cs, column, indents, 0, keyAllowed⟩ : Lexer).margin ≤ column + 1 := by
  cases indents with
  | nil => exact Nat.zero_le _
  | cons i indents => exact Nat.succ_le_succ (within i rfl)

theorem next_key (plain : canBePlain cs = true) (short : Text.bytes cs ≤ keyBound)
    (ends : endsWord rest = true)
    (within : ∀ i ∈ indents.head?, i ≤ column) {start : List Token} {indents' : List Nat}
    (opens : (⟨cs ++ ':' :: rest, column, indents, 0, true⟩ : Lexer).openAt .mappingStart column =
      (start, indents')) :
    (⟨cs ++ ':' :: rest, column, indents, 0, true⟩ : Lexer).next =
      some (start ++ [.key true (.ofList cs)],
        ⟨rest, column + cs.length + 1, indents', 0, false⟩) := by
  have apart : EndsPlain (':' :: rest) := fun c hc => by
    obtain rfl := Option.some.inj hc
    decide
  have scanned : (⟨cs ++ ':' :: rest, column, indents, 0, true⟩ : Lexer).colon?
      ⟨cs, ':' :: rest, column + cs.length, true, false⟩ = some (column + cs.length + 1, rest) := by
    have short : ¬Text.bytes (':' :: rest) + keyBound < Text.bytes (cs ++ ':' :: rest) := by
      rw [Text.bytes_append]
      omega
    have none : (':' :: rest).takeWhile isBlank = [] := List.takeWhile_cons_of_neg (by decide)
    have all : (':' :: rest).dropWhile isBlank = ':' :: rest :=
      List.dropWhile_cons_of_neg (by decide)
    simp only [colon?, none, all, ends, decide_eq_false short]
    rfl
  have inside : GoesOn (⟨cs ++ ':' :: rest, column, indents, 0, true⟩ : Lexer).margin column cs
      .none := margin_le within
  rw [next_plain plain rfl rfl apart]
  simp only [plainText_append (PlainRest.of_canBePlain plain) _ _ inside, plainText_colon _ _ ends,
    Option.map_some, Option.bind_some, Scanned.prepend, Gap.text, List.nil_append, List.append_nil,
    Bool.and_self, takeScalar, scanned, opens]

def TakesScalar (l : Lexer) (plain : Bool) (cs rest : List Char) : Prop :=
  ∃ l', l.next = some ([.scalar plain (.ofList cs)], l') ∧ l'.rest.length < l.rest.length ∧
    l'.skipGap = (lineStart rest l.indents).skipGap

section Takes

variable (outdents : Outdents m rest) (deeper : m < column)

include deeper

theorem free_of_deeper (text : List Char) :
    (⟨text, column, m :: indents, 0, keyAllowed⟩ : Lexer).needsKey = false := by
  simp [needsKey, Nat.ne_of_lt deeper]

include outdents

theorem takes_plain (plain : canBePlain cs = true) :
    (⟨cs ++ '\n' :: rest, column, m :: indents, 0, keyAllowed⟩ : Lexer).TakesScalar true
      cs rest := by
  have apart : EndsPlain ('\n' :: rest) := fun c hc => by
    obtain rfl := Option.some.inj hc
    decide
  have inside : GoesOn (m + 1) column cs .none := Nat.succ_le_succ (Nat.le_of_lt deeper)
  have fewer : (afterDepth rest).length ≤ rest.length := (List.dropWhile_sublist _).length_le
  refine ⟨⟨afterDepth rest, depthOf rest, m :: indents, 0, true⟩, ?_, ?_,
    (skipGap_outdents outdents).1⟩
  · rw [next_plain plain rfl rfl apart]
    simp only [margin, plainText_append (PlainRest.of_canBePlain plain) _ _ inside,
      plainText_newline _ outdents (Nat.lt_succ_self m), Option.map_some, Option.bind_some,
      Scanned.prepend, Gap.text,
      List.nil_append, List.append_nil, Bool.and_true]
    rw [takeScalar_eq (colon?_lines _ _ _ _ _) (free_of_deeper deeper _)]
  · simp only [List.length_append, List.length_cons]
    omega

omit deeper in
theorem takes_literal (broken : '\n' ∈ cs) (literal : canBeLiteral cs = true) :
    (⟨'|' :: (depthMark cs ++ chompMark cs ++ '\n' :: (literalLines (m + 2) true cs ++ rest)),
      column, m :: indents, 0,
      keyAllowed⟩ : Lexer).TakesScalar false cs rest := by
  have fewer : (afterDepth rest).length ≤ rest.length := (List.dropWhile_sublist _).length_le
  refine ⟨⟨afterDepth rest, depthOf rest, m :: indents, 0, true⟩, ?_, ?_,
    (skipGap_outdents outdents).1⟩
  · have scanned :=
      blockScalar?_literal m broken (isPrintable_of_canBeLiteral literal) outdents (Nat.le_refl m)
    rw [List.append_assoc] at scanned
    simp [next, atMark, isFlowIndicator, margin, scanned]
  · simp only [List.length_append, List.length_cons]
    omega

omit outdents in
theorem takes_single (oneLine : '\n' ∉ cs) (single : canBeSingleQuoted cs = true) :
    (⟨'\'' :: (singleQuoted (m + 2) false cs ++ '\n' :: rest), column, m :: indents, 0,
      keyAllowed⟩ : Lexer).TakesScalar
      false cs rest := by
  have inner : SingleRest cs := .of_canBeSingleQuoted single oneLine
  have inside : Continues false (column + 1) cs .none := ⟨rfl, Nat.succ_pos column⟩
  have pos : 0 < m + 2 := Nat.succ_pos (m + 1)
  have ends : ('\n' :: rest).head? ≠ some '\'' := by simp
  obtain ⟨column', oneLine, scanned⟩ :=
    singleText_singleQuoted inner .none false (column + 1) inside pos ends
  refine ⟨⟨'\n' :: rest, column', m :: indents, 0, false⟩, ?_, ?_, skipGap_newline rest⟩
  · simp only [next, atMark, isFlowIndicator]
    simp [scanned, takeScalar_eq (colon?_newline _ _ _ _ _ _) (free_of_deeper deeper _), Gap.text]
  · simp only [List.length_append, List.length_cons]
    omega

omit outdents in
theorem takes_double :
    (⟨'"' :: (cs.flatMap escaped ++ '"' :: '\n' :: rest), column, m :: indents, 0, keyAllowed⟩ :
      Lexer).TakesScalar
    false cs rest := by
  have pos : 0 < column + 1 := Nat.succ_pos column
  have unbroken : Gap.none.isBroken = false := rfl
  obtain ⟨column', scanned⟩ := doubleText_doubleQuoted cs unbroken pos ('\n' :: rest)
  refine ⟨⟨'\n' :: rest, column', m :: indents, 0, false⟩, ?_, ?_, skipGap_newline rest⟩
  · simp only [next, atMark, isFlowIndicator]
    simp [scanned, takeScalar_eq (colon?_newline _ _ _ _ _ _) (free_of_deeper deeper _), Gap.text]
  · simp only [List.length_append, List.length_cons]
    omega

theorem takes_scalarText {plain : Bool} {text : String}
    (canBe : plain = true → canBePlain text.toList = true) :
    (⟨scalarText (m + 2) plain text ++ rest, column, m :: indents, 0, keyAllowed⟩ :
      Lexer).TakesScalar plain text.toList
      rest := by
  rw [scalarText]
  split
  · rename_i isPlain
    subst isPlain
    rw [List.append_assoc, List.singleton_append]
    exact takes_plain outdents deeper (canBe rfl)
  · rename_i quoted
    rw [Bool.eq_false_iff.2 quoted]
    split
    · rename_i literal
      simp only [List.cons_append, List.append_assoc]
      rw [← List.append_assoc]
      exact takes_literal outdents literal.1 literal.2
    · split
      · rename_i single
        simp only [List.cons_append, List.append_assoc, List.nil_append]
        exact takes_single deeper single.1 single.2
      · simp only [doubleQuoted, List.cons_append, List.append_assoc, List.nil_append]
        exact takes_double deeper

end Takes

end Scalar

end Lexer

end GameBalance.Yaml
