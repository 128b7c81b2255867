import GameBalance.Proofs.Text.Hex
import GameBalance.Yaml.Scalar
import GameBalance.Yaml.Writer
import Mathlib.Data.List.Basic

namespace GameBalance.Yaml

section Scanned

variable (s : Scanned)

@[simp] theorem Scanned.prepend_nil : s.prepend [] true = s := by
  simp [prepend]

@[simp] theorem Scanned.prepend_prepend (cs ds : List Char) (o p : Bool) :
    (s.prepend cs o).prepend ds p = s.prepend (ds ++ cs) (o && p) := by
  simp [prepend, Bool.and_assoc]

end Scanned

theorem isBlank_of_isPrintable (h : isPrintable c = true) : isBlank c = true ↔ c = ' ' := by
  have tab : c ≠ '\t' := fun same => by
    subst same
    cases h
  simp [isBlank, tab]

theorem endsWord_append (ne : cs ≠ []) (ds : List Char) : endsWord (cs ++ ds) = endsWord cs := by
  obtain ⟨c, cs, rfl⟩ := List.exists_cons_of_ne_nil ne
  rfl

def depthOf (cs : List Char) : Nat :=
  (cs.takeWhile (· = ' ')).length

def afterDepth (cs : List Char) : List Char :=
  cs.dropWhile (· = ' ')

inductive Outdents (k : Nat) : List Char → Prop
  | nil : Outdents k []
  | line {j : Nat} {c : Char} (cs : List Char) (le : j ≤ k) (blank : isBlank c = false)
      (unbroken : isBreak c = false)
    (comment : c ≠ '#') : Outdents k (spaces j ++ c :: cs)

theorem Outdents.mono (h : Outdents j cs) (le : j ≤ k) : Outdents k cs := by
  cases h with
  | nil => exact .nil
  | line cs le' blank unbroken comment =>
    exact .line cs (Nat.le_trans le' le) blank unbroken comment

theorem ne_space_of_isBlank (h : isBlank c = false) : c ≠ ' ' := fun same => by
  subst same
  cases h

theorem depth_spaces (j : Nat) {c : Char} (cs : List Char) (h : c ≠ ' ') :
    depthOf (spaces j ++ c :: cs) = j ∧ afterDepth (spaces j ++ c :: cs) = c :: cs := by
  have all : ∀ d ∈ spaces j, decide (d = ' ') = true :=
    fun d hd => decide_eq_true (List.mem_replicate.1 hd).2
  constructor
  · rw [depthOf, List.takeWhile_append_of_pos all]
    simp [h, spaces]
  · rw [afterDepth, List.dropWhile_append_of_pos all]
    simp [h]

structure PlainRest (cs : List Char) : Prop where
  printable : ∀ c ∈ cs, isPrintable c = true
  unbroken : ∀ c ∈ cs, isBreak c = false
  rest : isPlainRest cs = true
  last : cs.getLast? ≠ some ' '

theorem PlainRest.tail (h : PlainRest (c :: cs)) : PlainRest cs where
  printable d hd := h.printable d (List.mem_cons_of_mem c hd)
  unbroken d hd := h.unbroken d (List.mem_cons_of_mem c hd)
  rest := by
    have rest := h.rest
    rw [isPlainRest, Bool.and_eq_true] at rest
    exact rest.2
  last := by
    cases cs with
    | nil => simp
    | cons d ds => simpa using h.last

theorem PlainRest.of_canBePlain (h : canBePlain cs = true) : PlainRest cs := by
  cases cs with
  | nil => cases h
  | cons c cs =>
    simp only [canBePlain, Bool.and_eq_true, decide_eq_true_eq] at h
    obtain ⟨⟨⟨⟨chars, start⟩, rest⟩, last⟩, -⟩ := h
    have chars := List.all_eq_true.1 chars
    simp only [isPlainStart, Bool.and_eq_true, Bool.not_eq_true'] at start
    refine ⟨fun d hd => ?_, fun d hd => ?_, ?_, last⟩
    · have both := chars d hd
      rw [Bool.and_eq_true] at both
      exact both.1
    · have both := chars d hd
      rw [Bool.and_eq_true, Bool.not_eq_true'] at both
      exact both.2
    · have colon : (c = ':' && endsWord cs) = false := by
        by_cases same : c = ':'
        · subst same
          exact start.2
        · simp [same]
      have space : c ≠ ' ' := fun same => by
        subst same
        exact absurd start.1 (by decide)
      simp [isPlainRest, colon, space, rest]

/-- Where a plain scalar goes on: after a character of it, or after blanks that are not its last. -/
def GoesOn (margin column : Nat) (cs : List Char) : Gap → Prop
  | .none => margin ≤ column + 1
  | .blanks _ => cs ≠ [] ∧ cs.head? ≠ some '#' ∧ margin ≤ column ∧ 0 < column
  | _ => False

theorem plainText_space (margin : Nat) (gap : Gap) (column : Nat) (cs : List Char) :
    plainText false margin gap column (' ' :: cs) =
      plainText false margin (gap.addBlank ' ') (column + 1) cs := by
  have blank : isBlank ' ' = true := rfl
  have tab : ' ' ≠ '\t' := by decide
  rw [plainText, if_pos blank, decide_eq_false tab, Bool.and_false, if_neg Bool.false_ne_true]

theorem plainText_char {gap : Gap} (blank : isBlank c = false) (unbroken : isBreak c = false)
    (stays : (gap ≠ .none && endsLine false margin column c cs) = false)
    (ends : endsPlain false c cs = false)
    (broken : gap.isBroken = false) : plainText false margin gap column (c :: cs) =
      (plainText false margin .none (column + 1) cs).map (·.prepend (gap.text ++ [c]) true) := by
  rw [plainText, blank, if_neg Bool.false_ne_true, unbroken, if_neg Bool.false_ne_true, stays, ends,
    Bool.false_or, if_neg Bool.false_ne_true, strayColon, Bool.false_and, Bool.false_and,
    if_neg Bool.false_ne_true, broken]
  rfl

theorem PlainRest.endsPlain_append (h : PlainRest (c :: cs)) (tail : List Char) :
    endsPlain false c (cs ++ tail) = false := by
  have rest := h.rest
  rw [isPlainRest, Bool.and_eq_true, Bool.and_eq_true, Bool.not_eq_true'] at rest
  obtain ⟨⟨colon, -⟩, -⟩ := rest
  rw [endsPlain, Bool.false_and, Bool.or_false]
  cases cs with
  | nil =>
    have apart : c ≠ ':' := fun same => by
      subst same
      cases colon
    simp [apart]
  | cons d ds => exact colon

namespace GoesOn

theorem addBlank (h : GoesOn margin column (' ' :: cs) gap) (rest : PlainRest (' ' :: cs)) :
    (gap.addBlank ' ').text = gap.text ++ [' '] ∧
    GoesOn margin (column + 1) cs (gap.addBlank ' ') := by
  have more : cs ≠ [] := fun nil => by
    have last := rest.last
    rw [nil] at last
    exact last rfl
  have hash : cs.head? ≠ some '#' := by
    have comment := rest.rest
    rw [isPlainRest, Bool.and_eq_true, Bool.and_eq_true, Bool.not_eq_true',
      Bool.not_eq_true'] at comment
    simpa using comment.1.2
  cases gap with
  | none => exact ⟨rfl, more, hash, h, Nat.succ_pos _⟩
  | blanks bs => exact ⟨rfl, more, hash, Nat.le_succ_of_le h.2.2.1, Nat.succ_pos _⟩
  | breaks bs => cases h
  | joined bs => cases h

theorem isBroken (h : GoesOn margin column cs gap) : gap.isBroken = false := by
  cases gap with
  | none | blanks => rfl
  | breaks | joined => cases h

theorem stays (h : GoesOn margin column (c :: cs) gap) (tail : List Char) :
    (gap ≠ .none && endsLine false margin column c tail) = false := by
  cases gap with
  | none => rfl
  | blanks bs =>
    obtain ⟨-, hash, within, pos⟩ := h
    have hash : c ≠ '#' := by simpa using hash
    have mark : atMark column (c :: tail) = false := by
      rw [atMark.eq_def]
      split <;> simp [Nat.ne_of_gt pos]
    simp [endsLine, hash, mark, within]
  | breaks bs => cases h
  | joined bs => cases h

theorem next (h : GoesOn margin column cs gap) (rest : List Char) :
    GoesOn margin (column + 1) rest .none := by
  cases gap with
  | none => exact Nat.le_succ_of_le h
  | blanks bs => exact Nat.le_trans h.2.2.1 (by omega)
  | breaks bs => cases h
  | joined bs => cases h

end GoesOn

theorem plainText_append (h : PlainRest cs) (gap : Gap) (column : Nat)
    (inside : GoesOn margin column cs gap)
    (tail : List Char) : plainText false margin gap column (cs ++ tail) =
      (plainText false margin .none (column + cs.length) tail).map
        (·.prepend (gap.text ++ cs) true) := by
  induction cs generalizing gap column with
  | nil =>
    cases gap with
    | none => simp [Gap.text]
    | blanks bs => exact absurd rfl inside.1
    | breaks bs => cases inside
    | joined bs => cases inside
  | cons c cs ih =>
    have length : column + (c :: cs).length = column + 1 + cs.length := by
      rw [List.length_cons]
      omega
    rw [List.cons_append, length]
    by_cases space : c = ' '
    · subst space
      obtain ⟨text, inside'⟩ := inside.addBlank h
      rw [plainText_space, ih h.tail _ _ inside', text, List.append_assoc, List.singleton_append]
    · have blank : isBlank c = false := by
        rw [Bool.eq_false_iff, ne_eq, isBlank_of_isPrintable (h.printable c List.mem_cons_self)]
        exact space
      rw [plainText_char blank (h.unbroken c List.mem_cons_self) (inside.stays _)
        (h.endsPlain_append tail) inside.isBroken, ih h.tail _ _ (inside.next cs), Option.map_map]
      simp [Function.comp_def, Gap.text]

theorem plainText_colon (margin column : Nat) (h : endsWord cs = true) :
    plainText false margin .none column (':' :: cs) =
      some ⟨[], ':' :: cs, column, true, false⟩ := by
  simp [plainText, isBlank, isBreak, endsPlain, h, Gap.isBroken]

theorem plainText_spaces (margin : Nat) (bs : List Char) (column j : Nat) (cs : List Char) :
    plainText false margin (.breaks bs) column (spaces j ++ cs) =
      plainText false margin (.breaks bs) (column + j) cs := by
  induction j generalizing column with
  | zero => rfl
  | succ j ih =>
    rw [spaces, List.replicate_succ, List.cons_append, plainText_space]
    exact (ih (column + 1)).trans (by rw [Nat.add_right_comm, Nat.add_assoc])

theorem plainText_newline (column : Nat) (h : Outdents k rest) (hk : k < margin) :
    plainText false margin .none column ('\n' :: rest) =
      some ⟨[], afterDepth rest, depthOf rest, false, true⟩ := by
  have broken : plainText false margin .none column ('\n' :: rest) =
      plainText false margin (.breaks ['\n']) 0 rest := by
    have blank : isBlank '\n' = false := rfl
    have unbroken : isBreak '\n' = true := rfl
    rw [plainText, blank, if_neg Bool.false_ne_true, if_pos unbroken]
    rfl
  rw [broken]
  cases h with
  | nil => rfl
  | @line j c cs le blank unbroken comment =>
    obtain ⟨depth, after⟩ := depth_spaces j cs (ne_space_of_isBlank blank)
    have less : j < margin := Nat.lt_of_le_of_lt le hk
    rw [plainText_spaces, depth, after, plainText, blank, unbroken, if_neg Bool.false_ne_true,
      if_neg Bool.false_ne_true]
    simp [endsLine, less, Gap.isBroken]

def Continues (afterBreak : Bool) (column : Nat) (cs : List Char) : Gap → Prop
  | .none => afterBreak = false ∧ 0 < column
  | .blanks _ => afterBreak = false ∧ 0 < column ∧ ∀ c ∈ cs.head?, isBreak c = false
  | .breaks bs => afterBreak = true ∧ '\n' ∉ bs ∧ cs.head? ≠ some ' '
  | .joined _ => False

section Single

variable (gap : Gap) (column : Nat) (cs : List Char)

theorem singleText_space :
    singleText gap column (' ' :: cs) = singleText (gap.addBlank ' ') (column + 1) cs := by
  have blank : isBlank ' ' = true := rfl
  rw [singleText.eq_4 _ _ _ _ (by simp) (by simp), if_pos blank]

theorem singleText_break (h : isBreak c = true) :
    singleText gap column (c :: cs) = singleText (gap.addBreak c) 0 cs := by
  have quote : c ≠ '\'' := fun same => by
    subst same
    cases h
  have blank : isBlank c = false := by
    rw [Bool.eq_false_iff]
    intro blank
    obtain rfl | rfl : c = ' ' ∨ c = '\t' := by simpa [isBlank] using blank
    · cases h
    · cases h
  rw [singleText.eq_4 _ _ _ _ (fun _ same => absurd same quote) quote, blank,
    if_neg Bool.false_ne_true, if_pos h]

theorem singleText_char (quote : c ≠ '\'') (blank : isBlank c = false)
    (unbroken : isBreak c = false) (pos : 0 < column) :
    singleText gap column (c :: cs) =
      (singleText .none (column + 1) cs).map (·.prepend (gap.text ++ [c]) !gap.isBroken) := by
  have mark : atMark column (c :: cs) = false := by
    rw [atMark.eq_def]
    split <;> simp [Nat.ne_of_gt pos]
  rw [singleText.eq_4 _ _ _ _ (fun _ same => absurd same quote) quote, blank,
    if_neg Bool.false_ne_true, unbroken, if_neg Bool.false_ne_true, mark, if_neg Bool.false_ne_true]

theorem singleText_spaces (bs : List Char) (j : Nat) :
    singleText (.breaks bs) column (spaces j ++ cs) = singleText (.breaks bs) (column + j) cs := by
  induction j generalizing column with
  | zero => rfl
  | succ j ih =>
    rw [spaces, List.replicate_succ, List.cons_append, singleText_space]
    exact (ih (column + 1)).trans (by rw [Nat.add_right_comm, Nat.add_assoc])

end Single

theorem folded_eq (h : '\n' ∉ bs) : Gap.folded bs = bs := by
  cases bs with
  | nil => rfl
  | cons b bs =>
    have apart : b ≠ '\n' := fun same => h (same ▸ List.mem_cons_self)
    rw [Gap.folded.eq_3]
    · exact fun same => absurd (List.cons.inj same).1 apart
    · exact fun _ same => absurd (List.cons.inj same).1 apart

structure SingleRest (cs : List Char) : Prop where
  printable : ∀ c ∈ cs, isPrintable c = true
  oneLine : '\n' ∉ cs
  before : anyPair spaceThenBreak cs = false
  after : anyPair breakThenSpace cs = false

theorem SingleRest.of_canBeSingleQuoted (h : canBeSingleQuoted cs = true) (oneLine : '\n' ∉ cs) :
    SingleRest cs := by
  rw [canBeSingleQuoted, Bool.and_eq_true, Bool.and_eq_true, Bool.not_eq_true',
    Bool.not_eq_true'] at h
  exact ⟨List.all_eq_true.1 h.1.1, oneLine, h.1.2, h.2⟩

theorem anyPair_cons (p : Char → Char → Bool) (c : Char) (cs : List Char) :
    anyPair p (c :: cs) = (cs.head?.any (p c) || anyPair p cs) := by
  cases cs with
  | nil => rfl
  | cons d ds => rfl

theorem SingleRest.tail (h : SingleRest (c :: cs)) : SingleRest cs where
  printable d hd := h.printable d (List.mem_cons_of_mem c hd)
  oneLine mem := h.oneLine (List.mem_cons_of_mem c mem)
  before := by
    have pairs := h.before
    rw [anyPair_cons, Bool.or_eq_false_iff] at pairs
    exact pairs.2
  after := by
    have pairs := h.after
    rw [anyPair_cons, Bool.or_eq_false_iff] at pairs
    exact pairs.2

theorem Continues.skip (h : Continues afterBreak column cs gap) (pos : 0 < indent) :
    ∃ column', 0 < column' ∧
    ∀ ds, singleText gap column ((if afterBreak then spaces indent else []) ++ ds) =
      singleText gap column' ds := by
  cases gap with
  | none =>
    obtain ⟨rfl, pos⟩ := h
    exact ⟨column, pos, fun _ => rfl⟩
  | blanks bs =>
    obtain ⟨rfl, pos, -⟩ := h
    exact ⟨column, pos, fun _ => rfl⟩
  | breaks bs =>
    obtain ⟨rfl, -⟩ := h
    exact ⟨column + indent, Nat.add_pos_right column pos,
      fun ds => singleText_spaces column ds bs indent⟩
  | joined bs => cases h

theorem Continues.addBreak (h : Continues afterBreak column (c :: cs) gap)
    (rest : SingleRest (c :: cs)) (broken : isBreak c = true) :
    Continues true 0 cs (gap.addBreak c) ∧ (gap.addBreak c).text = gap.text ++ [c] := by
  have lineFeed : c ≠ '\n' := fun same => rest.oneLine (same ▸ List.mem_cons_self)
  have space : cs.head? ≠ some ' ' := by
    have pairs := rest.after
    rw [anyPair_cons, Bool.or_eq_false_iff] at pairs
    intro head
    rw [head] at pairs
    simp [breakThenSpace, broken] at pairs
  cases gap with
  | none =>
    have single : '\n' ∉ [c] := by simpa using lineFeed.symm
    exact ⟨⟨rfl, single, space⟩, folded_eq single⟩
  | blanks bs =>
    obtain ⟨-, -, head⟩ := h
    rw [head c rfl] at broken
    cases broken
  | breaks bs =>
    obtain ⟨-, unfed, -⟩ := h
    have more : '\n' ∉ bs ++ [c] := by simp [unfed, lineFeed.symm]
    refine ⟨⟨rfl, more, space⟩, ?_⟩
    change Gap.folded (bs ++ [c]) = Gap.folded bs ++ [c]
    rw [folded_eq more, folded_eq unfed]
  | joined bs => cases h

theorem Continues.addBlank (h : Continues afterBreak column (' ' :: cs) gap)
    (rest : SingleRest (' ' :: cs)) :
    afterBreak = false ∧ Continues false (column + 1) cs (gap.addBlank ' ') ∧
    (gap.addBlank ' ').text = gap.text ++ [' '] := by
  have unbroken : ∀ c ∈ cs.head?, isBreak c = false := by
    intro c hc
    have pairs := rest.before
    rw [anyPair_cons, Bool.or_eq_false_iff, hc] at pairs
    simpa [spaceThenBreak] using pairs.1
  cases gap with
  | none => exact ⟨h.1, ⟨rfl, Nat.succ_pos _, unbroken⟩, rfl⟩
  | blanks bs => exact ⟨h.1, ⟨rfl, Nat.succ_pos _, unbroken⟩, rfl⟩
  | breaks bs => exact absurd rfl h.2.2
  | joined bs => cases h

theorem singleText_singleQuoted (h : SingleRest cs) (gap : Gap) (afterBreak : Bool) (column : Nat)
    (inside : Continues afterBreak column cs gap) (pos : 0 < indent) {tail : List Char}
    (ends : tail.head? ≠ some '\'') :
    ∃ column' oneLine, singleText gap column (singleQuoted indent afterBreak cs ++ tail) =
      some ⟨gap.text ++ cs, tail, column', oneLine, false⟩ := by
  induction cs generalizing gap afterBreak column with
  | nil =>
    obtain ⟨column', -, skip⟩ := inside.skip pos
    have quote : singleText gap column' ('\'' :: tail) =
        some ⟨gap.text, tail, column' + 1, !gap.isBroken, false⟩ := by
      rw [singleText.eq_3]
      intro cs same
      exact ends (same ▸ rfl)
    refine ⟨column' + 1, !gap.isBroken, ?_⟩
    rw [singleQuoted, List.append_assoc, skip, List.singleton_append, quote, List.append_nil]
  | cons c cs ih =>
    rw [singleQuoted]
    by_cases broken : isBreak c = true
    · obtain ⟨inside', text⟩ := inside.addBreak h broken
      obtain ⟨column', oneLine, back⟩ := ih h.tail _ true 0 inside'
      refine ⟨column', oneLine, ?_⟩
      rw [if_pos broken, List.cons_append, singleText_break _ _ _ broken, back, text,
        List.append_assoc, List.singleton_append]
    · rw [if_neg broken]
      by_cases space : c = ' '
      · subst space
        obtain ⟨rfl, inside', text⟩ := inside.addBlank h
        obtain ⟨column', oneLine, back⟩ := ih h.tail _ false _ inside'
        refine ⟨column', oneLine, ?_⟩
        rw [if_neg Bool.false_ne_true, if_neg (by decide), List.nil_append, List.append_assoc,
          List.singleton_append, singleText_space, back, text, List.append_assoc,
          List.singleton_append]
      · obtain ⟨column', pos', skip⟩ := inside.skip pos
        by_cases quote : c = '\''
        · subst quote
          obtain ⟨last, oneLine, back⟩ := ih h.tail .none false (column' + 2) ⟨rfl, Nat.succ_pos _⟩
          refine ⟨last, oneLine && !gap.isBroken, ?_⟩
          rw [if_pos rfl, List.append_assoc, List.append_assoc, skip]
          change singleText gap column' ('\'' :: '\'' :: (singleQuoted indent false cs ++ tail)) = _
          rw [singleText, back]
          simp [Scanned.prepend, Gap.text]
        · obtain ⟨last, oneLine, back⟩ := ih h.tail .none false (column' + 1) ⟨rfl, Nat.succ_pos _⟩
          have blank : isBlank c = false := by
            rw [Bool.eq_false_iff, ne_eq, isBlank_of_isPrintable (h.printable c List.mem_cons_self)]
            exact space
          refine ⟨last, oneLine && !gap.isBroken, ?_⟩
          rw [if_neg quote, List.append_assoc, List.append_assoc, skip, List.singleton_append,
            singleText_char _ _ _ quote blank (Bool.eq_false_iff.2 broken) pos', back]
          simp [Scanned.prepend, Gap.text]

theorem escaped_cases (c : Char) :
    (isPrintable c = true ∧ c ≠ '"' ∧ c ≠ '\\' ∧ isBreak c = false ∧ escaped c = [c]) ∨
      (∃ d, d ∉ ['x', 'u', 'U'] ∧ isPrintable d = true ∧ isBreak d = false ∧ escape? d = some c ∧
        escaped c = ['\\', d]) ∨
        ∃ d ds, (∀ e ∈ ds, isPrintable e = true) ∧ hexChar? ds = some c ∧
        escaped c = '\\' :: d :: ds ∧
          (d = 'x' ∧ ds.length = 2 ∨ d = 'u' ∧ ds.length = 4 ∨ d = 'U' ∧ ds.length = 8) := by
  have hex : ∀ width, hexChar? ((Text.hex width c.toNat).map Char.toUpper) = some c :=
    fun width => by
    have valid : c.toNat.isValidChar := c.valid
    rw [hexChar?, Text.numberIn?_hex, Option.bind_some, if_pos valid, Char.ofNat_toNat]
  have digits : ∀ width, ∀ d ∈ (Text.hex width c.toNat).map Char.toUpper, isPrintable d = true :=
    fun width d hd => by
    obtain ⟨e, he, rfl⟩ := List.mem_map.1 hd
    obtain ⟨n, hn, rfl⟩ := Text.mem_hex he
    have all : ∀ n < 16, isPrintable n.digitChar.toUpper = true := by decide
    exact all n hn
  rw [escaped.eq_def]
  dsimp only
  split
  · exact .inr (.inl ⟨'0', by decide, by decide, by decide, rfl, rfl⟩)
  · exact .inr (.inl ⟨'a', by decide, by decide, by decide, rfl, rfl⟩)
  · exact .inr (.inl ⟨'b', by decide, by decide, by decide, rfl, rfl⟩)
  · exact .inr (.inl ⟨'t', by decide, by decide, by decide, rfl, rfl⟩)
  · exact .inr (.inl ⟨'n', by decide, by decide, by decide, rfl, rfl⟩)
  · exact .inr (.inl ⟨'v', by decide, by decide, by decide, rfl, rfl⟩)
  · exact .inr (.inl ⟨'f', by decide, by decide, by decide, rfl, rfl⟩)
  · exact .inr (.inl ⟨'r', by decide, by decide, by decide, rfl, rfl⟩)
  · exact .inr (.inl ⟨'e', by decide, by decide, by decide, rfl, rfl⟩)
  · exact .inr (.inl ⟨'"', by decide, by decide, by decide, rfl, rfl⟩)
  · exact .inr (.inl ⟨'\\', by decide, by decide, by decide, rfl, rfl⟩)
  · exact .inr (.inl ⟨'N', by decide, by decide, by decide, rfl, rfl⟩)
  · exact .inr (.inl ⟨'L', by decide, by decide, by decide, rfl, rfl⟩)
  · exact .inr (.inl ⟨'P', by decide, by decide, by decide, rfl, rfl⟩)
  · rename_i lineFeed _ _ _ _ quote backslash _ lineSeparator paragraphSeparator
    split
    · rename_i printable
      have unbroken : isBreak c = false := by
        simpa [isBreak, and_assoc] using ⟨lineFeed, lineSeparator, paragraphSeparator⟩
      exact .inl ⟨printable, quote, backslash, unbroken, rfl⟩
    · have bound : c.toNat < 16 ^ 8 := c.val.toNat_lt
      split
      · exact .inr
          (.inr ⟨'x', _, digits 2, hex 2, rfl,
            .inl ⟨rfl, by rw [List.length_map, Text.length_hex (by omega) (by decide)]⟩⟩)
      · split
        · exact .inr
            (.inr ⟨'u', _, digits 4, hex 4, rfl,
              .inr (.inl ⟨rfl, by rw [List.length_map, Text.length_hex (by omega) (by decide)]⟩)⟩)
        · exact .inr
            (.inr ⟨'U', _, digits 8, hex 8, rfl,
              .inr (.inr ⟨rfl, by rw [List.length_map, Text.length_hex bound (by decide)]⟩)⟩)

theorem printable_escaped (c : Char) : ∀ d ∈ escaped c, isPrintable d = true := by
  have backslash : isPrintable '\\' = true := rfl
  obtain ⟨printable, -, -, -, text⟩ | ⟨d, -, printable, -, -, text⟩
    | ⟨d, ds, printable, -, text, length⟩ := escaped_cases c
  · simp [text, printable]
  · simp [text, backslash, printable]
  · have mark : isPrintable d = true := by
      obtain ⟨rfl, -⟩ | ⟨rfl, -⟩ | ⟨rfl, -⟩ := length <;> rfl
    rw [text]
    exact List.forall_mem_cons.2 ⟨backslash, List.forall_mem_cons.2 ⟨mark, printable⟩⟩

section Double

variable {gap : Gap} (unbroken : gap.isBroken = false) (column : Nat) (cs : List Char)
include unbroken

/-- How a character of a scalar is taken, within a line: a blank is kept for what follows it. -/
def Takes (gap : Gap) (column : Nat) (c : Char) (text cs : List Char) : Prop :=
  (c = ' ' ∧ doubleText gap column (text ++ cs) = doubleText (gap.addBlank ' ') (column + 1) cs) ∨
    ∃ column', doubleText gap column (text ++ cs) =
      (doubleText .none (column' + 1) cs).map (·.prepend (gap.text ++ [c]) true)

theorem takes_char (pos : 0 < column) (printable : isPrintable c = true) (quote : c ≠ '"')
    (backslash : c ≠ '\\') (within : isBreak c = false) : Takes gap column c [c] cs := by
  have mark : atMark column (c :: cs) = false := by
    rw [atMark.eq_def]
    split <;> simp [Nat.ne_of_gt pos]
  have step := doubleText.eq_7 gap column c cs quote (fun _ _ _ same => absurd same backslash)
    (fun _ _ _ _ _ same => absurd same backslash)
    (fun _ _ _ _ _ _ _ _ _ same => absurd same backslash)
    (fun _ _ same => absurd same backslash)
  rw [within, mark, unbroken] at step
  by_cases space : c = ' '
  · subst space
    exact .inl ⟨rfl, step⟩
  · have blank : isBlank c = false := by
      rw [Bool.eq_false_iff, ne_eq, isBlank_of_isPrintable printable]
      exact space
    rw [blank] at step
    refine .inr ⟨column, ?_⟩
    simpa [backslash] using step

theorem takes_escape (mark : d ∉ ['x', 'u', 'U']) (within : isBreak d = false)
    (value : escape? d = some c) :
    Takes gap column c ['\\', d] cs := by
  have apart : ∀ e ∈ ['x', 'u', 'U'], d ≠ e := fun e he same => mark (same ▸ he)
  refine .inr ⟨column + 1, ?_⟩
  have step := doubleText.eq_6 gap column d cs (fun _ _ _ same => absurd same (apart _ (by decide)))
    (fun _ _ _ _ _ same => absurd same (apart _ (by decide)))
    (fun _ _ _ _ _ _ _ _ _ same => absurd same (apart _ (by decide)))
  rw [within, if_neg Bool.false_ne_true, value, Option.bind_some, unbroken] at step
  exact step

theorem takes_hex (value : hexChar? ds = some c)
    (length : d = 'x' ∧ ds.length = 2 ∨ d = 'u' ∧ ds.length = 4 ∨ d = 'U' ∧ ds.length = 8) :
    Takes gap column c ('\\' :: d :: ds) cs := by
  obtain ⟨rfl, length⟩ | ⟨rfl, length⟩ | ⟨rfl, length⟩ := length
  · obtain ⟨d₁, d₂, rfl⟩ := List.length_eq_two.1 length
    have step := doubleText.eq_3 gap column d₁ d₂ cs
    rw [value, Option.bind_some, unbroken] at step
    exact .inr ⟨column + 3, step⟩
  · obtain ⟨d₁, d₂, d₃, d₄, rfl⟩ := List.length_eq_four.1 length
    have step := doubleText.eq_4 gap column d₁ d₂ d₃ d₄ cs
    rw [value, Option.bind_some, unbroken] at step
    exact .inr ⟨column + 5, step⟩
  · match ds, length with
    | [d₁, d₂, d₃, d₄, d₅, d₆, d₇, d₈], _ =>
      have step := doubleText.eq_5 gap column d₁ d₂ d₃ d₄ d₅ d₆ d₇ d₈ cs
      rw [value, Option.bind_some, unbroken] at step
      exact .inr ⟨column + 9, step⟩

theorem takes_escaped (pos : 0 < column) (c : Char) : Takes gap column c (escaped c) cs := by
  obtain ⟨printable, quote, backslash, within, text⟩ | ⟨d, mark, -, within, value, text⟩
    | ⟨d, ds, -, value, text, length⟩ :=
    escaped_cases c
  · rw [text]
    exact takes_char unbroken column cs pos printable quote backslash within
  · rw [text]
    exact takes_escape unbroken column cs mark within value
  · rw [text]
    exact takes_hex unbroken column cs value length

end Double

theorem doubleText_doubleQuoted (cs : List Char) {gap : Gap} (unbroken : gap.isBroken = false)
    {column : Nat} (pos : 0 < column) (tail : List Char) :
    ∃ column', doubleText gap column (cs.flatMap escaped ++ '"' :: tail) =
      some ⟨gap.text ++ cs, tail, column', true, false⟩ := by
  induction cs generalizing gap column with
  | nil =>
    refine ⟨column + 1, ?_⟩
    rw [List.flatMap_nil, List.nil_append, doubleText, unbroken, List.append_nil]
    rfl
  | cons c cs ih =>
    rw [List.flatMap_cons, List.append_assoc]
    obtain ⟨rfl, step⟩ | ⟨column', step⟩ :=
      takes_escaped unbroken column (cs.flatMap escaped ++ '"' :: tail) pos c
    · obtain ⟨text, unbroken'⟩ : (gap.addBlank ' ').text = gap.text ++ [' '] ∧
        (gap.addBlank ' ').isBroken = false := by
        cases gap with
        | none => exact ⟨rfl, rfl⟩
        | blanks bs => exact ⟨rfl, rfl⟩
        | breaks bs => cases unbroken
        | joined bs => cases unbroken
      obtain ⟨last, back⟩ := ih unbroken' (Nat.succ_pos column)
      refine ⟨last, ?_⟩
      rw [step, back, text, List.append_assoc, List.singleton_append]
    · have within : Gap.none.isBroken = false := rfl
      obtain ⟨last, back⟩ := ih within (Nat.succ_pos column')
      refine ⟨last, ?_⟩
      rw [step, back]
      simp [Scanned.prepend, Gap.text]

end GameBalance.Yaml
