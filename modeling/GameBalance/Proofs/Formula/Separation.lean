import GameBalance.Proofs.Formula.Environment
import GameBalance.Proofs.Formula.Splice

/-!
When putting values into a text hides that it is no formula. A value may join a point beside its
name, its minus sign may stand for a missing operator, and a name may be spelled with letters that
no name has; there is no other way.
-/

namespace GameBalance.Formula

open Text Grammar

def endsOperand (cs : List Char) : Bool :=
  (cs.reverse.dropWhile isBlank).head?.any fun c => isNumeral c || isNamePart c || c = ')'

/-- A word between `before` and `after` that `x` may replace without joining what is beside it. -/
structure StandsApart (before w after : List Char) (x : Float) : Prop where
  spelling : ∀ c ∈ w, isNamePart c = true
  pointBefore : before.getLast? ≠ some '.'
  pointAfter : after.head? ≠ some '.'
  sign : Double.isNegative x = true → endsOperand before = false

/-- Every word of `cs`, which follows `before`, stands apart if it is replaced. -/
def SeparateFrom (b : Bindings) (before cs : List Char) : Prop :=
  ∀ u w after p, cs = u ++ (w ++ after) → IsWord w → wordAt (before ++ u).getLast? = false →
    wordAt after.head? = false → b.find? (spells ·.1.toList w) = some p →
    StandsApart (before ++ u) w after p.2

variable {before cs w rest : List Char} {b : Bindings}

theorem endsOperand_blank (h : isBlank c = true) :
    endsOperand (before ++ [c]) = endsOperand before := by
  simp [endsOperand, h]

theorem endsOperand_char (h : isBlank c = false) :
    endsOperand (before ++ [c]) = (isNumeral c || isNamePart c || c = ')') := by
  simp [endsOperand, h]

theorem endsOperand_symbol (h : symbol? c = some t) :
    endsOperand (before ++ [c]) = t.endsOperand := by
  rw [endsOperand_char (isBlank_of_symbol? h)]
  unfold symbol? at h
  split at h
  · cases h; rfl
  · cases h; rfl
  · cases h; rfl
  · unfold Operator.ofChar? at h
    split at h
    · cases h; rfl
    · cases h; rfl
    · cases h; rfl
    · cases h; rfl
    · cases h; rfl
    · cases h

theorem isBlank_of_isNamePart {c : Char} (h : isNamePart c = true) : isBlank c = false := by
  rw [Bool.eq_false_iff]
  intro blank
  exact Bool.noConfusion ((isWord_of_isNamePart h).symm.trans (isWord_of_isBlank blank))

theorem endsOperand_run (ne : w ≠ []) (h : ∀ c ∈ w, isNumeral c = true ∨ isNamePart c = true) :
    endsOperand (before ++ w) = true := by
  obtain ⟨u, c, rfl⟩ := (List.eq_nil_or_concat w).resolve_left ne
  rw [List.concat_eq_append, ← List.append_assoc]
  obtain numeral | part := h c (by simp)
  · rw [endsOperand_char (class_of_isNumeral numeral).1, numeral, Bool.true_or, Bool.true_or]
  · rw [endsOperand_char (isBlank_of_isNamePart part), part, Bool.or_true, Bool.true_or]

theorem wordAt_of_stops (h : wordAt cs.head? = false) : Stops isNamePart cs := by
  intro c hc
  rw [Option.mem_def.1 hc] at h
  rw [Bool.eq_false_iff]
  intro part
  exact Bool.noConfusion ((isWord_of_isNamePart part).symm.trans h)

namespace SeparateFrom

theorem skip (h : SeparateFrom b before (w ++ rest)) : SeparateFrom b (before ++ w) rest := by
  intro u v after p eq hv front back found
  rw [List.append_assoc] at front ⊢
  exact h (w ++ u) v after p (by rw [eq, List.append_assoc]) hv front back found

theorem first (h : SeparateFrom b before (w ++ rest)) (hw : IsWord w)
    (front : wordAt before.getLast? = false)
    (back : wordAt rest.head? = false) (found : b.find? (spells ·.1.toList w) = some p) :
    StandsApart before w rest p.2 := by
  have apart := h [] w rest p rfl hw (by rwa [List.append_nil]) back found
  rwa [List.append_nil] at apart

end SeparateFrom

def FrontKept (b : Bindings) (cs : List Char) : Prop :=
  ∀ w rest, cs = w ++ rest → IsWord w → wordAt rest.head? = false →
    b.find? (spells ·.1.toList w) = none

theorem frontKept_other (h : wordAt cs.head? = false) : FrontKept b cs := by
  rintro w rest rfl hw -
  exact Bool.noConfusion ((wordAt_head hw).symm.trans h)

theorem literalIn_none (h : b.find? (spells ·.1.toList w) = none) : literalIn b w = w := by
  rw [literalIn, h]

theorem point_of_isNumeral {c : Char} (h : isNumeral c = true) (hc : isWord c = false) :
    c = '.' := by
  simp only [isNumeral, Bool.or_eq_true, decide_eq_true_eq] at h
  refine h.resolve_left fun digit => ?_
  rw [isWord_of_isNamePart (isNamePart_of_isDigit digit)] at hc
  cases hc

theorem numeral_of_mapWords (separate : SeparateFrom b before cs) (kept : FrontKept b cs)
    (eq : mapWords (literalIn b) cs = run ++ us) (hrun : ∀ c ∈ run, isNumeral c = true)
    (edge : wordAt us.head? = false) :
    ∃ rest, cs = run ++ rest ∧ us = mapWords (literalIn b) rest ∧ wordAt rest.head? = false := by
  induction cs using word_induction generalizing before run with
  | nil =>
    rw [mapWords_nil] at eq
    obtain ⟨rfl, rfl⟩ := List.nil_eq_append_iff.1 eq
    exact ⟨[], rfl, mapWords_nil.symm, rfl⟩
  | other c cs hc ih =>
    cases run with
    | nil => exact ⟨c :: cs, rfl, eq.symm, hc⟩
    | cons d run =>
      rw [mapWords_other hc] at eq
      obtain ⟨rfl, tail⟩ := List.cons.inj eq
      obtain rfl := point_of_isNumeral (hrun c List.mem_cons_self) hc
      have kept' : FrontKept b cs := by
        rintro w rest rfl hw hr
        refine Option.eq_none_iff_forall_not_mem.2 fun p found => ?_
        have apart := (separate.skip (w := ['.'])).first hw (by simp; rfl) hr found
        exact apart.pointBefore (by simp)
      obtain ⟨rest, rfl, rfl, clear⟩ :=
        ih (separate.skip (w := ['.'])) kept' tail fun d hd => hrun d (List.mem_cons_of_mem _ hd)
      exact ⟨rest, rfl, rfl, clear⟩
  | word w rest hw hr ih =>
    rw [mapWords_word hw hr, literalIn_none (kept w rest rfl hw hr)] at eq
    obtain ⟨run', rfl, tail⟩ | ⟨w', rfl, rfl⟩ := List.append_eq_append_iff.1 eq
    · obtain ⟨rest', rfl, rfl, clear⟩ := ih separate.skip (frontKept_other hr) tail fun c hc =>
        hrun c (List.mem_append_right w hc)
      exact ⟨rest', (List.append_assoc ..).symm, rfl, clear⟩
    · cases w' with
      | nil => exact ⟨rest, by rw [List.append_nil], rfl, hr⟩
      | cons c w' =>
        have word : isWord c = true := hw.2 c (by simp)
        exact Bool.noConfusion (word.symm.trans edge)

theorem Lexes.of_literal {x : Float} (h : x.isFinite = true) (hr : Stops isNumeral rest)
    (lexes : Lexes (Decimal.plain x ++ rest) ts) :
    ∃ us, ts = literalTokens x ++ us ∧ Lexes rest us := by
  have read := Decimal.numeral?_unsignedText h
  have ne : Decimal.unsignedText x ≠ [] := fun empty => by
    rw [empty] at read
    cases read
  have digits : ∀ ts, Lexes (Decimal.unsignedText x ++ rest) ts →
      ∃ us, ts = .number (Double.ofMagnitude false (Double.magnitude x)) :: us ∧ Lexes rest us := by
    intro ts lexes
    obtain ⟨y, us, rfl, value, left⟩ :=
      lexes.of_number ne (fun _ => isNumeral_of_mem_unsignedText h) hr
    cases read.symm.trans value
    exact ⟨us, rfl, left⟩
  rw [Decimal.plain_eq h, Decimal.signed] at lexes
  rw [literalTokens]
  split at lexes
  · rename_i negative
    obtain ⟨ts, rfl, signed⟩ :=
      lexes.of_symbol (show symbol? '-' = some (.operator .minus) from rfl)
    obtain ⟨us, rfl, left⟩ := digits ts signed
    exact ⟨us, by rw [if_pos negative]; rfl, left⟩
  · rename_i positive
    obtain ⟨us, rfl, left⟩ := digits ts lexes
    exact ⟨us, by rw [if_neg positive]; rfl, left⟩

theorem stops_of_point (h : wordAt cs.head? = false) (point : cs.head? ≠ some '.') :
    Stops isNumeral cs := by
  intro c hc
  rw [Option.mem_def.1 hc] at h point
  rw [Bool.eq_false_iff]
  exact fun numeral => point (congrArg some (point_of_isNumeral numeral h))

theorem frontKept_word (hw : IsWord w) (hr : wordAt rest.head? = false)
    (found : b.find? (spells ·.1.toList w) = none) : FrontKept b (w ++ rest) := by
  intro w' rest' eq hw' hr'
  have run := (span_word hw.2 hr).1
  rw [eq, (span_word hw'.2 hr').1] at run
  exact run ▸ found

/--
If the changed text has tokens, they are those of the text before with values for some variables.
-/
def Spliceable (b : Bindings) (before cs : List Char) : Prop :=
  ∀ ts, SeparateFrom b before cs → Edge before.getLast? cs →
    Lexes (mapWords (literalIn b) cs) ts → Apart ts →
    ∃ us, Lexes cs us ∧ Spliced (endsOperand before) us ts

def TailsSpliceable (b : Bindings) (before cs : List Char) : Prop :=
  ∀ run rest, run ≠ [] → cs = run ++ rest → Spliceable b (before ++ run) rest

theorem splice_number (tails : TailsSpliceable b before cs) (kept : FrontKept b cs)
    (separate : SeparateFrom b before cs) (eq : mapWords (literalIn b) cs = c :: us)
    (hc : isNumeral c = true) (lexes : Lexes (c :: us) ts) (apart : Apart ts) :
    ∃ us, Lexes cs us ∧ Spliced (endsOperand before) us ts := by
  have hrun : ∀ d ∈ c :: us.takeWhile isNumeral, isNumeral d = true :=
    List.forall_mem_cons.2 ⟨hc, List.all_eq_true.1 List.all_takeWhile⟩
  have whole : c :: us = (c :: us.takeWhile isNumeral) ++ us.dropWhile isNumeral := by
    rw [List.cons_append, List.takeWhile_append_dropWhile]
  rw [whole] at lexes eq
  obtain ⟨x, ts, rfl, value, left⟩ :=
    lexes.of_number (List.cons_ne_nil _ _) hrun (stops_dropWhile isNumeral us)
  obtain ⟨clear, stops⟩ := left.clear (apart.1 rfl)
  obtain ⟨rest, rfl, same, edge⟩ := numeral_of_mapWords separate kept eq hrun clear
  rw [same] at left stops
  obtain ⟨us, lexes, spliced⟩ :=
    tails _ rest (List.cons_ne_nil _ _) rfl ts separate.skip (.inr edge) left apart.2
  rw [endsOperand_run (List.cons_ne_nil _ _) fun d hd => .inl (hrun d hd)] at spliced
  rw [Stops, head?_mapWords edge] at stops
  exact ⟨_, .number (List.cons_ne_nil _ _) hrun value stops lexes, .same spliced⟩

theorem spliceable_other (hc : isWord c = false) (tails : TailsSpliceable b before (c :: cs)) :
    Spliceable b before (c :: cs) := by
  intro ts separate _ lexes apart
  have eq : mapWords (literalIn b) (c :: cs) = c :: mapWords (literalIn b) cs := mapWords_other hc
  have edge : Edge (before ++ [c]).getLast? cs := .inl (by rw [List.getLast?_concat]; exact hc)
  have tail := tails [c] cs (List.cons_ne_nil _ _) rfl
  have separate' : SeparateFrom b (before ++ [c]) cs := separate.skip
  rw [eq] at lexes
  obtain blank | ⟨t, symbol⟩ | numeral | start := lexes.head
  · obtain ⟨us, left, spliced⟩ := tail ts separate' edge (lexes.of_blank blank) apart
    exact ⟨us, .blank blank left, endsOperand_blank blank ▸ spliced⟩
  · obtain ⟨ts, rfl, left⟩ := lexes.of_symbol symbol
    obtain ⟨us, left, spliced⟩ := tail ts separate' edge left apart.2
    exact ⟨t :: us, .symbol symbol left, .same (endsOperand_symbol symbol ▸ spliced)⟩
  · exact splice_number tails (frontKept_other hc) separate eq numeral lexes apart
  · rw [isWord_of_isNamePart (isNamePart_of_isNameStart start)] at hc
    cases hc

theorem spliceable_kept (hw : IsWord w) (hr : wordAt rest.head? = false)
    (found : b.find? (spells ·.1.toList w) = none) (tails : TailsSpliceable b before (w ++ rest)) :
    Spliceable b before (w ++ rest) := by
  intro ts separate _ lexes apart
  have eq : mapWords (literalIn b) (w ++ rest) = w ++ mapWords (literalIn b) rest := by
    rw [mapWords_word hw hr, literalIn_none found]
  have edge : wordAt (mapWords (literalIn b) rest).head? = false := wordAt_mapWords hr
  obtain ⟨c, w, rfl⟩ := List.exists_cons_of_ne_nil hw.1
  have word := hw.2 c List.mem_cons_self
  rw [eq, List.cons_append] at lexes
  obtain blank | ⟨t, symbol⟩ | numeral | start := lexes.head
  · exact Bool.noConfusion (word.symm.trans (isWord_of_isBlank blank))
  · exact Bool.noConfusion (word.symm.trans (isWord_of_symbol? symbol))
  · exact splice_number tails (frontKept_word hw hr found) separate eq numeral lexes apart
  · have name : IsName (c :: (w ++ mapWords (literalIn b) rest).takeWhile isNamePart) :=
      ⟨c, _, rfl, start, List.all_eq_true.1 List.all_takeWhile⟩
    have whole :=
      List.takeWhile_append_dropWhile (p := isNamePart) (l := w ++ mapWords (literalIn b) rest)
    rw [← whole, ← List.cons_append] at lexes
    obtain ⟨ts, rfl, left⟩ := lexes.of_name name (stops_dropWhile isNamePart _)
    obtain ⟨clear, -⟩ := left.clear (apart.1 rfl)
    -- both runs are the whole word, whatever ends them
    have runs := span_word name.isWord.2 clear
    rw [List.cons_append, whole, ← List.cons_append, (span_word hw.2 edge).1,
      (span_word hw.2 edge).2] at runs
    obtain ⟨run, tail⟩ := runs
    rw [← tail] at left
    obtain ⟨us, left, spliced⟩ :=
      tails (c :: w) rest (List.cons_ne_nil _ _) rfl ts separate.skip (.inr hr) left apart.2
    rw [← run] at name ⊢
    rw [endsOperand_run (List.cons_ne_nil _ _) fun d hd => .inr (name.isNamePart d hd)] at spliced
    exact ⟨_, .name name (wordAt_of_stops hr) left, .same spliced⟩

theorem spliceable_value (names : ∀ p ∈ b, IsName p.1.toList ∧ Builtin.isName p.1 = false)
    (finite : ∀ p ∈ b, p.2.isFinite = true) (hw : IsWord w) (hr : wordAt rest.head? = false)
    (found : b.find? (spells ·.1.toList w) = some p)
    (tails : TailsSpliceable b before (w ++ rest)) :
    Spliceable b before (w ++ rest) := by
  intro ts separate edge lexes apart
  have stands := separate.first hw (edge.front hw) hr found
  have fits := List.find?_some found
  obtain ⟨hp, builtin⟩ := names p (List.mem_of_find?_eq_some found)
  have name := hp.of_spells fits stands.spelling
  rw [spells_eq hp name, String.ofList_toList] at fits
  rw [Builtin.isName, lookup?_of_same fits, Option.isSome_eq_false_iff,
    Option.isNone_iff_eq_none] at builtin
  have eq : mapWords (literalIn b) (w ++ rest) = Decimal.plain p.2 ++
      mapWords (literalIn b) rest := by
    rw [mapWords_word hw hr, literalIn, found]
  have stops : Stops isNumeral (mapWords (literalIn b) rest) := by
    rw [Stops, head?_mapWords hr]
    exact stops_of_point hr stands.pointAfter
  rw [eq] at lexes
  obtain ⟨ts, rfl, left⟩ := lexes.of_literal (finite p (List.mem_of_find?_eq_some found)) stops
  obtain ⟨us, left, spliced⟩ :=
    tails w rest hw.1 rfl ts separate.skip (.inr hr) left apart.of_append
  rw [endsOperand_run hw.1 fun d hd => .inr (stands.spelling d hd)] at spliced
  exact ⟨_, .name name (wordAt_of_stops hr) left, .value builtin stands.sign spliced⟩

theorem spliceable (names : ∀ p ∈ b, IsName p.1.toList ∧ Builtin.isName p.1 = false)
    (finite : ∀ p ∈ b, p.2.isFinite = true) (n : Nat) :
    ∀ before cs : List Char, cs.length < n → Spliceable b before cs := by
  -- by length, since a numeral of the changed text may
  -- take several words and points of the text before
  induction n with
  | zero => exact fun _ _ lt => absurd lt (Nat.not_lt_zero _)
  | succ n ih =>
    intro before cs lt
    have tails : TailsSpliceable b before cs := by
      rintro run rest ne rfl
      have pos := List.length_pos_iff.2 ne
      rw [List.length_append] at lt
      exact ih _ rest (by omega)
    clear ih lt
    cases cs using word_induction with
    | nil =>
      intro ts _ _ lexes _
      rw [mapWords_nil] at lexes
      obtain rfl := lexes.unique .nil
      exact ⟨[], .nil, .nil⟩
    | other c cs hc => exact spliceable_other hc tails
    | word w rest hw hr =>
      cases found : b.find? (spells ·.1.toList w) with
      | none => exact spliceable_kept hw hr found tails
      | some p => exact spliceable_value names finite hw hr found tails

theorem endsOperand_point (h : before.getLast? = some '.') : endsOperand before = true := by
  obtain ⟨u, rfl⟩ := List.getLast?_eq_some_iff.1 h
  exact endsOperand_char (by decide)

theorem SeparateFrom.prepend {run : List Char} (h : SeparateFrom b (before ++ run) rest)
    (inside : ∀ u v w after p, run = u ++ v → v ≠ [] → v ++ rest = w ++ after → IsWord w →
      wordAt (before ++ u).getLast? = false → wordAt after.head? = false →
      b.find? (spells ·.1.toList w) = some p →
      StandsApart (before ++ u) w after p.2) : SeparateFrom b before (run ++ rest) := by
  intro u w after p eq hw hu hr found
  have later : ∀ v, u = run ++ v → rest = v ++ (w ++ after) →
      StandsApart (before ++ u) w after p.2 := by
    rintro v rfl tail
    rw [← List.append_assoc] at hu ⊢
    exact h v w after p tail hw hu hr found
  obtain ⟨v, eq, tail⟩ | ⟨v, eq, tail⟩ := List.append_eq_append_iff.1 eq
  · exact later v eq tail
  · cases v with
    | nil => exact later [] (by rw [eq, List.append_nil, List.append_nil]) tail.symm
    | cons c v =>
      exact inside u (c :: v) w after p eq (List.cons_ne_nil c v) tail.symm hw hu hr found

theorem head_mem {v : List Char} (hv : v ≠ []) (hw : IsWord w) (eq : v ++ rest = w ++ after) :
    ∃ c w', w = c :: w' ∧ c ∈ v ∧ isWord c = true := by
  obtain ⟨c, v, rfl⟩ := List.exists_cons_of_ne_nil hv
  obtain ⟨d, w, rfl⟩ := List.exists_cons_of_ne_nil hw.1
  obtain ⟨rfl, -⟩ := List.cons.inj eq
  exact ⟨c, w, rfl, List.mem_cons_self, hw.2 c List.mem_cons_self⟩

theorem SeparateFrom.other (h : SeparateFrom b (before ++ [c]) cs) (hc : isWord c = false) :
    SeparateFrom b before (c :: cs) := by
  change SeparateFrom b before ([c] ++ cs)
  refine SeparateFrom.prepend h fun u v w after p split ne eq hw _ _ _ => ?_
  obtain ⟨d, w, rfl, mem, word⟩ := head_mem ne hw eq
  obtain rfl : d = c := List.mem_singleton.1 (split ▸ List.mem_append_right u mem)
  exact Bool.noConfusion (word.symm.trans hc)

theorem separateFrom_of_lexes (names : ∀ p ∈ b, IsName p.1.toList) (h : Lexes cs ts)
    (apart : Apart ts) (front : endsOperand before = true → ∀ t ∈ ts.head?, t.isOperand = false) :
    SeparateFrom b before cs := by
  induction h generalizing before with
  | nil =>
    intro u w after p eq hw
    obtain ⟨-, eq⟩ := List.nil_eq_append_iff.1 eq
    exact absurd (List.append_eq_nil_iff.1 eq).1 hw.1
  | blank hc h ih =>
    exact (ih apart fun ends => front (endsOperand_blank hc ▸ ends)).other (isWord_of_isBlank hc)
  | symbol hc h ih =>
    exact (ih apart.2 fun ends => apart.1 (endsOperand_symbol hc ▸ ends)).other
      (isWord_of_symbol? hc)
  | @number run x rest ts ne hrun hx stops h ih =>
    refine (ih apart.2 fun _ => apart.1 rfl).prepend
      fun u v w after p split ne eq hw _ _ found => ?_
    have fits := List.find?_some found
    obtain ⟨c, w, rfl, mem, word⟩ := head_mem ne hw eq
    have digit := isDigit_of_isNumeral (hrun c (split ▸ List.mem_append_right u mem)) word
    rw [spells_digit (names p (List.mem_of_find?_eq_some found)) digit] at fits
    cases fits
  | @name word rest ts name stops h ih =>
    refine (ih apart.2 fun _ => apart.1 rfl).prepend
      fun u v w after p split ne eq hw hu hr found => ?_
    obtain ⟨clear, numeral⟩ := h.clear (apart.1 rfl)
    -- a word begins nowhere within a name, so this one is the whole name
    have first : u = [] := by
      refine (List.eq_nil_or_concat u).resolve_right ?_
      rintro ⟨u, c, rfl⟩
      rw [List.concat_eq_append, ← List.append_assoc, List.getLast?_concat] at hu
      exact Bool.noConfusion ((name.isWord.2 c (by rw [split]; simp)).symm.trans hu)
    subst first
    obtain rfl : word = v := split
    have runs := span_word name.isWord.2 clear
    rw [eq, (span_word hw.2 hr).1, (span_word hw.2 hr).2] at runs
    obtain ⟨rfl, rfl⟩ := runs
    have free : endsOperand before = false :=
      Bool.eq_false_iff.2 fun ends => Bool.noConfusion (front ends _ rfl)
    rw [List.append_nil]
    refine ⟨name.isNamePart, fun point => ?_, fun point => ?_, fun _ => free⟩
    · exact Bool.noConfusion ((endsOperand_point point).symm.trans free)
    · exact Bool.noConfusion (numeral '.' point)

def WellFormed (f : String) : Prop :=
  ∃ ts e, tokenize f = .ok ts ∧ parse ts = .ok e

def Separate (f : String) (b : Bindings) : Prop :=
  SeparateFrom b.inOrder [] f.toList

theorem ok_of_mapError {r : Except ε α} {f : ε → ε'} (h : r.mapError f = .ok a) : r = .ok a := by
  cases r with
  | error => cases h
  | ok => exact congrArg Except.ok (Except.ok.inj h)

theorem eval_of_evaluate {f : String} (names : ∀ p ∈ b, IsName p.1.toList)
    (finite : ∀ p ∈ b, p.2.isFinite = true) (notBlank : isBlankText f = false)
    (ok : evaluate f b = .ok x) :
    ∃ ts e d, Lexes (mapWords (literalIn b.inOrder) f.toList) ts ∧ Derives ts e d ∧ d ≤ maxDepth ∧
    e.eval = .ok x := by
  have prepared : prepareText f.toList b = _ :=
    Bindings.prepareText_eq (fun p hp => (names p hp).isLabel) fun w _ p hp =>
    finite p (b.inOrder_perm.mem_iff.1 (List.mem_of_find?_eq_some hp))
  rw [evaluate_eq notBlank prepared] at ok
  obtain ⟨ts, lexed, ok⟩ := ok_of_bind ok
  obtain ⟨e, parsed, value⟩ := ok_of_bind ok
  obtain ⟨d, derives, le⟩ := parse_eq_ok_iff.1 (ok_of_mapError parsed)
  exact ⟨ts, e, d, lexes_of_tokensFrom (ok_of_mapError lexed), derives, le, value⟩

theorem derives_of_evaluate {f : String} (names : ∀ p ∈ b, IsName p.1.toList)
    (finite : ∀ p ∈ b, p.2.isFinite = true) (notBlank : isBlankText f = false)
    (ok : evaluate f b = .ok x) :
    ∃ ts e d, Lexes (mapWords (literalIn b.inOrder) f.toList) ts ∧ Derives ts e d ∧
    d ≤ maxDepth := by
  obtain ⟨ts, e, d, lexes, derives, le, -⟩ := eval_of_evaluate names finite notBlank ok
  exact ⟨ts, e, d, lexes, derives, le⟩

theorem wellFormed_iff {f : String} :
    WellFormed f ↔ ∃ ts e d, Lexes f.toList ts ∧ Derives ts e d ∧ d ≤ maxDepth := by
  constructor
  · rintro ⟨ts, e, lexed, parsed⟩
    obtain ⟨d, derives, le⟩ := parse_eq_ok_iff.1 parsed
    exact ⟨ts, e, d, lexes_of_tokensFrom lexed, derives, le⟩
  · rintro ⟨ts, e, d, lexes, derives, le⟩
    exact ⟨ts, e, tokensFrom_of_lexes lexes 0, parse_eq_ok_iff.2 ⟨d, derives, le⟩⟩

theorem WellFormed.separate {f : String} (names : ∀ p ∈ b, IsName p.1.toList) (h : WellFormed f) :
    Separate f b := by
  obtain ⟨ts, e, d, lexes, ⟨n, expr⟩, -⟩ := wellFormed_iff.1 h
  refine separateFrom_of_lexes (fun p hp => names p (b.inOrder_perm.mem_iff.1 hp)) lexes expr.apart
    fun ends => ?_
  exact Bool.noConfusion ((show endsOperand [] = false from rfl).symm.trans ends)

/--
A formula that can be evaluated is itself well formed exactly if every word that is replaced in it
stands apart from what is beside it.
-/
theorem wellFormed_iff_separate (f : String) (b : Bindings) (x : Float)
    (names : ∀ p ∈ b, IsName p.1.toList)
    (noBuiltin : ∀ p ∈ b, Builtin.isName p.1 = false) (finite : ∀ p ∈ b, p.2.isFinite = true)
    (notBlank : isBlankText f = false) (ok : evaluate f b = .ok x) :
    WellFormed f ↔ Separate f b := by
  refine ⟨WellFormed.separate names, fun separate => ?_⟩
  obtain ⟨us, e', d', lexes', ⟨n, expr'⟩, le⟩ := derives_of_evaluate names finite notBlank ok
  have ordered : ∀ p ∈ b.inOrder, p ∈ b := fun p hp => b.inOrder_perm.mem_iff.1 hp
  obtain ⟨ts, lexes, spliced⟩ :=
    spliceable (fun p hp => ⟨names p (ordered p hp), noBuiltin p (ordered p hp)⟩)
    (fun p hp => finite p (ordered p hp)) _ [] f.toList (Nat.lt_succ_self _) us separate (.inl rfl)
    lexes' expr'.apart
  obtain ⟨e, d, expr⟩ := expr'.unsplice spliced
  have calls : CallsFree b.inOrder.value? :=
    Bindings.callsFree fun p hp => noBuiltin p (ordered p hp)
  have image := lexes.mapWords expr.apart (Bindings.writes fun p hp => names p (ordered p hp))
      fun w _ x value => by
    obtain ⟨p, found, rfl⟩ := Option.map_eq_some_iff.1 value
    exact finite p (ordered p (List.mem_of_find?_eq_some found))
  obtain ⟨d'', expr'', le', -⟩ := expr.subst calls
  obtain rfl := lexes'.unique image
  obtain ⟨-, rfl⟩ := Derives.unique ⟨n, expr'⟩ ⟨n, expr''⟩
  exact wellFormed_iff.2 ⟨ts, e, d, lexes, ⟨n, expr⟩, Nat.le_trans le' le⟩

theorem prepareText_minus :
    prepareText ['1', '0', ' ', 'x'] [("x", -3)] = .ok ['1', '0', ' ', '-', '3'] := by
  have occurs : occursFrom ['x'] none ['1', '0', ' ', 'x'] = true := by decide +kernel
  have finite : (-3 : Float).isFinite = true := by decide +kernel
  have replaced : replaceFrom ['x'] (Decimal.plain (-3)) 0 none ['1', '0', ' ', 'x'] =
      ['1', '0', ' ', '-', '3'] := by
    decide +kernel
  rw [prepareText, Bindings.inOrder, List.mergeSort_singleton]
  change (replaceName ['1', '0', ' ', 'x'] ("x", -3) >>= fun cs => .ok cs) = _
  rw [replaceName]
  change (if occursFrom ['x'] none ['1', '0', ' ', 'x'] then if (-3 : Float).isFinite then _ else _
    else _) >>= _ = _
  rw [if_pos occurs, if_pos finite]
  exact congrArg Except.ok replaced

theorem evaluate_minus : evaluate "10 x" [("x", -3)] = .ok 7 := by
  have ten : Decimal.numeral? ['1', '0'] = some 10 := by decide +kernel
  have three : Decimal.numeral? ['3'] = some 3 := by decide +kernel
  have lexes : Lexes ['1', '0', ' ', '-', '3'] [.number 10, .operator .minus, .number 3] :=
    @Lexes.number ['1', '0'] _ _ _ (by simp) (List.all_eq_true.1 rfl) ten
      (fun c hc => by cases hc; rfl)
      (.blank rfl (.symbol rfl (@Lexes.number ['3'] _ [] _ (by simp) (List.all_eq_true.1 rfl) three
        (fun c hc => nomatch hc) .nil)))
  have derives :
      Derives [.number 10, .operator .minus, .number 3] (.binary .sub (.number 10) (.number 3)) 1 :=
    ⟨1, .link (.first (.first (.base (.primary .number)))) .minus
      (.first (.base (.primary .number)))⟩
  have difference : (10 : Float) - 3 = 7 := by decide +kernel
  have read : evaluate "10 x" [("x", -3)] = _ := evaluate_eq (by decide) prepareText_minus
  rw [read, tokensFrom_of_lexes lexes]
  change (parse _).mapError .parse >>= Expr.eval = _
  rw [parse_eq_ok_iff.2 ⟨1, derives, by decide⟩]
  change Except.ok ((10 : Float) - 3) = _
  rw [difference]

theorem not_wellFormed_minus : ¬WellFormed "10 x" := by
  have ten : Decimal.numeral? ['1', '0'] = some 10 := by decide +kernel
  have lexes : Lexes ['1', '0', ' ', 'x'] [.number 10, .identifier "x"] :=
    @Lexes.number ['1', '0'] _ _ _ (by simp) (List.all_eq_true.1 rfl) ten
      (fun c hc => by cases hc; rfl)
      (.blank rfl (@Lexes.name ['x'] [] _ (by decide) (fun c hc => nomatch hc) .nil))
  intro h
  obtain ⟨ts, e, d, lexes', ⟨n, expr⟩, -⟩ := wellFormed_iff.1 h
  obtain rfl := lexes'.unique lexes
  exact Bool.noConfusion (expr.apart.1 rfl _ rfl)

/-- A value with a minus sign makes up for a missing operator. -/
theorem missing_operator : evaluate "10 x" [("x", -3)] = .ok 7 ∧ ¬WellFormed "10 x" :=
  ⟨evaluate_minus, not_wellFormed_minus⟩

theorem not_separate_minus : ¬Separate "10 x" [("x", -3)] := by
  have name : IsName "x".toList := by decide
  intro separate
  refine not_wellFormed_minus
    ((wellFormed_iff_separate _ _ 7 ?_ ?_ ?_ (by decide) evaluate_minus).2 separate)
  · simpa using name
  · simp only [List.forall_mem_cons]
    exact ⟨by decide, by simp⟩
  · simp only [List.forall_mem_cons]
    exact ⟨by decide +kernel, by simp⟩

end GameBalance.Formula
