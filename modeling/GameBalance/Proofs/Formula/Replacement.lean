import GameBalance.Formula.Substitution
import GameBalance.Proofs.Decimal.ReadBack
import GameBalance.Proofs.Formula.Letters
import GameBalance.Proofs.Text.Words

namespace GameBalance.Formula

open Text

def IsName (name : List Char) : Prop :=
  ∃ c cs, name = c :: cs ∧ isNameStart c = true ∧ ∀ d ∈ cs, isNamePart d = true

instance {name : List Char} : Decidable (IsName name) :=
  match name with
  | [] => isFalse fun ⟨_, _, eq, _⟩ => nomatch eq
  | c :: cs => decidable_of_iff (isNameStart c = true ∧ cs.all isNamePart = true)
    ⟨fun ⟨start, part⟩ => ⟨c, cs, rfl, start, List.all_eq_true.1 part⟩,
      fun ⟨_, _, eq, start, part⟩ => by cases eq; exact ⟨start, List.all_eq_true.2 part⟩⟩

def spells (name w : List Char) : Bool :=
  name.map fold = w.map fold

variable {name w rest cs : List Char} {before : Option Char}

theorem getLast?_cons_or (c : Char) (w : List Char) (before : Option Char) :
    (c :: w).getLast?.or before = w.getLast?.or (some c) := by
  cases w <;> simp [List.getLast?_cons]

theorem getLast?_append_or (a b : List Char) (before : Option Char) :
    (a ++ b).getLast?.or before = b.getLast?.or (a.getLast?.or before) := by
  rw [List.getLast?_append, Option.or_assoc]

theorem getLast?_or (ne : w ≠ []) : w.getLast?.or before = w.getLast? := by
  rw [List.getLast?_eq_some_getLast ne, Option.some_or]

theorem IsName.ne_nil (h : IsName name) : name ≠ [] := by
  obtain ⟨c, cs, rfl, -, -⟩ := h
  exact List.cons_ne_nil c cs

theorem IsName.isNamePart (h : IsName name) : ∀ c ∈ name, isNamePart c = true := by
  obtain ⟨c, cs, rfl, start, part⟩ := h
  exact List.forall_mem_cons.2 ⟨isNamePart_of_isNameStart start, part⟩

theorem IsName.ascii (h : IsName name) : ∀ c ∈ name, c.toNat < 128 :=
  fun c hc => toNat_lt_of_isNamePart (h.isNamePart c hc)

theorem IsName.map_fold (h : IsName name) : name.map fold = name.map Char.toLower :=
  List.map_congr_left fun c hc => fold_ascii (h.ascii c hc)

theorem beginsWith_iff :
    beginsWith name cs = true ↔ ∃ w rest, cs = w ++ rest ∧ spells name w = true := by
  induction name generalizing cs with
  | nil => exact ⟨fun _ => ⟨[], cs, rfl, rfl⟩, fun _ => rfl⟩
  | cons n ns ih =>
    cases cs with
    | nil =>
      refine ⟨fun h => Bool.noConfusion h, ?_⟩
      rintro ⟨w, rest, eq, h⟩
      obtain ⟨rfl, rfl⟩ := List.nil_eq_append_iff.1 eq
      simp [spells] at h
    | cons c cs =>
      simp only [beginsWith, Bool.and_eq_true, decide_eq_true_eq, ih]
      constructor
      · rintro ⟨eq, w, rest, rfl, h⟩
        exact ⟨c :: w, rest, rfl, by simpa [spells, eq] using h⟩
      · rintro ⟨w, rest, eq, h⟩
        cases w with
        | nil => simp [spells] at h
        | cons d w =>
          obtain ⟨rfl, rfl⟩ := List.cons.inj eq
          simp only [spells, List.map_cons, decide_eq_true_eq, List.cons.injEq] at h
          exact ⟨h.1, w, rest, rfl, by simpa [spells] using h.2⟩

theorem spells_comm : spells name w = spells w name :=
  decide_eq_decide.2 eq_comm

theorem spells_length (h : spells name w = true) : name.length = w.length := by
  simpa using congrArg List.length (of_decide_eq_true h)

theorem ne_nil_of_spells (ne : name ≠ []) (h : spells name w = true) : w ≠ [] := by
  rintro rfl
  exact ne (List.eq_nil_of_length_eq_zero (spells_length h))

theorem ne_nil_of_begins (h : wordAt name.head? = true) : name ≠ [] := by
  rintro rfl
  cases h

theorem IsName.isWord (h : IsName name) : IsWord name :=
  ⟨h.ne_nil, fun c hc => isWord_of_isNamePart (h.isNamePart c hc)⟩

theorem isWord_of_spells (hn : IsWord name) (h : spells name w = true) : IsWord w := by
  refine ⟨ne_nil_of_spells hn.1 h, fun c hc => ?_⟩
  have mem : fold c ∈ name.map fold := by
    rw [of_decide_eq_true h]
    exact List.mem_map_of_mem hc
  obtain ⟨n, hn', eq⟩ := List.mem_map.1 mem
  exact isWord_of_fold_eq (hn.2 n hn') eq

theorem IsName.of_spells (hn : IsName name) (h : spells name w = true)
    (hw : ∀ c ∈ w, Formula.isNamePart c = true) :
    IsName w := by
  obtain ⟨n, ns, rfl, start, -⟩ := hn
  cases w with
  | nil => simp [spells] at h
  | cons c w =>
    have folded : fold n = fold c := (List.cons.inj (of_decide_eq_true h)).1
    have letter := toNat_lt_of_isNamePart (isNamePart_of_isNameStart start)
    have small := toNat_lt_of_isNamePart (hw c List.mem_cons_self)
    rw [fold_ascii letter, fold_ascii small] at folded
    refine ⟨c, w, rfl, ?_, fun d hd => hw d (List.mem_cons_of_mem c hd)⟩
    rwa [← isNameStart_toLower c small, ← folded, isNameStart_toLower n letter]

theorem wordAt_head (hw : IsWord w) : wordAt (w ++ rest).head? = true := by
  obtain ⟨c, cs, rfl⟩ := List.exists_cons_of_ne_nil hw.1
  exact hw.2 c List.mem_cons_self

theorem wordAt_last (hw : IsWord w) : wordAt (w.getLast?.or before) = true := by
  rw [List.getLast?_eq_some_getLast hw.1]
  exact hw.2 _ (List.getLast_mem hw.1)

theorem standsAt_iff : standsAt name before cs = true ↔ isBoundary before cs.head? = true ∧
    ∃ w rest, cs = w ++ rest ∧ spells name w = true ∧
    isBoundary (w.getLast?.or before) rest.head? = true := by
  rw [standsAt, Bool.and_eq_true, Bool.and_eq_true, beginsWith_iff]
  constructor
  · rintro ⟨⟨⟨w, rest, rfl, h⟩, front⟩, back⟩
    rw [spells_length h, List.take_left, List.drop_left] at back
    exact ⟨front, w, rest, rfl, h, back⟩
  · rintro ⟨front, w, rest, rfl, h, back⟩
    rw [spells_length h, List.take_left, List.drop_left]
    exact ⟨⟨⟨w, rest, rfl, h⟩, front⟩, back⟩

theorem wordAt_head?_of_spells (h : spells name w = true) :
    wordAt (w ++ rest).head? = wordAt (name ++ rest).head? := by
  cases name with
  | nil =>
    obtain rfl := List.eq_nil_of_length_eq_zero (spells_length h).symm
    rfl
  | cons n ns =>
    cases w with
    | nil => simp [spells] at h
    | cons c w =>
      have folded : fold n = fold c := (List.cons.inj (of_decide_eq_true h)).1
      change isWord c = isWord n
      rw [← isWord_fold, ← folded, isWord_fold]

section Begins

variable (hn : wordAt name.head? = true)

include hn

theorem head?_of_begins : (name ++ rest).head? = name.head? := by
  cases name with
  | nil => cases hn
  | cons n ns => rfl

theorem standsAt_other (hc : wordAt cs.head? = false) : standsAt name before cs = false := by
  rw [Bool.eq_false_iff]
  intro h
  obtain ⟨-, w, rest, rfl, h, -⟩ := standsAt_iff.1 h
  rw [wordAt_head?_of_spells h, head?_of_begins hn, hn] at hc
  cases hc

theorem standsAt_inside (hb : wordAt before = true) : standsAt name before cs = false := by
  rw [Bool.eq_false_iff]
  intro h
  obtain ⟨front, w, rest, rfl, h, -⟩ := standsAt_iff.1 h
  rw [isBoundary, wordAt_head?_of_spells h, head?_of_begins hn, hn, hb] at front
  cases front

theorem occursFrom_inside (hw : ∀ c ∈ w, isWord c = true) (hb : wordAt before = true) :
    occursFrom name before (w ++ rest) = occursFrom name (w.getLast?.or before) rest := by
  induction w generalizing before with
  | nil => rfl
  | cons c w ih =>
    rw [List.cons_append, occursFrom, standsAt_inside hn hb, Bool.false_or, getLast?_cons_or,
      ih (fun d hd => hw d (List.mem_cons_of_mem _ hd))
      (show wordAt (some c) = true from hw c List.mem_cons_self)]

theorem replaceFrom_inside (literal : List Char) (hw : ∀ c ∈ w, isWord c = true)
    (hb : wordAt before = true) :
    replaceFrom name literal 0 before (w ++ rest) = w ++
      replaceFrom name literal 0 (w.getLast?.or before) rest := by
  induction w generalizing before with
  | nil => rfl
  | cons c w ih =>
    rw [List.cons_append, replaceFrom, if_neg (Bool.eq_false_iff.1 (standsAt_inside hn hb)),
      getLast?_cons_or,
      ih (fun d hd => hw d (List.mem_cons_of_mem _ hd))
      (show wordAt (some c) = true from hw c List.mem_cons_self), List.cons_append]

theorem replaceFrom_passes (literal : List Char) (hw : IsWord w)
    (h : standsAt name before (w ++ rest) = false) :
    replaceFrom name literal 0 before (w ++ rest) = w ++
      replaceFrom name literal 0 (w.getLast?.or before) rest := by
  obtain ⟨c, w, rfl⟩ := List.exists_cons_of_ne_nil hw.1
  rw [List.cons_append] at h
  rw [List.cons_append, replaceFrom, if_neg (Bool.eq_false_iff.1 h), getLast?_cons_or,
    replaceFrom_inside hn literal (fun d hd => hw.2 d (List.mem_cons_of_mem _ hd))
      (show wordAt (some c) = true from hw.2 c List.mem_cons_self),
    List.cons_append]

theorem replaceFrom_nil (literal : List Char) (before : Option Char) :
    replaceFrom name literal 0 before [] = [] := by
  rw [replaceFrom, if_neg (Bool.eq_false_iff.1 (standsAt_other hn rfl))]

theorem replaceFrom_cons (literal : List Char) (hc : isWord c = false) :
    replaceFrom name literal 0 before (c :: cs) = c :: replaceFrom name literal 0 (some c) cs := by
  have other : standsAt name before (c :: cs) = false := standsAt_other hn hc
  rw [replaceFrom, if_neg (Bool.eq_false_iff.1 other)]

theorem replaceFrom_other (literal : List Char) (hc : wordAt cs.head? = false)
    (before before' : Option Char) :
    replaceFrom name literal 0 before cs = replaceFrom name literal 0 before' cs := by
  cases cs with
  | nil => rw [replaceFrom_nil hn, replaceFrom_nil hn]
  | cons c cs => rw [replaceFrom_cons hn literal hc, replaceFrom_cons hn literal hc]

theorem wordAt_replaceFrom {literal : List Char} (hc : wordAt cs.head? = false) :
    wordAt (replaceFrom name literal 0 before cs).head? = false := by
  cases cs with
  | nil =>
    rw [replaceFrom_nil hn]
    rfl
  | cons c cs =>
    rw [replaceFrom_cons hn literal hc]
    exact hc

end Begins

theorem replaceFrom_skip (literal : List Char) :
    replaceFrom name literal w.length before (w ++ rest) =
      replaceFrom name literal 0 (w.getLast?.or before) rest := by
  induction w generalizing before with
  | nil => rfl
  | cons c w ih =>
    rw [List.cons_append, List.length_cons, replaceFrom, ih, getLast?_cons_or]

theorem replaceFrom_stands (literal : List Char) (ne : w ≠ []) (same : spells name w = true)
    (stands : standsAt name before (w ++ rest) = true) :
    replaceFrom name literal 0 before (w ++ rest) = literal ++
      replaceFrom name literal 0 (w.getLast?.or before) rest := by
  obtain ⟨c, w, rfl⟩ := List.exists_cons_of_ne_nil ne
  rw [List.cons_append] at stands
  rw [List.cons_append, replaceFrom, if_pos stands, spells_length same, List.length_cons]
  dsimp only
  rw [replaceFrom_skip, getLast?_cons_or]

/--
How names are replaced: outside of words characters stay, a word where
the name does not stand is passed over, and what is spelled like the
name where it stands, which may go beyond a word, is taken as a whole.
-/
theorem replaceFrom_induction (hn : wordAt name.head? = true)
    {motive : Option Char → List Char → Prop} (nil : ∀ before, motive before [])
    (other : ∀ before c cs, isWord c = false → motive (some c) cs → motive before (c :: cs))
    (passes : ∀ before w rest, IsWord w → wordAt rest.head? = false →
      standsAt name before (w ++ rest) = false →
      motive (w.getLast?.or before) rest → motive before (w ++ rest))
    (stands : ∀ before w rest, w ≠ [] → spells name w = true →
      standsAt name before (w ++ rest) = true →
      isBoundary (w.getLast?.or before) rest.head? = true → motive (w.getLast?.or before) rest →
      motive before (w ++ rest))
    (before : Option Char) (cs : List Char) : motive before cs := by
  induction length : cs.length using Nat.strongRecOn generalizing cs before with
  | ind k ih =>
    subst length
    have shorter : ∀ {w rest : List Char}, w ≠ [] → rest.length < (w ++ rest).length := fun ne => by
      rw [List.length_append]
      exact Nat.lt_add_of_pos_left (List.length_pos_iff.2 ne)
    cases cs using word_induction with
    | nil => exact nil before
    | other c cs hc =>
      exact other before c cs hc (ih cs.length (Nat.lt_succ_self _) (some c) cs rfl)
    | word w rest hw hr =>
      cases here : standsAt name before (w ++ rest) with
      | false => exact passes before w rest hw hr here (ih rest.length (shorter hw.1) _ rest rfl)
      | true =>
        obtain ⟨-, m, after, split, same, back⟩ := standsAt_iff.1 here
        rw [split] at here ih ⊢
        have ne := ne_nil_of_spells (ne_nil_of_begins hn) same
        exact stands before m after ne same here back (ih after.length (shorter ne) _ after rfl)

theorem standsAt_word (hn : IsWord name) (hb : wordAt before = false) (hw : IsWord w)
    (hr : wordAt rest.head? = false) : standsAt name before (w ++ rest) = spells name w := by
  rw [Bool.eq_iff_iff, standsAt_iff]
  constructor
  · rintro ⟨-, w', rest', eq, h, back⟩
    have hw' := isWord_of_spells hn h
    rw [isBoundary, wordAt_last hw'] at back
    have run := (span_word hw.2 hr).1
    rw [eq, (span_word hw'.2 (by simpa using back)).1] at run
    exact run ▸ h
  · intro h
    rw [isBoundary, hb, wordAt_head hw]
    refine ⟨rfl, w, rest, rfl, h, ?_⟩
    rw [isBoundary, wordAt_last hw, hr]
    rfl

/-- No word lies on both sides of the place before `cs`. -/
def Edge (before : Option Char) (cs : List Char) : Prop :=
  wordAt before = false ∨ wordAt cs.head? = false

theorem Edge.of_isBoundary (h : isBoundary before cs.head? = true) : Edge before cs := by
  cases side : wordAt before with
  | false => exact .inl side
  | true => exact .inr (by simpa [isBoundary, side] using h)

theorem Edge.front (h : Edge before (w ++ rest)) (hw : IsWord w) : wordAt before = false :=
  h.resolve_right fun hr => Bool.noConfusion ((wordAt_head hw).symm.trans hr)

theorem occursFrom_eq (hn : IsWord name) (h : Edge before cs) :
    occursFrom name before cs = (words cs).any (spells name) := by
  induction cs using word_induction generalizing before with
  | nil => rw [occursFrom, standsAt_other hn.begins rfl, words_nil, List.any_nil]
  | other c cs hc ih =>
    rw [occursFrom, standsAt_other hn.begins (show wordAt (c :: cs).head? = false from hc),
      Bool.false_or, ih (show Edge (some c) cs from .inl hc), words_other hc]
  | word w rest hw hr ih =>
    have occurs : occursFrom name (w.getLast?.or before) rest = (words rest).any (spells name) :=
      ih (.inr hr)
    rw [words_word hw hr, List.any_cons, ← standsAt_word hn (h.front hw) hw hr, ← occurs]
    obtain ⟨c, w, rfl⟩ := List.exists_cons_of_ne_nil hw.1
    rw [List.cons_append, occursFrom, getLast?_cons_or,
      occursFrom_inside hn.begins (fun d hd => hw.2 d (List.mem_cons_of_mem _ hd))
        (show wordAt (some c) = true from hw.2 c List.mem_cons_self)]

theorem replaceFrom_eq (hn : IsWord name) (literal : List Char) (h : Edge before cs) :
    replaceFrom name literal 0 before cs =
      mapWords (fun w => if spells name w then literal else w) cs := by
  induction cs using word_induction generalizing before with
  | nil => rw [replaceFrom_nil hn.begins, mapWords_nil]
  | other c cs hc ih =>
    rw [replaceFrom_cons hn.begins literal hc, ih (show Edge (some c) cs from .inl hc),
      mapWords_other hc]
  | word w rest hw hr ih =>
    have stands := standsAt_word hn (h.front hw) hw hr
    rw [mapWords_word hw hr]
    split
    · rename_i same
      rw [replaceFrom_stands literal hw.1 same (stands.trans same), ih (.inr hr)]
    · rename_i other
      rw [replaceFrom_passes hn.begins literal hw (stands.trans (Bool.eq_false_iff.2 other)),
        ih (.inr hr)]

theorem isDigit_of_isNumeral {c : Char} (h : isNumeral c = true) (hw : isWord c = true) :
    c.isDigit = true := by
  simp only [isNumeral, Bool.or_eq_true, decide_eq_true_eq] at h
  obtain h | rfl := h
  · exact h
  · exact Bool.noConfusion ((show isWord '.' = false from rfl).symm.trans hw)

theorem isNumeral_of_mem_unsignedText {x : Float} (h : x.isFinite = true)
    (hc : c ∈ Decimal.unsignedText x) :
    isNumeral c = true := by
  obtain digit | rfl := Decimal.isDigit_or_point (Decimal.numeral?_unsignedText h) hc
  · simp [isNumeral, digit]
  · rfl

theorem minus_or_isNumeral {x : Float} (h : x.isFinite = true) (hc : c ∈ Decimal.plain x) :
    c = '-' ∨ isNumeral c = true := by
  rw [Decimal.plain_eq h, Decimal.signed] at hc
  split at hc
  · exact (List.mem_cons.1 hc).imp_right (isNumeral_of_mem_unsignedText h)
  · exact .inr (isNumeral_of_mem_unsignedText h hc)

theorem isDigit_of_mem_literal {x : Float} (h : x.isFinite = true) (hc : c ∈ Decimal.plain x)
    (hw : isWord c = true) : c.isDigit = true := by
  obtain rfl | numeral := minus_or_isNumeral h hc
  · exact Bool.noConfusion ((show isWord '-' = false from rfl).symm.trans hw)
  · exact isDigit_of_isNumeral numeral hw

theorem words_digit (h : ∀ c ∈ cs, isWord c = true → c.isDigit = true) (hw : w ∈ words cs) :
    ∃ c w', w = c :: w' ∧ c.isDigit = true := by
  have word := isWord_of_mem_words hw
  obtain ⟨c, w, rfl⟩ := List.exists_cons_of_ne_nil word.1
  exact ⟨c, w, rfl, h c (mem_of_mem_words hw List.mem_cons_self) (word.2 c List.mem_cons_self)⟩

structure IsLabel (name : List Char) : Prop where
  word : IsWord name
  other : ∃ c ∈ name, c.isDigit = false

theorem IsName.isLabel (h : IsName name) : IsLabel name := by
  refine ⟨h.isWord, ?_⟩
  obtain ⟨c, cs, rfl, start, -⟩ := h
  exact ⟨c, List.mem_cons_self, isDigit_of_isNameStart start⟩

theorem IsLabel.of_spells (hn : IsLabel name) (h : spells name w = true) : IsLabel w := by
  refine ⟨isWord_of_spells hn.word h, ?_⟩
  obtain ⟨n, mem, other⟩ := hn.other
  have folded : fold n ∈ w.map fold := by
    rw [← of_decide_eq_true h]
    exact List.mem_map_of_mem mem
  obtain ⟨c, hc, eq⟩ := List.mem_map.1 folded
  refine ⟨c, hc, Bool.eq_false_iff.2 fun digit => ?_⟩
  rw [isDigit_of_fold_eq digit eq.symm] at other
  cases other

theorem spells_digit (hn : IsName name) (hc : c.isDigit = true) : spells name (c :: w) = false := by
  obtain ⟨n, ns, rfl, start, -⟩ := hn
  rw [spells, decide_eq_false_iff_not, List.map_cons, List.map_cons]
  intro eq
  have digit := isDigit_of_fold_eq hc (List.cons.inj eq).1
  rw [isDigit_of_isNameStart start] at digit
  cases digit

theorem spells_literal {x : Float} (hn : IsLabel name) (h : x.isFinite = true)
    (hw : w ∈ words (Decimal.plain x)) : spells name w = false := by
  refine Bool.eq_false_iff.2 fun same => ?_
  obtain ⟨c, hc, other⟩ := (hn.of_spells same).other
  rw [isDigit_of_mem_literal h (mem_of_mem_words hw hc) ((isWord_of_mem_words hw).2 c hc)] at other
  cases other

/-- The decimal text of the first binding spelled like `w`, `w` itself where there is none. -/
def literalIn (b : Bindings) (w : List Char) : List Char :=
  match b.find? (spells ·.1.toList w) with
  | some (_, x) => Decimal.plain x
  | none => w

theorem literalIn_eq_self {b : Bindings} (h : ∀ p ∈ b, spells p.1.toList w = false) :
    literalIn b w = w := by
  rw [literalIn, List.find?_eq_none.2 fun p hp => Bool.eq_false_iff.1 (h p hp)]

theorem literalIn_first {p : String × Float} (b : Bindings) (h : spells p.1.toList w = true) :
    literalIn (p :: b) w = Decimal.plain p.2 := by
  rw [literalIn, List.find?_cons, h]

theorem literalIn_later {p : String × Float} (b : Bindings) (h : spells p.1.toList w = false) :
    literalIn (p :: b) w = literalIn b w := by
  rw [literalIn, List.find?_cons, h, literalIn]

theorem literalIn_literal {b : Bindings} {x : Float} (names : ∀ p ∈ b, IsLabel p.1.toList)
    (h : x.isFinite = true) :
    mapWords (literalIn b) (Decimal.plain x) = Decimal.plain x :=
  mapWords_eq_self fun _ hw => literalIn_eq_self fun p hp => spells_literal (names p hp) h hw

theorem replaceName_absent {p : String × Float} (h : occursFrom p.1.toList none cs = false) :
    replaceName cs p = .ok cs :=
  if_neg (Bool.eq_false_iff.1 h)

theorem replaceName_eq {p : String × Float} (hn : IsWord p.1.toList)
    (finite : ∀ w ∈ words cs, spells p.1.toList w = true → p.2.isFinite = true) :
    replaceName cs p = .ok (mapWords (literalIn [p]) cs) := by
  rw [replaceName, occursFrom_eq hn (.inl rfl)]
  cases occurs : (words cs).any (spells p.1.toList) with
  | true =>
    obtain ⟨w, hw, same⟩ := List.any_eq_true.1 occurs
    rw [if_pos rfl, if_pos (finite w hw same), replaceFrom_eq hn _ (.inl rfl)]
    refine congrArg Except.ok (mapWords_congr fun w _ => ?_)
    split
    · rename_i same
      rw [literalIn_first [] same]
    · rename_i other
      rw [literalIn_later [] (Bool.eq_false_iff.2 other)]
      rfl
  | false =>
    rw [if_neg Bool.false_ne_true, mapWords_eq_self fun w hw => ?_]
    rw [literalIn_later [] (Bool.eq_false_iff.2 (List.any_eq_false.1 occurs w hw))]
    rfl

theorem foldlM_replaceName {b : Bindings} (names : ∀ p ∈ b, IsLabel p.1.toList)
    (finite : ∀ w ∈ words cs, ∀ p ∈ b.find? (spells ·.1.toList w), p.2.isFinite = true) :
    b.foldlM replaceName cs = .ok (mapWords (literalIn b) cs) := by
  induction b generalizing cs with
  | nil =>
    have unchanged : mapWords (literalIn []) cs = cs := mapWords_eq_self fun w _ => rfl
    rw [unchanged]
    rfl
  | cons p b ih =>
    have hn := names p List.mem_cons_self
    have names' : ∀ q ∈ b, IsLabel q.1.toList := fun q hq => names q (List.mem_cons_of_mem p hq)
    have first : ∀ w ∈ words cs, spells p.1.toList w = true → p.2.isFinite = true :=
      fun w hw same =>
      finite w hw p (by rw [List.find?_cons, same]; rfl)
    have later : ∀ w ∈ words cs, spells p.1.toList w = false → ∀ q ∈ b.find? (spells ·.1.toList w),
        q.2.isFinite = true := fun w hw other q hq =>
      finite w hw q (by rw [List.find?_cons, other]; exact hq)
    rw [List.foldlM_cons, replaceName_eq hn.word first]
    change b.foldlM replaceName (mapWords (literalIn [p]) cs) = _
    rw [ih names', mapWords_mapWords]
    · refine congrArg Except.ok (mapWords_congr fun w hw => ?_)
      -- the decimal text in the place of `w` has no word that a later name could replace
      cases same : spells p.1.toList w with
      | true =>
        rw [literalIn_first [] same, literalIn_first b same,
          literalIn_literal names' (first w hw same)]
      | false =>
        rw [literalIn_later [] same, literalIn_later b same]
        exact mapWords_of_isWord (isWord_of_mem_words hw)
    · intro w' hw' q hq
      rw [words_mapWords] at hw'
      obtain ⟨w, hw, hw'⟩ := List.mem_flatMap.1 hw'
      cases same : spells p.1.toList w with
      | true =>
        rw [literalIn_first [] same] at hw'
        have fits := List.find?_some hq
        rw [spells_literal (names' q (List.mem_of_find?_eq_some hq)) (first w hw same) hw'] at fits
        cases fits
      | false =>
        rw [literalIn_later [] same, literalIn_eq_self (by simp),
          words_of_isWord (isWord_of_mem_words hw)] at hw'
        obtain rfl := List.mem_singleton.1 hw'
        exact later w' hw same q hq

end GameBalance.Formula
