import GameBalance.Proofs.Formula.Replacement
import Mathlib.Data.List.Basic

namespace GameBalance.Formula

open Text

/-- Words that are no numbers, with anything else only between them. -/
structure IsPhrase (name : List Char) : Prop where
  begins : wordAt name.head? = true
  ends : wordAt name.getLast? = true
  labels : ∀ w ∈ words name, IsLabel w

variable {name w rest cs a m : List Char} {before : Option Char}

instance {w : List Char} : Decidable (IsLabel w) :=
  decidable_of_iff (w ≠ [] ∧ w.all isWord = true ∧ w.any (!·.isDigit) = true)
    ⟨fun ⟨ne, word, other⟩ => ⟨⟨ne, List.all_eq_true.1 word⟩, by simpa using other⟩,
      fun ⟨⟨ne, word⟩, other⟩ => ⟨ne, List.all_eq_true.2 word, by simpa using other⟩⟩

instance {name : List Char} : Decidable (IsPhrase name) :=
  decidable_of_iff (wordAt name.head? = true ∧ wordAt name.getLast? = true ∧
    ∀ w ∈ words name, IsLabel w)
    ⟨fun ⟨begins, ends, labels⟩ => ⟨begins, ends, labels⟩,
      fun ⟨begins, ends, labels⟩ => ⟨begins, ends, labels⟩⟩

theorem words_map_fold (cs : List Char) : words (cs.map fold) = (words cs).map (List.map fold) := by
  induction cs using word_induction with
  | nil => rw [List.map_nil, words_nil, List.map_nil]
  | other c cs hc ih => rw [List.map_cons, words_other (by rwa [isWord_fold]), words_other hc, ih]
  | word w rest hw hr ih =>
    have word : IsWord (w.map fold) := by
      refine ⟨by simpa using hw.1, fun c hc => ?_⟩
      obtain ⟨d, hd, rfl⟩ := List.mem_map.1 hc
      rw [isWord_fold, hw.2 d hd]
    have next : wordAt (rest.map fold).head? = false := by
      cases rest with
      | nil => rfl
      | cons c cs => exact (isWord_fold c).trans hr
    rw [List.map_append, words_word word next, words_word hw hr, ih, List.map_cons]

theorem exists_word_of_spells (h : spells name m = true) (hw : w ∈ words m) :
    ∃ u ∈ words name, spells u w = true := by
  have same : (words name).map (List.map fold) = (words m).map (List.map fold) := by
    rw [← words_map_fold, ← words_map_fold, of_decide_eq_true h]
  have mem : w.map fold ∈ (words name).map (List.map fold) := by
    rw [same]
    exact List.mem_map_of_mem hw
  obtain ⟨u, hu, eq⟩ := List.mem_map.1 mem
  exact ⟨u, hu, decide_eq_true eq⟩

theorem wordAt_map_fold (c : Option Char) : wordAt (c.map fold) = wordAt c := by
  cases c with
  | none => rfl
  | some c => exact isWord_fold c

theorem wordAt_getLast?_of_spells (h : spells name m = true) :
    wordAt m.getLast? = wordAt name.getLast? := by
  rw [← wordAt_map_fold, ← List.getLast?_map, ← of_decide_eq_true h, List.getLast?_map,
    wordAt_map_fold]

theorem outside_of_spells (begins : wordAt name.head? = true) (ends : wordAt name.getLast? = true)
    (same : spells name m = true) (back : isBoundary (m.getLast?.or before) rest.head? = true) :
    m ≠ [] ∧ wordAt (m.getLast?.or before) = true ∧ wordAt rest.head? = false := by
  have ne := ne_nil_of_spells (ne_nil_of_begins begins) same
  have last : wordAt (m.getLast?.or before) = true := by
    rw [getLast?_or ne, wordAt_getLast?_of_spells same, ends]
  exact ⟨ne, last, by simpa [isBoundary, last] using back⟩

theorem IsLabel.isPhrase (h : IsLabel w) : IsPhrase w where
  begins := h.word.begins
  ends := by
    rw [List.getLast?_eq_some_getLast h.word.1]
    exact h.word.2 _ (List.getLast_mem h.word.1)
  labels v hv := by
    rw [words_of_isWord h.word, List.mem_singleton] at hv
    rwa [hv]

theorem words_ne_nil (hc : c ∈ cs) (h : isWord c = true) : words cs ≠ [] := by
  induction cs using word_induction with
  | nil => cases hc
  | other d cs hd ih =>
    rw [words_other hd]
    obtain rfl | hc := List.mem_cons.1 hc
    · exact Bool.noConfusion (h.symm.trans hd)
    · exact ih hc
  | word w rest hw hr _ =>
    rw [words_word hw hr]
    exact List.cons_ne_nil _ _

theorem words_ne_nil_of_last (h : wordAt cs.getLast? = true) : words cs ≠ [] := by
  cases last : cs.getLast? with
  | none =>
    rw [last] at h
    cases h
  | some c =>
    rw [last] at h
    exact words_ne_nil (List.mem_of_getLast? last) h

theorem not_isLabel_of_digits (digits : ∀ c ∈ a, isWord c = true → c.isDigit = true)
    (hw : w ∈ words a) :
    ¬IsLabel w := by
  intro label
  obtain ⟨c, hc, other⟩ := label.other
  rw [digits c (mem_of_mem_words hw hc) (label.word.2 c hc)] at other
  cases other

theorem append_ne_of_digits (digits : ∀ c ∈ a, isWord c = true → c.isDigit = true)
    (solid : words a ≠ []) (hr : wordAt rest.head? = false) (labels : ∀ w ∈ words m, IsLabel w)
    (ends : wordAt m.getLast? = true)
    (back : wordAt after.head? = false) : a ++ rest ≠ m ++ after := by
  intro split
  have all := congrArg words split
  rw [words_append hr, words_append back] at all
  obtain ⟨u, us, eq⟩ := List.exists_cons_of_ne_nil (words_ne_nil_of_last ends)
  obtain ⟨v, vs, eq'⟩ := List.exists_cons_of_ne_nil solid
  rw [eq, eq'] at all
  obtain ⟨rfl, -⟩ := List.cons.inj all
  have mem : v ∈ words a := eq' ▸ List.mem_cons_self
  exact not_isLabel_of_digits digits mem (labels v (eq ▸ List.mem_cons_self))

namespace IsPhrase

theorem of_spells (hn : IsPhrase name) (h : spells name m = true) : IsPhrase m := by
  have same := of_decide_eq_true h
  refine ⟨?_, ?_, fun w hw => ?_⟩
  · rw [← wordAt_map_fold, ← List.head?_map, ← same, List.head?_map, wordAt_map_fold]
    exact hn.begins
  · rw [wordAt_getLast?_of_spells h]
    exact hn.ends
  · obtain ⟨u, hu, fits⟩ := exists_word_of_spells h hw
    exact (hn.labels u hu).of_spells fits

theorem ne_nil (h : IsPhrase name) : name ≠ [] :=
  ne_nil_of_begins h.begins

theorem standsAt_iff (hn : IsPhrase name) : standsAt name before cs = true ↔
    isBoundary before cs.head? = true ∧ ∃ m rest, cs = m ++ rest ∧ spells name m = true ∧
    wordAt rest.head? = false := by
  have back : ∀ {m rest : List Char}, spells name m = true →
      (isBoundary (m.getLast?.or before) rest.head? = true ↔ wordAt rest.head? = false) :=
      fun {m rest} same => by
    have hm := hn.of_spells same
    have last : wordAt (m.getLast?.or before) = true := by
      rw [getLast?_or hm.ne_nil]
      exact hm.ends
    rw [isBoundary, last]
    cases wordAt rest.head? <;> decide
  rw [Formula.standsAt_iff]
  refine and_congr_right fun _ => exists_congr fun m => exists_congr fun rest =>
    and_congr_right fun _ => ?_
  exact and_congr_right fun same => back same

theorem standsAt_digits (hn : IsPhrase name) (digits : ∀ c ∈ a, isWord c = true → c.isDigit = true)
    (ne : a ≠ []) (hr : wordAt rest.head? = false) : standsAt name before (a ++ rest) = false := by
  obtain ⟨c, a, rfl⟩ := List.exists_cons_of_ne_nil ne
  cases hc : isWord c with
  | false => exact standsAt_other hn.begins hc
  | true =>
    rw [Bool.eq_false_iff]
    intro stands
    obtain ⟨-, m, after, split, same, back⟩ := hn.standsAt_iff.1 stands
    have hm := hn.of_spells same
    exact append_ne_of_digits digits (words_ne_nil List.mem_cons_self hc) hr hm.labels
      hm.ends back split

theorem replaceFrom_digits (hn : IsPhrase name) (literal : List Char)
    (digits : ∀ c ∈ a, isWord c = true → c.isDigit = true) (hr : wordAt rest.head? = false) :
    replaceFrom name literal 0 before (a ++ rest) = a ++ replaceFrom name literal 0 none rest := by
  induction a generalizing before with
  | nil => exact replaceFrom_other hn.begins literal hr before none
  | cons c a ih =>
    have stands : standsAt name before (c :: a ++ rest) = false :=
      hn.standsAt_digits digits (List.cons_ne_nil c a) hr
    rw [List.cons_append] at stands ⊢
    rw [replaceFrom, if_neg (Bool.eq_false_iff.1 stands),
      ih (fun d hd => digits d (List.mem_cons_of_mem c hd)), List.cons_append]

end IsPhrase

theorem split_word {v tail : List Char} (hv : IsWord v) (hr : wordAt tail.head? = false)
    (back : wordAt rest.head? = false)
    (ends : wordAt m.getLast? = true) (eq : v ++ tail = m ++ rest) :
    ∃ m', m = v ++ m' ∧ tail = m' ++ rest ∧
      wordAt m'.head? = false ∧ (m' = [] ∨ wordAt m'.getLast? = true) := by
  obtain ⟨m', rfl, rfl⟩ | ⟨c, rfl, rfl⟩ := List.append_eq_append_iff.1 eq
  · cases m' with
    | nil => exact ⟨[], rfl, rfl, rfl, .inl rfl⟩
    | cons d m' =>
      rw [List.getLast?_append, List.getLast?_eq_some_getLast (List.cons_ne_nil d m'),
        Option.some_or, ←
        List.getLast?_eq_some_getLast] at ends
      exact ⟨d :: m', rfl, rfl, hr, .inr ends⟩
  · cases c with
    | nil => exact ⟨[], (List.append_nil _).symm.trans (List.append_nil _).symm, rfl, rfl, .inl rfl⟩
    | cons d c =>
      have inside : isWord d = true := hv.2 d (by simp)
      exact Bool.noConfusion (inside.symm.trans back)

def exchange (name literal w : List Char) : List Char :=
  if spells name w then literal else w

section Exchange

variable {word number literal : List Char} (label : IsLabel word)
  (digits : ∀ c ∈ number, isWord c = true → c.isDigit = true) (solid : words number ≠ [])

theorem exchange_eq_self (h : ∀ w ∈ words cs, spells word w = false) :
    mapWords (exchange word number) cs = cs :=
  mapWords_eq_self fun w hw => if_neg (Bool.eq_false_iff.1 (h w hw))

include digits solid in
theorem exists_of_exchange (eq : mapWords (exchange word number) cs = m ++ rest)
    (back : wordAt rest.head? = false) (labels : ∀ w ∈ words m, IsLabel w)
    (ends : m = [] ∧ wordAt cs.head? = false ∨ wordAt m.getLast? = true) :
    ∃ after, cs = m ++ after ∧ wordAt after.head? = false := by
  induction cs using word_induction generalizing m with
  | nil =>
    rw [mapWords_nil] at eq
    obtain ⟨rfl, rfl⟩ := List.nil_eq_append_iff.1 eq
    exact ⟨[], rfl, rfl⟩
  | other c cs hc ih =>
    rw [mapWords_other hc] at eq
    cases m with
    | nil => exact ⟨c :: cs, rfl, hc⟩
    | cons d m =>
      rw [List.cons_append] at eq
      obtain ⟨rfl, tail⟩ := List.cons.inj eq
      have last := ends.resolve_left fun empty => List.cons_ne_nil c m empty.1
      rw [words_other hc] at labels
      have ne : m ≠ [] := by
        rintro rfl
        exact Bool.noConfusion (hc.symm.trans last)
      rw [List.getLast?_cons, List.getLast?_eq_some_getLast ne] at last
      obtain ⟨after, rfl, next⟩ := ih tail labels (.inr (by rwa [List.getLast?_eq_some_getLast ne]))
      exact ⟨after, rfl, next⟩
  | word v tail hv hr ih =>
    have last : wordAt m.getLast? = true := by
      refine ends.resolve_left fun ⟨_, other⟩ => ?_
      exact Bool.noConfusion ((wordAt_head hv).symm.trans other)
    rw [mapWords_word hv hr] at eq
    rw [exchange] at eq
    split at eq
    · exact absurd eq (append_ne_of_digits digits solid (wordAt_mapWords hr) labels last back)
    · obtain ⟨m, rfl, left, next, ends⟩ := split_word hv (wordAt_mapWords hr) back last eq
      have ends' : m = [] ∧ wordAt tail.head? = false ∨ wordAt m.getLast? = true :=
        ends.imp_left fun empty => ⟨empty, hr⟩
      rw [words_word hv next] at labels
      obtain ⟨after, rfl, outside⟩ :=
        ih left (fun w hw => labels w (List.mem_cons_of_mem v hw)) ends'
      exact ⟨after, (List.append_assoc v m after).symm, outside⟩

include label in
theorem exchange_literal (h : ∀ c ∈ literal, isWord c = true → c.isDigit = true) :
    mapWords (exchange word number) literal = literal := by
  exact exchange_eq_self fun w hw => Bool.eq_false_iff.2 fun fits =>
    not_isLabel_of_digits h hw (label.of_spells fits)

variable (hn : IsPhrase name) (apart : ∀ w ∈ words name, spells word w = false)

include hn digits solid in
theorem standsAt_of_exchange (hb : wordAt before = false) (hw : IsWord w)
    (hr : wordAt rest.head? = false) (kept : exchange word number w = w)
    (stands : standsAt name before (w ++ mapWords (exchange word number) rest) = true) :
    standsAt name before (w ++ rest) = true := by
  obtain ⟨-, m, after, split, same, back⟩ := hn.standsAt_iff.1 stands
  have hm := hn.of_spells same
  have eq : mapWords (exchange word number) (w ++ rest) = m ++ after := by
    rw [mapWords_word hw hr, kept, split]
  obtain ⟨after', split', back'⟩ := exists_of_exchange digits solid eq back hm.labels (.inr hm.ends)
  refine hn.standsAt_iff.2 ⟨?_, m, after', split', same, back'⟩
  rw [isBoundary, hb, wordAt_head hw]
  rfl

include apart in
theorem exchange_of_spells (same : spells name m = true) :
    mapWords (exchange word number) m = m := by
  refine exchange_eq_self fun w hw => Bool.eq_false_iff.2 fun fits => ?_
  obtain ⟨u, hu, fits'⟩ := exists_word_of_spells same hw
  have own : spells word u = true :=
    decide_eq_true ((of_decide_eq_true fits).trans (of_decide_eq_true fits').symm)
  rw [apart u hu] at own
  cases own

include label digits solid hn apart in
theorem replaceFrom_exchange (hl : ∀ c ∈ literal, isWord c = true → c.isDigit = true)
    (hb : wordAt before = false) :
    replaceFrom name literal 0 before (mapWords (exchange word number) cs) =
      mapWords (exchange word number) (replaceFrom name literal 0 before cs) := by
  have edge : Edge before cs := .inl hb
  clear hb
  induction before, cs using replaceFrom_induction hn.begins with
  | nil before => rw [mapWords_nil, replaceFrom_nil hn.begins, mapWords_nil]
  | other before c cs hc ih =>
    rw [mapWords_other hc, replaceFrom_cons hn.begins literal hc,
      replaceFrom_cons hn.begins literal hc, mapWords_other hc]
    exact congrArg (c :: ·) (ih (show Edge (some c) cs from .inl hc))
  | passes before v rest hv hr stands ih =>
    rw [replaceFrom_passes hn.begins literal hv stands, mapWords_word hv hr,
      mapWords_word hv (wordAt_replaceFrom hn.begins hr), ← ih (.inr hr)]
    by_cases same : spells word v = true
    · rw [exchange, if_pos same, hn.replaceFrom_digits literal digits (wordAt_mapWords hr),
        replaceFrom_other hn.begins literal (wordAt_mapWords hr) none]
    · have kept : exchange word number v = v := if_neg same
      have stands' : standsAt name before (v ++ mapWords (exchange word number) rest) = false :=
        Bool.eq_false_iff.2 fun here => Bool.eq_false_iff.1 stands
          (standsAt_of_exchange digits solid hn (edge.front hv) hv hr kept here)
      rw [kept, replaceFrom_passes hn.begins literal hv stands']
  | stands before m after ne same stands back ih =>
    obtain ⟨-, -, outside⟩ := outside_of_spells hn.begins hn.ends same back
    have stands' : standsAt name before (m ++ mapWords (exchange word number) after) = true := by
      have front := (hn.standsAt_iff.1 stands).1
      refine hn.standsAt_iff.2 ⟨?_, m, _, rfl, same, wordAt_mapWords outside⟩
      rwa [List.head?_append_of_ne_nil _ ne] at front ⊢
    rw [mapWords_append outside, exchange_of_spells apart same,
      replaceFrom_stands literal ne same stands', replaceFrom_stands literal ne same stands,
      mapWords_append (wordAt_replaceFrom hn.begins outside), exchange_literal label hl,
      ih (.inr outside)]

include label digits in
theorem exchange_exchange (cs : List Char) :
    mapWords (exchange word number) (mapWords (exchange word number) cs) =
      mapWords (exchange word number) cs := by
  rw [mapWords_mapWords]
  refine mapWords_congr fun w hw => ?_
  by_cases same : spells word w = true
  · rw [exchange, if_pos same, exchange_literal label digits]
  · have kept : exchange word number w = w := if_neg same
    rw [kept, mapWords_of_isWord (isWord_of_mem_words hw), kept]

end Exchange

def replaceAll (l : List (String × Float)) (cs : List Char) : List Char :=
  l.foldl (fun cs p => replaceFrom p.1.toList (Decimal.plain p.2) 0 none cs) cs

variable {l : List (String × Float)} {p : String × Float}

theorem replaceAll_append (l l' : List (String × Float)) (cs : List Char) :
    replaceAll (l ++ l') cs = replaceAll l' (replaceAll l cs) :=
  List.foldl_append

theorem replaceAll_cons (p : String × Float) (l : List (String × Float)) (cs : List Char) :
    replaceAll (p :: l) cs = replaceAll l (replaceFrom p.1.toList (Decimal.plain p.2) 0 none cs) :=
  rfl

theorem replaceFrom_absent (literal : List Char) (h : occursFrom name before cs = false) :
    replaceFrom name literal 0 before cs = cs := by
  induction cs generalizing before with
  | nil =>
    have here : standsAt name before [] = false := h
    rw [replaceFrom, if_neg (Bool.eq_false_iff.1 here)]
  | cons c cs ih =>
    obtain ⟨here, later⟩ := Bool.or_eq_false_iff.1 h
    rw [replaceFrom, if_neg (Bool.eq_false_iff.1 here), ih later]

theorem replaceName_finite (finite : p.2.isFinite = true) (cs : List Char) :
    replaceName cs p = .ok (replaceFrom p.1.toList (Decimal.plain p.2) 0 none cs) := by
  cases occurs : occursFrom p.1.toList none cs with
  | true => rw [replaceName, occurs, finite, if_pos rfl, if_pos rfl]
  | false => rw [replaceName_absent occurs, replaceFrom_absent _ occurs]

theorem foldlM_eq_replaceAll (finite : ∀ p ∈ l, p.2.isFinite = true) (cs : List Char) :
    l.foldlM replaceName cs = .ok (replaceAll l cs) := by
  induction l generalizing cs with
  | nil => rfl
  | cons p l ih =>
    rw [List.foldlM_cons, replaceName_finite (finite p List.mem_cons_self)]
    exact ih (fun q hq => finite q (List.mem_cons_of_mem p hq)) _

theorem exists_isDigit_literal {x : Float} (h : x.isFinite = true) :
    ∃ c ∈ Decimal.plain x, c.isDigit = true := by
  obtain ⟨c, hc, digit⟩ := Decimal.exists_isDigit (Decimal.numeral?_unsignedText h)
  refine ⟨c, ?_, digit⟩
  rw [Decimal.plain_eq h, Decimal.signed]
  split
  · exact List.mem_cons_of_mem _ hc
  · exact hc

theorem words_literal_ne_nil {x : Float} (h : x.isFinite = true) :
    words (Decimal.plain x) ≠ [] := by
  obtain ⟨c, hc, digit⟩ := exists_isDigit_literal h
  exact words_ne_nil hc (isWord_of_isNamePart (isNamePart_of_isDigit digit))

theorem replaceAll_exchange {word : List Char} {x : Float} (label : IsLabel word)
    (hx : x.isFinite = true)
    (phrases : ∀ p ∈ l, IsPhrase p.1.toList) (finite : ∀ p ∈ l, p.2.isFinite = true)
    (apart : ∀ p ∈ l, ∀ w ∈ words p.1.toList, spells word w = false) :
    replaceAll l (mapWords (exchange word (Decimal.plain x)) cs) =
      mapWords (exchange word (Decimal.plain x)) (replaceAll l cs) := by
  induction l generalizing cs with
  | nil => rfl
  | cons p l ih =>
    obtain ⟨phrase, phrases⟩ := List.forall_mem_cons.1 phrases
    obtain ⟨finite, finites⟩ := List.forall_mem_cons.1 finite
    obtain ⟨free, apart⟩ := List.forall_mem_cons.1 apart
    have swapped : replaceFrom p.1.toList (Decimal.plain p.2) 0 none
        (mapWords (exchange word (Decimal.plain x)) cs) =
        mapWords (exchange word (Decimal.plain x))
        (replaceFrom p.1.toList (Decimal.plain p.2) 0 none cs) :=
      replaceFrom_exchange label (fun c => isDigit_of_mem_literal hx)
        (words_literal_ne_nil hx) phrase free
        (fun c => isDigit_of_mem_literal finite) rfl
    rw [replaceAll_cons, replaceAll_cons, swapped, ih phrases finites apart]

end GameBalance.Formula
