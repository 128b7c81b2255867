import GameBalance.Proofs.Formula.Lexing
import GameBalance.Proofs.Formula.Bindings
import GameBalance.Proofs.Formula.Phrase
import Mathlib.Data.String.Basic

namespace GameBalance.Formula

open Text

namespace Bindings

variable {b l : Bindings} {p q r : String × Float} {name : String} {x : Float}

theorem precedes_iff : precedes p q = true ↔
    q.1.length < p.1.length ∨ p.1.length = q.1.length ∧ p.1 ≤ q.1 := by
  rw [precedes, Bool.or_eq_true, Bool.and_eq_true, Bool.not_eq_true', decide_eq_true_eq,
    decide_eq_true_eq, decide_eq_false_iff_not, not_lt]

theorem precedes_trans (h : precedes p q = true) (h' : precedes q r = true) :
    precedes p r = true := by
  rw [precedes_iff] at h h' ⊢
  obtain longer | ⟨same, le⟩ := h
  · exact .inl (by omega)
  · obtain longer | ⟨same', le'⟩ := h'
    · exact .inl (by omega)
    · exact .inr ⟨same.trans same', le_trans le le'⟩

theorem precedes_total (p q : String × Float) : (precedes p q || precedes q p) = true := by
  rw [Bool.or_eq_true, precedes_iff, precedes_iff]
  obtain shorter | same | longer := lt_trichotomy p.1.length q.1.length
  · exact .inr (.inl shorter)
  · obtain le | le := le_total p.1 q.1
    · exact .inl (.inr ⟨same, le⟩)
    · exact .inr (.inr ⟨same.symm, le⟩)
  · exact .inl (.inl longer)

theorem precedes_antisymm (h : precedes p q = true) (h' : precedes q p = true) : p.1 = q.1 := by
  rw [precedes_iff] at h h'
  obtain longer | ⟨same, le⟩ := h
  · omega
  · obtain longer | ⟨-, le'⟩ := h'
    · omega
    · exact le_antisymm le le'

theorem pairwise_inOrder (b : Bindings) : b.inOrder.Pairwise fun p q => precedes p q = true :=
  @List.pairwise_mergeSort _ precedes (fun _ _ _ => precedes_trans) precedes_total b

theorem inOrder_eq (perm : l.Perm b) (sorted : l.Pairwise fun p q => precedes p q = true)
    (distinct : (b.map Prod.fst).Nodup) : b.inOrder = l := by
  refine List.Perm.eq_of_pairwise (fun p q hp hq h h' => ?_) (pairwise_inOrder b) sorted
    (b.inOrder_perm.trans perm.symm)
  exact List.inj_on_of_nodup_map distinct (b.inOrder_perm.mem_iff.1 hp) (perm.mem_iff.1 hq)
    (precedes_antisymm h h')

theorem find?_inOrder (mem : (name, x) ∈ b) (single : ∀ y, (name, y) ∈ b → y = x)
    (first : ∀ p ∈ b, spells name.toList p.1.toList = true → name ≤ p.1) :
    b.inOrder.find? (spells ·.1.toList name.toList) = some (name, x) := by
  have self : spells name.toList name.toList = true := decide_eq_true rfl
  have listed := b.inOrder_perm.mem_iff.2 mem
  cases found : b.inOrder.find? (spells ·.1.toList name.toList) with
  | none => exact absurd self (List.find?_eq_none.1 found _ listed)
  | some q =>
    obtain ⟨fits, before, after, split, others⟩ := List.find?_eq_some_iff_append.1 found
    have hq : q ∈ b := b.inOrder_perm.mem_iff.1 (List.mem_of_find?_eq_some found)
    rw [split] at listed
    obtain early | late := List.mem_append.1 listed
    · have other := others _ early
      rw [self] at other
      cases other
    obtain rfl | late := List.mem_cons.1 late
    · rfl
    have sorted := pairwise_inOrder b
    rw [split] at sorted
    have precedes := (List.pairwise_cons.1 (List.pairwise_append.1 sorted).2.1).1 _ late
    -- `q` has as many characters as the name, so it comes
    -- no later by code points, and no earlier either
    have same : q.1.length = name.length := by
      rw [← String.length_toList, ← String.length_toList]
      exact spells_length fits
    obtain longer | ⟨-, le⟩ := precedes_iff.1 precedes
    · exact absurd longer (by simp [same])
    · rw [spells_comm] at fits
      have eq : q.1 = name := le_antisymm le (first q hq fits)
      rw [← single q.2 (eq ▸ hq), ← eq]

end Bindings

theorem evaluate_of_inOrder {f : String} {b l : Bindings} (order : b.inOrder = l) : evaluate f b =
    if isBlankText f then .ok 0
      else (l.foldlM replaceName f.toList).map .ofList >>= evaluateText := by
  rw [evaluate, prepare, prepareText, order]

theorem ok_of_toOption {r : Except ε α} (h : r.toOption = some a) : r = .ok a := by
  cases r with
  | error => cases h
  | ok => exact congrArg Except.ok (Option.some.inj h)

def write (name : String) (x : Float) (f : String) : String :=
  .ofList (replaceFrom name.toList (Decimal.plain x) 0 none f.toList)

/-- Formulas mean the value wherever they refer to the name. -/
def Bindings.Reads (b : Bindings) (name : String) (x : Float) : Prop :=
  ∀ f, evaluate f b = evaluate (write name x f) b

theorem blank_mapWords (h : ∀ w ∈ words cs, ∃ c ∈ g w, isBlank c = false) :
    (mapWords g cs).all isBlank = cs.all isBlank := by
  induction cs using word_induction with
  | nil => rw [mapWords_nil]
  | other c cs hc ih =>
    rw [words_other hc] at h
    rw [mapWords_other hc, List.all_cons, List.all_cons, ih h]
  | word w rest hw hr ih =>
    rw [words_word hw hr] at h
    obtain ⟨c, hc, solid⟩ := h w List.mem_cons_self
    obtain ⟨d, hd⟩ := List.exists_mem_of_ne_nil w hw.1
    have solid' : isBlank d = false := Bool.eq_false_iff.2 fun blank =>
      Bool.noConfusion ((hw.2 d hd).symm.trans (isWord_of_isBlank blank))
    have put : (g w).all isBlank = false := List.all_eq_false.2 ⟨c, hc, Bool.eq_false_iff.1 solid⟩
    have stood : w.all isBlank = false := List.all_eq_false.2 ⟨d, hd, Bool.eq_false_iff.1 solid'⟩
    rw [mapWords_word hw hr, List.all_append, List.all_append, put, stood, Bool.false_and,
      Bool.false_and]

theorem toList_write {name f : String} {x : Float} (hn : IsWord name.toList) :
    (write name x f).toList = mapWords (exchange name.toList (Decimal.plain x)) f.toList := by
  rw [write, String.toList_ofList, replaceFrom_eq hn _ (.inl rfl)]
  rfl

theorem isBlankText_write {name f : String} {x : Float} (hn : IsWord name.toList)
    (h : x.isFinite = true) :
    isBlankText (write name x f) = isBlankText f := by
  have solid : ∀ {c}, isWord c = true → isBlank c = false :=
    fun hc => Bool.eq_false_iff.2 fun blank =>
    Bool.noConfusion (hc.symm.trans (isWord_of_isBlank blank))
  rw [isBlankText, isBlankText, toList_write hn]
  refine blank_mapWords fun w hw => ?_
  rw [exchange]
  split
  · obtain ⟨c, hc, digit⟩ := exists_isDigit_literal h
    exact ⟨c, hc, solid (isWord_of_isNamePart (isNamePart_of_isDigit digit))⟩
  · obtain ⟨c, hc⟩ := List.exists_mem_of_ne_nil w (isWord_of_mem_words hw).1
    exact ⟨c, hc, solid ((isWord_of_mem_words hw).2 c hc)⟩

theorem replaceAll_write {l : Bindings} {word : List Char} {n : String} {x : Float}
    (label : IsLabel word)
    (phrases : ∀ p ∈ l, IsPhrase p.1.toList) (finite : ∀ p ∈ l, p.2.isFinite = true)
    (apart : ∀ p ∈ l, spells p.1.toList word = true ∨ ∀ w ∈ words p.1.toList, spells word w = false)
    (found : l.find? (spells ·.1.toList word) = some (n, x)) :
    replaceAll l (mapWords (exchange word (Decimal.plain x)) cs) = replaceAll l cs := by
  obtain ⟨fits, before, after, rfl, others⟩ := List.find?_eq_some_iff_append.1 found
  obtain ⟨phrases, -⟩ := List.forall_mem_append.1 phrases
  obtain ⟨finite, later⟩ := List.forall_mem_append.1 finite
  have hx : x.isFinite = true := later (n, x) List.mem_cons_self
  have free : ∀ p ∈ before, ∀ w ∈ words p.1.toList, spells word w = false := fun p hp =>
    (apart p (List.mem_append_left _ hp)).resolve_left fun same => by simpa [same] using others p hp
  have own : ∀ cs, replaceFrom n.toList (Decimal.plain x) 0 none cs =
      mapWords (exchange word (Decimal.plain x)) cs := fun cs => by
    have same : exchange n.toList (Decimal.plain x) = exchange word (Decimal.plain x) := by
      funext w
      rw [exchange, exchange, spells, spells, of_decide_eq_true fits]
    have word' : IsWord n.toList := isWord_of_spells label.word (spells_comm.trans fits)
    rw [replaceFrom_eq word' _ (.inl rfl), ← same]
    rfl
  have swapped : replaceAll before (mapWords (exchange word (Decimal.plain x)) cs) =
      mapWords (exchange word (Decimal.plain x)) (replaceAll before cs) :=
    replaceAll_exchange label hx phrases finite free
  rw [replaceAll_append, replaceAll_append, replaceAll_cons, replaceAll_cons, swapped, own, own,
    exchange_exchange label fun c => isDigit_of_mem_literal hx]

theorem Bindings.reads_first {b : Bindings} {name n : String} {x : Float}
    (label : IsLabel name.toList)
    (phrases : ∀ p ∈ b, IsPhrase p.1.toList) (finite : ∀ p ∈ b, p.2.isFinite = true)
    (apart : ∀ p ∈ b, spells p.1.toList name.toList = true ∨ ∀ w ∈ words p.1.toList,
      spells name.toList w = false)
    (found : b.inOrder.find? (spells ·.1.toList name.toList) = some (n, x)) : b.Reads name x := by
  intro f
  have listed : ∀ {p}, p ∈ b.inOrder → p ∈ b := fun hp => b.inOrder_perm.mem_iff.1 hp
  have hx : x.isFinite = true := finite (n, x) (listed (List.mem_of_find?_eq_some found))
  have blank' := isBlankText_write (f := f) label.word hx
  have prepared : ∀ cs, prepareText cs b = .ok (replaceAll b.inOrder cs) :=
    foldlM_eq_replaceAll fun p hp => finite p (listed hp)
  cases blank : isBlankText f with
  | true =>
    rw [blank] at blank'
    rw [evaluate, evaluate, if_pos blank, if_pos blank']
  | false =>
    rw [blank] at blank'
    rw [evaluate_eq blank (prepared _), evaluate_eq blank' (prepared _), toList_write label.word,
      replaceAll_write label (fun p hp => phrases p (listed hp)) (fun p hp => finite p (listed hp))
        (fun p hp => apart p (listed hp)) found]

end GameBalance.Formula
