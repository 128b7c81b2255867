import GameBalance.Proofs.Formula.Precedence
import Mathlib.Data.List.Find

namespace GameBalance.Formula

open Text

variable {cs w : List Char} {b l : Bindings} {p q : String × Float} {f : String}

/--
Whether a text has a word that the name is apart from case, while its value has no decimal text.
-/
def Stuck (p : String × Float) (cs : List Char) : Bool :=
  !p.2.isFinite && (words cs).any (spells p.1.toList)

theorem stuck_iff :
    Stuck p cs = true ↔ p.2.isFinite = false ∧ ∃ w ∈ words cs, spells p.1.toList w = true := by
  rw [Stuck, Bool.and_eq_true, Bool.not_eq_true', List.any_eq_true]

def Disjoint (p q : String × Float) : Prop :=
  ∀ w, spells p.1.toList w = true → spells q.1.toList w = false

theorem disjoint_of_names (hp : IsName p.1.toList) (hq : IsName q.1.toList)
    (h : sameIgnoringCase p.1 q.1 = false) :
    Disjoint p q := by
  intro w hw
  refine Bool.eq_false_iff.2 fun hw' => Bool.eq_false_iff.1 h ?_
  have same : spells p.1.toList q.1.toList = true :=
    decide_eq_true ((of_decide_eq_true hw).trans (of_decide_eq_true hw').symm)
  rwa [spells_eq hp hq, String.ofList_toList, String.ofList_toList] at same

theorem finite_of_not_stuck (h : Stuck p cs = false) (hw : w ∈ words cs)
    (same : spells p.1.toList w = true) :
    p.2.isFinite = true := by
  rw [← Bool.not_eq_false]
  exact fun infinite => Bool.eq_false_iff.1 h (stuck_iff.2 ⟨infinite, w, hw, same⟩)

theorem replaceName_of_stuck (hn : IsWord p.1.toList) (h : Stuck p cs = true) :
    replaceName cs p = .error (.nonFiniteBinding p.1 p.2) := by
  obtain ⟨infinite, w, hw, same⟩ := stuck_iff.1 h
  rw [replaceName, occursFrom_eq hn (.inl rfl), if_pos (List.any_eq_true.2 ⟨w, hw, same⟩),
    if_neg (Bool.eq_false_iff.1 infinite)]

theorem occurs_literalIn (hq : IsLabel q.1.toList) (apart : Disjoint p q)
    (free : Stuck p cs = false) :
    (words (mapWords (literalIn [p]) cs)).any (spells q.1.toList) =
      (words cs).any (spells q.1.toList) := by
  rw [words_mapWords, List.any_flatMap, Bool.eq_iff_iff, List.any_eq_true, List.any_eq_true]
  refine exists_congr fun w => and_congr_right fun hw => Bool.eq_iff_iff.1 ?_
  cases same : spells p.1.toList w with
  | true =>
    rw [literalIn_first [] same, apart w same, List.any_eq_false]
    exact fun v hv => Bool.eq_false_iff.1 (spells_literal hq (finite_of_not_stuck free hw same) hv)
  | false =>
    rw [literalIn_later [] same, literalIn_eq_self (by simp),
      words_of_isWord (isWord_of_mem_words hw)]
    exact Bool.or_false _

theorem stuck_literalIn (hq : IsLabel q.1.toList) (apart : Disjoint p q)
    (free : Stuck p cs = false) :
    Stuck q (mapWords (literalIn [p]) cs) = Stuck q cs := by
  rw [Stuck, Stuck, occurs_literalIn hq apart free]

theorem foldlM_replaceName_stuck (names : ∀ p ∈ l, IsLabel p.1.toList)
    (distinct : l.Pairwise Disjoint) (found : l.find? (Stuck · cs) = some p) :
    l.foldlM replaceName cs = .error (.nonFiniteBinding p.1 p.2) := by
  induction l generalizing cs with
  | nil => cases found
  | cons q l ih =>
    obtain ⟨hq, names⟩ := List.forall_mem_cons.1 names
    obtain ⟨apart, distinct⟩ := List.pairwise_cons.1 distinct
    rw [List.foldlM_cons]
    cases stuck : Stuck q cs with
    | true =>
      rw [List.find?_cons, stuck] at found
      cases found
      rw [replaceName_of_stuck hq.word stuck]
      rfl
    | false =>
      rw [List.find?_cons, stuck] at found
      have later : l.find? (Stuck · (mapWords (literalIn [q]) cs)) = l.find? (Stuck · cs) :=
        List.find?_congr fun r hr => stuck_literalIn (names r hr) (apart r hr) stuck
      rw [replaceName_eq hq.word fun w hw => finite_of_not_stuck stuck hw]
      exact ih names distinct (later.trans found)

theorem literalIn_of_mem (distinct : b.Pairwise Disjoint) (hp : p ∈ b)
    (same : spells p.1.toList w = true) :
    literalIn b w = Decimal.plain p.2 := by
  induction b with
  | nil => cases hp
  | cons q b ih =>
    obtain ⟨apart, distinct⟩ := List.pairwise_cons.1 distinct
    obtain rfl | hp := List.mem_cons.1 hp
    · exact literalIn_first b same
    · have other : spells q.1.toList w = false :=
        Bool.eq_false_iff.2 fun same' => Bool.eq_false_iff.1 (apart p hp w same') same
      rw [literalIn_later b other, ih distinct hp]

theorem literalIn_perm (distinct : b.Pairwise Disjoint) (distinct' : l.Pairwise Disjoint)
    (perm : l.Perm b) :
    literalIn l w = literalIn b w := by
  by_cases bound : ∃ p ∈ b, spells p.1.toList w = true
  · obtain ⟨p, hp, same⟩ := bound
    rw [literalIn_of_mem distinct hp same, literalIn_of_mem distinct' (perm.mem_iff.2 hp) same]
  · have free : ∀ p ∈ b, spells p.1.toList w = false := fun p hp =>
      Bool.eq_false_iff.2 fun same => bound ⟨p, hp, same⟩
    rw [literalIn_eq_self free, literalIn_eq_self fun p hp => free p (perm.mem_iff.1 hp)]

theorem Bindings.exists_first {b : Bindings} (h : ∃ p ∈ b, Stuck p cs = true) :
    ∃ p ∈ b, Stuck p cs = true ∧ (∀ q ∈ b, Stuck q cs = true → Bindings.precedes p q = true) ∧
      b.inOrder.find? (Stuck · cs) = some p := by
  obtain ⟨q, hq, stuck⟩ := h
  cases found : b.inOrder.find? (Stuck · cs) with
  | none => exact absurd stuck (List.find?_eq_none.1 found q (b.inOrder_perm.mem_iff.2 hq))
  | some p =>
    obtain ⟨stuck, before, after, split, free⟩ := List.find?_eq_some_iff_append.1 found
    refine ⟨p, b.inOrder_perm.mem_iff.1 (List.mem_of_find?_eq_some found), stuck,
      fun r hr stuck' => ?_, rfl⟩
    have sorted := Bindings.pairwise_inOrder b
    have listed := b.inOrder_perm.mem_iff.2 hr
    rw [split] at sorted listed
    obtain early | late := List.mem_append.1 listed
    · exact absurd stuck' (by simpa using free r early)
    · obtain rfl | late := List.mem_cons.1 late
      · simpa using precedes_total r r
      · exact (List.pairwise_cons.1 (List.pairwise_append.1 sorted).2.1).1 r late

/--
Names replaced one after the other, the longest first, are replaced in one
pass over the words of the formula; where a value without a decimal text
is needed, the first of those in the order of replacement is refused.
-/
theorem prepare_simultaneous (f : String) (b : Bindings) (names : ∀ p ∈ b, IsName p.1.toList)
    (distinct : b.Pairwise fun p q => sameIgnoringCase p.1 q.1 = false) :
    ((∀ p ∈ b, Stuck p f.toList = false) →
      prepare f b = .ok (.ofList (mapWords (literalIn b) f.toList))) ∧
      ((∃ p ∈ b, Stuck p f.toList = true) → ∃ p ∈ b, Stuck p f.toList = true ∧
        (∀ q ∈ b, Stuck q f.toList = true → Bindings.precedes p q = true) ∧
          prepare f b = .error (.nonFiniteBinding p.1 p.2)) := by
  have listed : ∀ {p}, p ∈ b.inOrder → p ∈ b := fun hp => b.inOrder_perm.mem_iff.1 hp
  have labels : ∀ p ∈ b, IsLabel p.1.toList := fun p hp => (names p hp).isLabel
  have disjoint : b.Pairwise Disjoint :=
    distinct.imp_of_mem fun hp hq => disjoint_of_names (names _ hp) (names _ hq)
  have disjoint' : b.inOrder.Pairwise Disjoint := by
    refine (b.inOrder_perm.pairwise_iff fun {p q} apart w same => ?_).2 disjoint
    exact Bool.eq_false_iff.2 fun same' => Bool.eq_false_iff.1 (apart w same') same
  constructor
  · intro free
    have needed : ∀ w ∈ words f.toList, ∀ p ∈ b.inOrder.find? (spells ·.1.toList w),
        p.2.isFinite = true :=
      fun w hw p hp => by
        have same := List.find?_some hp
        exact finite_of_not_stuck (free p (listed (List.mem_of_find?_eq_some hp))) hw same
    rw [prepare, Bindings.prepareText_eq labels needed,
      mapWords_congr fun w _ => literalIn_perm disjoint disjoint' b.inOrder_perm]
    rfl
  · intro some
    obtain ⟨p, hp, stuck, first, found⟩ := Bindings.exists_first some
    refine ⟨p, hp, stuck, first, ?_⟩
    rw [prepare, prepareText,
      foldlM_replaceName_stuck (fun q hq => labels q (listed hq)) disjoint' found]
    rfl

theorem prepare_simultaneous_kelvin : prepare "xk-X" [("x", -3), ("k", 0 / 0)] = .ok "xk--3" ∧
    prepare "x*\u212a" [("x", -3), ("k", 0 / 0)] = .error (.nonFiniteBinding "k" (0 / 0)) := by
  have names : ∀ p ∈ [("x", (-3 : Float)), ("k", 0 / 0)], IsName p.1.toList := by
    simp only [List.forall_mem_cons]
    exact ⟨by decide, by decide, by simp⟩
  have distinct : [("x", (-3 : Float)), ("k", 0 / 0)].Pairwise fun p q =>
      sameIgnoringCase p.1 q.1 = false := by
    simp only [List.pairwise_cons]
    decide
  have free : ∀ {cs}, Stuck ("x", -3) cs = false := by
    intro cs
    rw [Stuck, show (-3 : Float).isFinite = true by decide +kernel]
    rfl
  constructor
  · rw [(prepare_simultaneous "xk-X" _ names distinct).1 ?_]
    · exact congrArg (Except.ok ∘ String.ofList) (by decide +kernel)
    · simp only [List.forall_mem_cons]
      exact ⟨free, by decide +kernel, by simp⟩
  · obtain ⟨p, hp, stuck, -, refused⟩ := (prepare_simultaneous "x*\u212a" _ names distinct).2
      ⟨("k", 0 / 0), by simp, by decide +kernel⟩
    obtain rfl | rfl : p = ("x", -3) ∨ p = ("k", 0 / 0) := by simpa using hp
    · rw [free] at stuck
      cases stuck
    · exact refused

end GameBalance.Formula
