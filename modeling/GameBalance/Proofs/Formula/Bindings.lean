import GameBalance.Proofs.Formula.Subst
import Mathlib.Data.List.Pairwise
import Mathlib.Data.List.Nodup

namespace GameBalance.Formula

open Text Grammar

def Bindings.value? (b : Bindings) (name : String) : Option Float :=
  (b.find? (sameIgnoringCase ·.1 name)).map Prod.snd

/-- Names that no formula calls as functions, no two of them the same apart from case. -/
structure Bindings.Proper (b : Bindings) : Prop where
  names : ∀ p ∈ b, IsName p.1.toList
  noBuiltin : ∀ p ∈ b, Builtin.isName p.1 = false
  distinct : b.Pairwise fun p q => sameIgnoringCase p.1 q.1 = false

theorem Bindings.Proper.labels {b : Bindings} (h : b.Proper) : ∀ p ∈ b, IsLabel p.1.toList :=
  fun p hp => (h.names p hp).isLabel

theorem spells_eq (hn : IsName name) (hw : IsName w) :
    spells name w = sameIgnoringCase (.ofList name) (.ofList w) := by
  rw [spells, sameIgnoringCase, lowerAscii, lowerAscii, hn.map_fold, hw.map_fold,
    String.toList_ofList, String.toList_ofList]
  exact decide_eq_decide.2 String.ofList_inj.symm

theorem sameIgnoringCase_of_both (h : sameIgnoringCase s u = true)
    (h' : sameIgnoringCase t u = true) :
    sameIgnoringCase s t = true :=
  decide_eq_true ((of_decide_eq_true h).trans (of_decide_eq_true h').symm)

theorem lookup?_of_same (h : sameIgnoringCase s t = true) :
    Builtin.lookup? s = Builtin.lookup? t := by
  have same : lowerAscii s = lowerAscii t := of_decide_eq_true h
  simp only [Builtin.lookup?, sameIgnoringCase, same]

namespace Bindings

variable {b : Bindings}

theorem inOrder_perm (b : Bindings) : b.inOrder.Perm b :=
  List.mergeSort_perm b _

theorem callsFree (noBuiltin : ∀ p ∈ b, Builtin.isName p.1 = false) : CallsFree b.value? := by
  intro name f function
  cases found : b.find? (sameIgnoringCase ·.1 name) with
  | none => rw [value?, found, Option.map_none]
  | some p =>
    have fits := List.find?_some found
    have builtin := noBuiltin p (List.mem_of_find?_eq_some found)
    rw [Builtin.isName, lookup?_of_same fits, function] at builtin
    cases builtin

theorem find?_spells (names : ∀ p ∈ b, IsName p.1.toList) (hw : IsName w) :
    b.find? (spells ·.1.toList w) = b.find? (sameIgnoringCase ·.1 (.ofList w)) := by
  induction b with
  | nil => rfl
  | cons p b ih =>
    rw [List.find?_cons, List.find?_cons, spells_eq (names p List.mem_cons_self) hw,
      String.ofList_toList, ih fun q hq => names q (List.mem_cons_of_mem p hq)]

theorem writes (names : ∀ p ∈ b, IsName p.1.toList) : Writes (literalIn b) b.value? where
  value hw value := by
    rw [value?, ← find?_spells names hw, Option.map_eq_some_iff] at value
    obtain ⟨⟨name, x⟩, found, rfl⟩ := value
    rw [literalIn, found]
  free hw value := by
    rw [value?, ← find?_spells names hw, Option.map_eq_none_iff] at value
    rw [literalIn, value]
  digits hc := literalIn_eq_self fun p hp => spells_digit (names p hp) hc

theorem Proper.unique (h : b.Proper) (hp : p ∈ b) (hq : q ∈ b)
    (same : sameIgnoringCase p.1 name = true)
    (same' : sameIgnoringCase q.1 name = true) : p = q := by
  have : Std.Symm fun p q : String × Float => sameIgnoringCase p.1 q.1 = false :=
    ⟨fun p q other => Bool.eq_false_iff.2 fun same => Bool.eq_false_iff.1 other
      (decide_eq_true (of_decide_eq_true same).symm)⟩
  refine Decidable.byContradiction fun ne => ?_
  exact Bool.eq_false_iff.1 (h.distinct.forall hp hq ne) (sameIgnoringCase_of_both same same')

theorem Proper.value?_perm (h : b.Proper) {b' : Bindings} (perm : b'.Perm b) :
    b'.value? = b.value? := by
  funext name
  rw [value?, value?]
  cases found : b.find? (sameIgnoringCase ·.1 name) with
  | none =>
    rw [List.find?_eq_none.2 fun p hp => List.find?_eq_none.1 found p (perm.mem_iff.1 hp)]
  | some p =>
    have fits := List.find?_some found
    have hp := List.mem_of_find?_eq_some found
    cases found' : b'.find? (sameIgnoringCase ·.1 name) with
    | none => exact absurd fits (List.find?_eq_none.1 found' p (perm.mem_iff.2 hp))
    | some q =>
      have fits' := List.find?_some found'
      rw [h.unique hp (perm.mem_iff.1 (List.mem_of_find?_eq_some found')) fits fits']

theorem prepareText_eq (names : ∀ p ∈ b, IsLabel p.1.toList)
    (finite : ∀ w ∈ words cs, ∀ p ∈ b.inOrder.find? (spells ·.1.toList w), p.2.isFinite = true) :
    prepareText cs b = .ok (mapWords (literalIn b.inOrder) cs) :=
  foldlM_replaceName (fun p hp => names p ((inOrder_perm b).mem_iff.1 hp)) finite

section Set

variable {name : String} {value : Float}

theorem set_eq (h : name ∉ b.map Prod.fst) (value : Float) :
    b.set name value = b ++ [(name, value)] := by
  have kept : b.filter (·.1 ≠ name) = b := by
    refine List.filter_eq_self.2 fun p hp => decide_eq_true fun eq => h ?_
    exact List.mem_map.2 ⟨p, hp, eq⟩
  rw [set, kept]

theorem mem_set {p : String × Float} :
    p ∈ b.set name value ↔ p.1 = name ∧ p = (name, value) ∨ p.1 ≠ name ∧ p ∈ b := by
  rw [set, List.mem_append, List.mem_filter, List.mem_singleton, decide_eq_true_iff]
  constructor
  · rintro (⟨mem, ne⟩ | rfl)
    · exact .inr ⟨ne, mem⟩
    · exact .inl ⟨rfl, rfl⟩
  · rintro (⟨-, rfl⟩ | ⟨ne, mem⟩)
    · exact .inr rfl
    · exact .inl ⟨mem, ne⟩

theorem mem_unset {p : String × Float} : p ∈ b.unset name ↔ p ∈ b ∧ p.1 ≠ name := by
  rw [unset, List.mem_filter, decide_eq_true_iff]

theorem nodup_set (h : (b.map Prod.fst).Nodup) (name : String) (value : Float) :
    ((b.set name value).map Prod.fst).Nodup := by
  rw [set, List.map_append]
  refine List.nodup_append.2 ⟨h.sublist (List.filter_sublist.map _), List.nodup_singleton _, ?_⟩
  rintro _ kept _ own rfl
  obtain rfl := List.mem_singleton.1 own
  obtain ⟨p, hp, eq⟩ := List.mem_map.1 kept
  exact of_decide_eq_true (List.mem_filter.1 hp).2 eq

theorem nodup_unset (h : (b.map Prod.fst).Nodup) (name : String) :
    ((b.unset name).map Prod.fst).Nodup :=
  h.sublist (List.filter_sublist.map _)

theorem unset_set (b : Bindings) (ne : n ≠ m) (x : Float) :
    (b.set n x).unset m = (b.unset m).set n x := by
  rw [set, unset, List.filter_append, List.filter_filter, List.filter_singleton,
    decide_eq_true ne, set, unset, List.filter_filter]
  simp only [Bool.and_comm]
  rfl

theorem unset_unset (b : Bindings) (m n : String) : (b.unset m).unset n = (b.unset n).unset m := by
  rw [unset, unset, unset, unset, List.filter_filter, List.filter_filter]
  simp only [Bool.and_comm]

theorem set_unset_self (b : Bindings) (n : String) (x : Float) :
    (b.unset n).set n x = b.set n x := by
  rw [set, set, unset, List.filter_filter]
  simp only [Bool.and_self]

theorem unset_set_self (b : Bindings) (n : String) (x : Float) :
    (b.set n x).unset n = b.unset n := by
  rw [set, unset, unset, List.filter_append, List.filter_filter, List.filter_cons_of_neg (by simp),
    List.filter_nil, List.append_nil]
  simp only [Bool.and_self]

theorem lookup_unset (b : Bindings) (ne : m ≠ n) : (b.unset n).lookup m = b.lookup m := by
  induction b with
  | nil => rfl
  | cons p b ih =>
    rw [unset] at ih ⊢
    by_cases own : p.1 = n
    · rw [List.filter_cons_of_neg (by simpa using own), ih, List.lookup_cons,
        beq_eq_false_iff_ne.2 (own ▸ ne)]
    · rw [List.filter_cons_of_pos (by simpa using own), List.lookup_cons, List.lookup_cons, ih]

theorem unset_foldl_set (pairs : List (String × Float)) (b : Bindings) (n : String) :
    (pairs.foldl (fun b (name, value) => b.set name value) b).unset n =
      (pairs.filter (·.1 ≠ n)).foldl (fun b (name, value) => b.set name value) (b.unset n) := by
  induction pairs generalizing b with
  | nil => rfl
  | cons p pairs ih =>
    rw [List.foldl_cons, ih]
    by_cases own : p.1 = n
    · rw [List.filter_cons_of_neg (by simpa using own), ← own, unset_set_self]
    · rw [List.filter_cons_of_pos (by simpa using own), List.foldl_cons, unset_set b own]

theorem unset_ofList (pairs : List (String × Float)) (n : String) :
    (ofList pairs).unset n = ofList (pairs.filter (·.1 ≠ n)) :=
  unset_foldl_set pairs [] n

theorem foldl_set_eq (pairs : List (String × Float)) (h : ((b ++ pairs).map Prod.fst).Nodup) :
    pairs.foldl (fun b (name, value) => b.set name value) b = b ++ pairs := by
  induction pairs generalizing b with
  | nil => exact (List.append_nil b).symm
  | cons p pairs ih =>
    have fresh : p.1 ∉ b.map Prod.fst := by
      rw [List.map_append, List.nodup_append] at h
      exact fun mem => h.2.2 _ mem _ List.mem_cons_self rfl
    change pairs.foldl _ (b.set p.1 p.2) = _
    rw [set_eq fresh, ih (by rwa [List.append_assoc]), List.append_assoc]
    rfl

theorem ofList_eq {pairs : List (String × Float)} (h : (pairs.map Prod.fst).Nodup) :
    ofList pairs = pairs :=
  foldl_set_eq (b := []) pairs h

end Set

end Bindings

theorem evaluate_eq (notBlank : isBlankText f = false)
    (prepared : prepareText f.toList b = .ok cs) :
    evaluate f b = (tokensFrom 0 cs).mapError .token >>= fun ts => (parse ts).mapError .parse >>=
      Expr.eval := by
  have text : evaluate f b = evaluateText (.ofList cs) := by
    rw [evaluate, notBlank, prepare, prepared]
    rfl
  rw [text, evaluateText, tokenize, String.toList_ofList]

end GameBalance.Formula
