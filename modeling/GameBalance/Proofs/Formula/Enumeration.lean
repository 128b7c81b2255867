import GameBalance.Formula.Verdict
import GameBalance.Proofs.Formula.Precedence
import GameBalance.Proofs.Text.ByteOrder
import Mathlib.Data.List.Rotate

namespace GameBalance.Formula

open Text

variable {b b' l : Bindings} {p q : String × Float}

namespace Bindings

/-- Whether the name of `p` has more characters than that of `q`, or as many and smaller bytes. -/
def Before (p q : String × Float) : Prop :=
  q.1.length < p.1.length ∨ p.1.length = q.1.length ∧ utf8 p.1 < utf8 q.1

instance : DecidableRel Before :=
  fun _ _ => inferInstanceAs (Decidable (_ ∨ _ ∧ _))

theorem before_iff : Before p q ↔ precedes p q = true ∧ p.1 ≠ q.1 := by
  rw [Before, utf8_lt_utf8, precedes_iff]
  constructor
  · rintro (longer | ⟨same, lt⟩)
    · exact ⟨.inl longer, fun eq => longer.ne (congrArg String.length eq).symm⟩
    · exact ⟨.inr ⟨same, lt.le⟩, lt.ne⟩
  · rintro ⟨longer | ⟨same, le⟩, ne⟩
    · exact .inl longer
    · exact .inr ⟨same, le.lt_of_ne ne⟩

variable (distinct : (b.map Prod.fst).Nodup)
include distinct

theorem pairwise_before_inOrder : b.inOrder.Pairwise Before := by
  have distinct' : (b.inOrder.map Prod.fst).Nodup := (b.inOrder_perm.map _).nodup_iff.2 distinct
  have apart : b.inOrder.Pairwise fun p q => p.1 ≠ q.1 := List.pairwise_map.1 distinct'
  exact (b.pairwise_inOrder.and apart).imp before_iff.2

theorem inOrder_eq_of_before (perm : l.Perm b) (sorted : l.Pairwise Before) : b.inOrder = l :=
  inOrder_eq perm (sorted.imp fun before => (before_iff.1 before).1) distinct

theorem inOrder_of_perm (perm : b'.Perm b) : b'.inOrder = b.inOrder :=
  (inOrder_eq (b'.inOrder_perm.trans perm) b'.pairwise_inOrder distinct).symm

end Bindings

open Bindings (Before)

/--
A formula is prepared in the same way, or refused for the same reason, whatever the order in which
the pairs of a map are listed: there is one list of them that descends in the length of names and
then ascends in their bytes, and the names are replaced in its order.
-/
theorem prepare_perm (f : String) (distinct : (b.map Prod.fst).Nodup) (perm : b'.Perm b) :
    prepare f b' = prepare f b ∧ (∃! l : Bindings, l.Perm b ∧ l.Pairwise Before) ∧
      ∀ l : Bindings, l.Perm b → l.Pairwise Before →
      prepare f b' = (l.foldlM replaceName f.toList).map .ofList := by
  have same : b'.inOrder = b.inOrder := Bindings.inOrder_of_perm distinct perm
  refine ⟨?_, ⟨b.inOrder, ⟨b.inOrder_perm, Bindings.pairwise_before_inOrder distinct⟩, ?_⟩, ?_⟩
  · rw [prepare, prepare, prepareText, prepareText, same]
  · rintro l ⟨perm', sorted⟩
    exact (Bindings.inOrder_eq_of_before distinct perm' sorted).symm
  · intro l perm' sorted
    rw [prepare, prepareText, same, Bindings.inOrder_eq_of_before distinct perm' sorted]

def lookalikes : Bindings :=
  [("σ", 0 / 0), ("ς", -1), ("x", 1), ("X", 2)]

theorem prepare_perm_lookalikes :
    (lookalikes.map Prod.fst).Nodup ∧ (lookalikes.rotate 1).Perm lookalikes ∧
    prepare "x*σ" lookalikes = .ok "2*-1" ∧ prepare "x*σ" (lookalikes.rotate 1) = .ok "2*-1" := by
  have distinct : (lookalikes.map Prod.fst).Nodup := by decide
  have perm : (lookalikes.rotate 1).Perm lookalikes := lookalikes.rotate_perm 1
  have sorted : lookalikes.reverse.Pairwise Before := by decide +kernel
  obtain ⟨same, -, replaced⟩ := prepare_perm "x*σ" distinct perm
  have answer : prepare "x*σ" (lookalikes.rotate 1) = .ok "2*-1" := by
    rw [replaced _ lookalikes.reverse_perm sorted]
    exact ok_of_toOption (by decide +kernel)
  exact ⟨distinct, perm, same ▸ answer, answer⟩

-- names that are not put in order are replaced as they come
example : ([("x", 1), ("X", 2)].foldlM replaceName ['x']).toOption = some ['1'] ∧
    ([("X", 2), ("x", 1)].foldlM replaceName ['x']).toOption = some ['2'] := by
  decide +kernel

section

variable (distinct : (b.map Prod.fst).Nodup) (perm : b'.Perm b)
include distinct perm

theorem evaluate_perm (f : String) : evaluate f b' = evaluate f b := by
  rw [evaluate_of_inOrder (Bindings.inOrder_of_perm distinct perm), evaluate_of_inOrder rfl]

theorem validate_perm (f : String) (names : List String) :
    validate f names (some b') = validate f names (some b) := by
  simp only [validate, evaluate_perm distinct perm]

end

end GameBalance.Formula
