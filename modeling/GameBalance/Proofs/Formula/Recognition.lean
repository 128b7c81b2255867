import GameBalance.Proofs.Formula.Soundness
import GameBalance.Proofs.Formula.Unambiguity

namespace GameBalance.Formula

namespace Grammar

theorem Derives.parse_reaches (h : Derives ts e d) : Reaches (parse ts) d (.ok e) := by
  obtain ⟨n, h⟩ := h
  have chain : Reaches (readSumChain ⟨ts ++ [], 0, 0⟩) (0 + d) _ :=
    h.reaches ends_nil (Nat.zero_le _)
  have read := readExpression_reaches ends_nil chain
  rw [List.append_nil, Nat.zero_add] at read
  rw [parse_eq h.ne_nil]
  refine (read.andThen fun le => ?_).of_eq (Nat.max_self d)
  exact .refl le _

theorem derives_of_parse (h : parse ts = .ok e) : ∃ d, Derives ts e d := by
  have ne : ts ≠ [] := by
    rintro rfl
    cases h
  rw [parse_eq ne] at h
  obtain ⟨⟨e', s⟩, read, h⟩ := ok_of_bind h
  obtain ⟨us, _, ⟨rfl, n, d, expr⟩, passes⟩ := sound.1 _ _ _ read
  dsimp only at h
  split at h
  · rename_i hs
    cases h
    have rest : ts = us ++ s.rest := passes.rest
    rw [hs, List.append_nil] at rest
    exact ⟨d, n, rest ▸ expr⟩
  · cases h

end Grammar

open Grammar

theorem parse_eq_ok_iff : parse ts = .ok e ↔ ∃ d, Derives ts e d ∧ d ≤ maxDepth := by
  constructor
  · intro h
    obtain ⟨d, derives⟩ := derives_of_parse h
    refine ⟨d, derives, Nat.le_of_not_lt fun lt => ?_⟩
    obtain ⟨p, deep⟩ := derives.parse_reaches.2 lt
    rw [h] at deep
    cases deep
  · intro ⟨d, derives, le⟩
    exact derives.parse_reaches.1 le

/--
A token list has at most one tree and one nesting. It is read as its tree if its nesting is allowed,
refused for its depth if it has a tree but is nested deeper, and refused in any case if it has none.
-/
theorem parse_recognizes (ts : List Token) :
    (∀ e d e' d', Derives ts e d → Derives ts e' d' → e = e' ∧ d = d') ∧
    (∀ e, parse ts = .ok e ↔ ∃ d, Derives ts e d ∧ d ≤ maxDepth) ∧
    (∀ e d, Derives ts e d → maxDepth < d → ∃ p, parse ts = .error (.tooDeep p)) ∧
    ((¬∃ e d, Derives ts e d) → ∃ error, parse ts = .error error) := by
  refine ⟨fun e d e' d' h h' => h.unique h', fun e => parse_eq_ok_iff,
    fun e d h lt => h.parse_reaches.2 lt, ?_⟩
  intro none
  cases h : parse ts with
  | error error => exact ⟨error, rfl⟩
  | ok e =>
    obtain ⟨d, derives⟩ := derives_of_parse h
    exact absurd ⟨e, d, derives⟩ none

end GameBalance.Formula
