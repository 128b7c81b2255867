import GameBalance.Proofs.Formula.Lexing
import GameBalance.Proofs.Formula.Recognition
import Mathlib.Tactic.Ring

namespace GameBalance.Formula

open Text

namespace Grammar

def powerHeight (d : Nat) : Nat :=
  d * (d + 1)

theorem powerHeight_succ (d : Nat) : powerHeight (1 + d) = powerHeight d + 2 * d + 2 := by
  rw [powerHeight, powerHeight]
  ring

theorem powerHeight_mono (h : d ≤ d') : powerHeight d ≤ powerHeight d' :=
  Nat.mul_le_mul h (Nat.succ_le_succ h)

mutual

theorem Expression.height_le : Expression n ts e d → e.height ≤ powerHeight d + d + n
  | .first h => by
    have first := h.height_le
    have links := h.links_le
    omega
  | @Expression.link n _ _ d _ _ k _ _ d' h _ h' => by
    have left := h.height_le
    have right := h'.height_le
    have links := h'.links_le
    have mono := powerHeight_mono (Nat.le_max_left d (n + 1 + d'))
    have mono' := powerHeight_mono (show d' ≤ max d (n + 1 + d') by omega)
    rw [Expr.height]
    omega

theorem Term.height_le : Term n ts e d → e.height ≤ powerHeight d + n
  | .first h => h.height_le
  | @Term.link n _ _ d _ _ _ _ d' h _ h' => by
    have left := h.height_le
    have right := h'.height_le
    have mono := powerHeight_mono (Nat.le_max_left d (n + 1 + d'))
    have mono' := powerHeight_mono (show d' ≤ max d (n + 1 + d') by omega)
    rw [Expr.height]
    omega

theorem Power.height_le : Power ts e d → e.height ≤ powerHeight d
  | .base h => Nat.le_trans h.height_le (Nat.sub_le _ 1)
  | @Power.raised _ _ d _ _ d' h h' => by
    have base := h.height_le
    have exponent := h'.height_le
    have succ := powerHeight_succ d'
    have mono := powerHeight_mono (Nat.le_max_left d (1 + d'))
    have mono' := powerHeight_mono (Nat.le_max_right d (1 + d'))
    rw [Expr.height]
    omega

theorem Unary.height_le : Unary ts e d → e.height ≤ powerHeight d - 1
  | .primary h => h.height_le
  | @Unary.plus _ _ d h => by
    have operand := h.height_le
    have succ := powerHeight_succ d
    omega
  | @Unary.minus _ _ d h => by
    have operand := h.height_le
    have succ := powerHeight_succ d
    rw [Expr.height]
    omega

theorem Primary.height_le : Primary ts e d → e.height ≤ powerHeight d - 1
  | .number => Nat.zero_le _
  | .var _ => Nat.zero_le _
  | @Primary.parens _ _ _ d h => by
    have inner := h.height_le
    have links := h.links_le
    have succ := powerHeight_succ d
    omega
  | @Primary.call _ _ _ _ d _ h => by
    have arguments := h.height_le
    have succ := powerHeight_succ d
    rw [Expr.height]
    omega

theorem Arguments.height_le : Arguments ts es d → Expr.heightAll es ≤ powerHeight d + 2 * d
  | .last h => by
    have only := h.height_le
    have links := h.links_le
    rw [Expr.heightAll, Expr.heightAll]
    omega
  | @Arguments.more _ _ _ d _ _ d' h h' => by
    have first := h.height_le
    have links := h.links_le
    have others := h'.height_le
    have mono := powerHeight_mono (Nat.le_max_left d d')
    have mono' := powerHeight_mono (Nat.le_max_right d d')
    rw [Expr.heightAll]
    omega

end

theorem Derives.height_le (h : Derives ts e d) : e.height ≤ d * (d + 3) := by
  obtain ⟨n, h⟩ := h
  calc e.height ≤ powerHeight d + d + n := h.height_le
    _ ≤ powerHeight d + d + d := Nat.add_le_add_left h.links_le _
    _ = d * (d + 3) := by rw [powerHeight]; ring

theorem Term.longer (h : Term n ts e d) (lt : n < d) :
    ∃ ts' e', Term (n + 1) ts' e' d ∧ e'.height = e.height + 1 := by
  have longer := h.link .star (.base (.primary (.number (x := 1))))
  rw [Nat.max_eq_left lt] at longer
  exact ⟨_, _, longer, by simp [Expr.height]⟩

theorem Expression.longer (h : Expression n ts e d) (lt : n < d) :
    ∃ ts' e', Expression (n + 1) ts' e' d ∧ e'.height = e.height + 1 := by
  have longer := h.link .plus (.first (.base (.primary (.number (x := 1)))))
  rw [Nat.max_eq_left lt] at longer
  exact ⟨_, _, longer, by simp [Expr.height]⟩

theorem exists_links (chain : Nat → List Token → Expr → Prop)
    (longer : ∀ n ts e, n < d → chain n ts e → ∃ ts' e', chain (n + 1) ts' e' ∧
      e'.height = e.height + 1)
    (h : chain 0 ts e) : ∀ n ≤ d, ∃ ts' e', chain n ts' e' ∧ e'.height = e.height + n := by
  intro n
  induction n with
  | zero => exact fun _ => ⟨ts, e, h, rfl⟩
  | succ n ih =>
    intro lt
    obtain ⟨us, l, links, height⟩ := ih (Nat.le_of_lt lt)
    obtain ⟨vs, r, more, higher⟩ := longer n us l lt links
    exact ⟨vs, r, more, by rw [higher, height, Nat.add_assoc]⟩

/--
The highest formula: a call of the one before it, raised to a power, at the front of two chains.
-/
theorem exists_highest (d : Nat) : ∃ ts e, Expression d ts e d ∧ e.height = d * (d + 3) := by
  induction d with
  | zero => exact ⟨_, _, .first (.first (.base (.primary (.number (x := 1))))), rfl⟩
  | succ d ih =>
    obtain ⟨ts, e, inner, height⟩ := ih
    have function : Denotes "abs" .abs := lookup?_eq_some_iff.1 (by decide)
    have call := Unary.primary (.call function (.last inner))
    have power := Power.raised call (.base (.primary (.number (x := 1))))
    rw [Nat.max_eq_left (by omega), Nat.add_comm] at power
    obtain ⟨us, l, term, links⟩ :=
      exists_links (Term · · · (d + 1)) (fun _ _ _ lt h => h.longer lt) (.first power) (d + 1)
      (Nat.le_refl _)
    obtain ⟨vs, l', sum, links'⟩ :=
      exists_links (Expression · · · (d + 1)) (fun _ _ _ lt h => h.longer lt) (.first term)
      (d + 1) (Nat.le_refl _)
    refine ⟨vs, l', sum, ?_⟩
    have base : (Expr.binary .pow (.call .abs [e]) (.number 1)).height = d * (d + 3) + 2 := by
      simp [Expr.height, Expr.heightAll, height]
    calc l'.height = d * (d + 3) + 2 + (d + 1) + (d + 1) := by rw [links', links, base]
      _ = (d + 1) * (d + 1 + 3) := by ring

theorem Unary.signs (h : Unary ts e d) (n : Nat) :
    ∃ e', Unary (List.replicate n (.operator .minus) ++ ts) e' (n + d) ∧
    e'.height = n + e.height := by
  induction n with
  | zero => exact ⟨e, by simpa using h, by simp⟩
  | succ n ih =>
    obtain ⟨e', signed, height⟩ := ih
    refine ⟨.negate e', ?_, by rw [Expr.height, height]; omega⟩
    rw [show n + 1 + d = 1 + (n + d) by omega]
    exact .minus signed

end Grammar

open Grammar

/--
Of the formulas nested `d` levels deep that are accepted the highest
tree has height `d * (d + 3)`. So the limit on the nesting is one on
the height of the tree only for those nested `14` levels deep or less.
-/
theorem parse_height (d : Nat) (le : d ≤ maxDepth) :
    IsGreatest {h | ∃ ts e, parse ts = .ok e ∧ Derives ts e d ∧ e.height = h} (d * (d + 3)) ∧
      ((∀ ts e, parse ts = .ok e → Derives ts e d → e.height ≤ maxDepth) ↔ d ≤ 14) := by
  obtain ⟨ts, e, expr, height⟩ := exists_highest d
  have derives : Derives ts e d := ⟨d, expr⟩
  have parsed : parse ts = .ok e := parse_eq_ok_iff.2 ⟨d, derives, le⟩
  refine ⟨⟨⟨ts, e, parsed, derives, height⟩, ?_⟩, fun bounded => ?_, fun small ts e _ derives => ?_⟩
  · rintro _ ⟨ts, e, -, derives, rfl⟩
    exact derives.height_le
  · have bound : d * (d + 3) ≤ maxDepth := height ▸ bounded ts e parsed derives
    refine Nat.le_of_not_lt fun deep => absurd bound (Nat.not_le_of_lt ?_)
    calc maxDepth < 15 * (15 + 3) := by decide
      _ ≤ d * (d + 3) := Nat.mul_le_mul deep (Nat.add_le_add_right deep 3)
  · calc e.height ≤ d * (d + 3) := derives.height_le
      _ ≤ 14 * (14 + 3) := Nat.mul_le_mul small (Nat.add_le_add_right small 3)
      _ ≤ maxDepth := by decide

theorem parse_height_maxDepth : maxDepth ≤ maxDepth ∧
    IsGreatest {h | ∃ ts e, parse ts = .ok e ∧ Derives ts e maxDepth ∧ e.height = h} 66304 ∧
      ((∀ ts e, parse ts = .ok e → Derives ts e maxDepth → e.height ≤ maxDepth) ↔ maxDepth ≤ 14) :=
  ⟨Nat.le_refl _, parse_height maxDepth (Nat.le_refl _)⟩

theorem Lexes.signs (h : Lexes cs ts) (n : Nat) :
    Lexes (List.replicate n '-' ++ cs) (List.replicate n (.operator .minus) ++ ts) := by
  induction n with
  | zero => exact h
  | succ n ih => exact .symbol rfl ih

/-- As many signs as are allowed stand before the left operand of a sum. -/
theorem high_sum : ∃ ts e,
    tokenize (String.ofList (List.replicate 256 '-' ++ ['1', '+', '1'])) = .ok ts ∧
    parse ts = .ok e ∧
      maxDepth < e.height := by
  have one : Decimal.numeral? ['1'] = some 1 := by decide +kernel
  have lexes : Lexes ['1', '+', '1'] [.number 1, .operator .plus, .number 1] :=
    @Lexes.number ['1'] _ _ _ (by simp) (List.all_eq_true.1 rfl) one (fun c hc => by cases hc; rfl)
      (.symbol rfl
        (@Lexes.number ['1'] _ [] _ (by simp) (List.all_eq_true.1 rfl) one
          (fun c hc => nomatch hc) .nil))
  obtain ⟨e, signed, height⟩ := (Unary.primary (.number (x := 1))).signs 256
  have sum := Expression.link (.first (.first (.base signed))) .plus
    (.first (.base (.primary (.number (x := 1)))))
  refine ⟨_, _, ?_, parse_eq_ok_iff.2 ⟨_, ⟨_, sum⟩, by decide⟩, ?_⟩
  · rw [tokenize, String.toList_ofList, List.append_assoc]
    exact tokensFrom_of_lexes (lexes.signs 256) 0
  · rw [Expr.height, height]
    decide

end GameBalance.Formula
