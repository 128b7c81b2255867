import GameBalance.Decimal.Literal
import GameBalance.Decimal.Text
import GameBalance.Proofs.Double.Bits
import GameBalance.Proofs.Double.Nearest
import Mathlib.Tactic.ByContra

namespace GameBalance.Decimal

theorem unitsOf_ne_zero (h : m ≠ 0) : Double.unitsOf m ≠ 0 := by
  rw [Double.unitsOf]
  split
  · exact h
  · exact Nat.mul_ne_zero (by omega) (Nat.ne_of_gt (Nat.two_pow_pos _))

theorem le_log2_mul_pow (h : n ≠ 0) (k : Nat) : n * 5 ^ k ≠ 0 ∧ 2 * k ≤ (n * 5 ^ k).log2 := by
  have ne : n * 5 ^ k ≠ 0 := Nat.mul_ne_zero h (Nat.ne_of_gt (Nat.pow_pos (by decide)))
  rw [Nat.le_log2 ne, Nat.pow_mul]
  exact ⟨ne, Nat.le_trans (Nat.pow_le_pow_left (by decide) k)
    (Nat.le_mul_of_pos_left _ (Nat.pos_of_ne_zero h))⟩

theorem pow_five_mul_pow_two (k : Nat) : 5 ^ k * 2 ^ k = 10 ^ k :=
  (Nat.mul_pow 5 2 k).symm

theorem magnitude_exact (pos : m ≠ 0) (hm : m < Double.infinity) : (exact m).magnitude = m := by
  obtain ⟨digits, log⟩ := le_log2_mul_pow (unitsOf_ne_zero pos) Double.binaryPlaces
  have places : Double.binaryPlaces = 1074 := rfl
  rw [exact]
  simp only [magnitude]
  rw [if_neg digits, if_neg (by omega), if_neg (by omega), if_neg (by omega)]
  refine Double.nearest_eq hm (Nat.pow_pos (by decide)) ?_
  rw [Int.neg_neg, Int.toNat_natCast, Nat.mul_assoc, Double.one, pow_five_mul_pow_two]

theorem magnitude_shortest (r : Nat → Nat → Nat) (pos : m ≠ 0) (hm : m < Double.infinity) :
    (shortest r m).magnitude = m := by
  rw [shortest]
  cases found : List.find? _ _ with
  | none => exact magnitude_exact pos hm
  | some d =>
    have tested := List.find?_some found
    exact of_decide_eq_true tested

theorem valueOf_digitsOf (n : Nat) : valueOf (digitsOf n) = n :=
  Nat.ofDigitChars_ten_toDigits

theorem valueOf_zeros_append (n : Nat) (ds : List Char) : valueOf (zeros n ++ ds) = valueOf ds := by
  have skip : Nat.ofDigitChars 10 (zeros n ++ ds) 0 = Nat.ofDigitChars 10 ds 0 := by
    rw [Nat.ofDigitChars_append, zeros, Nat.ofDigitChars_replicate_zero, Nat.mul_zero]
  exact skip

theorem valueOf_append_zeros (n : Nat) (ds : List Char) :
    valueOf (ds ++ zeros n) = valueOf ds * 10 ^ n := by
  have shift : Nat.ofDigitChars 10 (ds ++ zeros n) 0 = Nat.ofDigitChars 10 ds 0 * 10 ^ n := by
    rw [Nat.ofDigitChars_append, zeros, Nat.ofDigitChars_replicate_zero, Nat.mul_comm]
  exact shift

theorem isDigit_of_mem_digitsOf (h : c ∈ digitsOf n) : c.isDigit = true :=
  Nat.isDigit_of_mem_toDigits (by decide) (by decide) h

theorem isDigit_of_mem_zeros (h : c ∈ zeros n) : c.isDigit = true := by
  rw [(List.mem_replicate.1 h).2]
  rfl

theorem split?_digits (ne : ds ≠ []) (h : ∀ c ∈ ds, c.isDigit = true) :
    split? ds = some (ds, []) := by
  have run : (ds ++ []).takeWhile Char.isDigit = ds ++ [].takeWhile Char.isDigit :=
    List.takeWhile_append_of_pos h
  have rest : (ds ++ []).dropWhile Char.isDigit = [].dropWhile Char.isDigit :=
    List.dropWhile_append_of_pos h
  rw [List.append_nil] at run rest
  rw [split?, run, rest]
  simp [ne]

theorem split?_point (ne : whole ≠ []) (hw : ∀ c ∈ whole, c.isDigit = true)
    (hf : ∀ c ∈ fraction, c.isDigit = true) :
    split? (whole ++ '.' :: fraction) = some (whole, fraction) := by
  rw [split?, List.takeWhile_append_of_pos hw, List.dropWhile_append_of_pos hw]
  have point : '.'.isDigit = false := rfl
  simp [ne, point, List.all_eq_true.2 hf]

theorem isDigit_or_point {c : Char} (h : numeral? cs = some x) (hc : c ∈ cs) :
    c.isDigit = true ∨ c = '.' := by
  simp only [numeral?, Option.map_eq_some_iff] at h
  obtain ⟨⟨whole, fraction⟩, h, -⟩ := h
  rw [split?] at h
  rw [← List.takeWhile_append_dropWhile (p := Char.isDigit) (l := cs)] at hc
  obtain hc | hc := List.mem_append.1 hc
  · exact .inl (List.all_eq_true.1 List.all_takeWhile c hc)
  · split at h
    · rename_i rest
      rw [rest] at hc
      cases hc
    · rename_i d ds rest
      rw [rest] at hc
      split at h
      · rename_i shape
        obtain ⟨rfl, digits, -⟩ := shape
        obtain rfl | hc := List.mem_cons.1 hc
        · exact .inr rfl
        · exact .inl (List.all_eq_true.1 digits c hc)
      · cases h

theorem exists_isDigit (h : numeral? cs = some x) : ∃ c ∈ cs, c.isDigit = true := by
  simp only [numeral?, Option.map_eq_some_iff] at h
  obtain ⟨⟨whole, fraction⟩, h, -⟩ := h
  by_contra none
  cases cs with
  | nil => cases h
  | cons c cs =>
    have first : c.isDigit = false :=
      Bool.eq_false_iff.2 fun digit => none ⟨c, List.mem_cons_self, digit⟩
    rw [split?, List.takeWhile_cons_of_neg (Bool.eq_false_iff.1 first),
      List.dropWhile_cons_of_neg (Bool.eq_false_iff.1 first)] at h
    dsimp only at h
    split at h
    · rename_i shape
      obtain ⟨-, digits, some⟩ := shape
      cases cs with
      | nil => exact some ⟨rfl, rfl⟩
      | cons d cs =>
        exact none ⟨d, by simp, List.all_eq_true.1 digits d List.mem_cons_self⟩
    · cases h

theorem numeral?_digits (ne : ds ≠ []) (h : ∀ c ∈ ds, c.isDigit = true) :
    numeral? ds = some (Decimal.toFloat false ⟨valueOf ds, 0⟩) := by
  rw [numeral?, split?_digits ne h]
  simp [ofDigits]

theorem numeral?_point (ne : whole ≠ []) (hw : ∀ c ∈ whole, c.isDigit = true)
    (hf : ∀ c ∈ fraction, c.isDigit = true) : numeral? (whole ++ '.' :: fraction) =
      some (Decimal.toFloat false ⟨valueOf (whole ++ fraction), -fraction.length⟩) := by
  rw [numeral?, split?_point ne hw hf]
  simp [ofDigits]

theorem magnitude_scale (n k : Nat) (h : magnitude ⟨n, k⟩ < Double.infinity) :
    magnitude ⟨n * 10 ^ k, 0⟩ = magnitude ⟨n, k⟩ := by
  by_cases zero : n = 0
  · subst zero
    simp [magnitude]
  have ne : n * 10 ^ k ≠ 0 := Nat.mul_ne_zero zero (Nat.ne_of_gt (Nat.pow_pos (by decide)))
  simp only [magnitude, if_neg zero, if_neg ne] at h ⊢
  by_cases large : 400 < (k : Int)
  · rw [if_pos large] at h
    exact absurd h (Nat.lt_irrefl _)
  rw [if_neg large, if_neg (by omega), if_neg (by omega), if_pos (by omega), if_neg (by omega),
    if_pos (by omega)]
  simp

theorem numeral?_positional {d : Decimal} (h : d.magnitude < Double.infinity) :
    numeral? d.positional = some (d.toFloat false) := by
  obtain ⟨n, e⟩ := d
  have ds_digit : ∀ c ∈ digitsOf n, c.isDigit = true := fun c hc => isDigit_of_mem_digitsOf hc
  have ds_ne : digitsOf n ≠ [] := Nat.toDigits_ne_nil
  simp only [positional]
  split
  · rename_i nonneg
    obtain ⟨k, rfl⟩ := Int.eq_ofNat_of_zero_le nonneg
    have digits : ∀ c ∈ digitsOf n ++ zeros k, c.isDigit = true := fun c hc =>
      (List.mem_append.1 hc).elim (ds_digit c) isDigit_of_mem_zeros
    rw [Int.toNat_natCast, numeral?_digits (by simp [ds_ne]) digits, valueOf_append_zeros,
      valueOf_digitsOf, toFloat, magnitude_scale n k h, toFloat]
  · rename_i negative
    obtain ⟨k, rfl⟩ := Int.exists_eq_neg_ofNat (Int.le_of_lt (Int.not_le.1 negative))
    rw [Int.neg_neg, Int.toNat_natCast]
    split
    · rename_i inside
      have whole_ne : (digitsOf n).take ((digitsOf n).length - k) ≠ [] := by
        apply List.ne_nil_of_length_pos
        rw [List.length_take]
        omega
      rw [numeral?_point whole_ne (fun c hc => ds_digit c (List.mem_of_mem_take hc))
        (fun c hc => ds_digit c (List.mem_of_mem_drop hc)), List.take_append_drop, valueOf_digitsOf,
        List.length_drop,
        Nat.sub_sub_self (Nat.le_of_lt inside)]
    · rename_i outside
      have digits : ∀ c ∈ zeros (k - (digitsOf n).length) ++ digitsOf n,
          c.isDigit = true := fun c hc =>
        (List.mem_append.1 hc).elim isDigit_of_mem_zeros (ds_digit c)
      have zero : ∀ c ∈ ['0'], c.isDigit = true := fun c hc => isDigit_of_mem_zeros (n := 1) hc
      have text := numeral?_point (List.cons_ne_nil _ _) zero digits
      have value : valueOf (['0'] ++ (zeros (k - (digitsOf n).length) ++ digitsOf n)) = n := by
        rw [show ['0'] = zeros 1 from rfl, valueOf_zeros_append, valueOf_zeros_append,
          valueOf_digitsOf]
      rw [value, List.length_append, zeros, List.length_replicate,
        Nat.sub_add_cancel (Nat.le_of_not_lt outside)] at text
      exact text

def unsignedText (x : Float) : List Char :=
  if Double.magnitude x = 0 then ['0'] else (shortest Double.halfUp (Double.magnitude x)).positional

theorem plain_eq {x : Float} (h : x.isFinite = true) :
    plain x = signed (Double.isNegative x) (unsignedText x) := by
  rw [plain, Double.isNaN_eq_false h, Double.isInf_eq_false h]
  rfl

theorem numeral?_unsignedText {x : Float} (h : x.isFinite = true) :
    numeral? (unsignedText x) = some (Double.ofMagnitude false (Double.magnitude x)) := by
  have bound := Double.isFinite_iff.1 h
  rw [unsignedText]
  split
  · rename_i zero
    rw [zero]
    rfl
  · rename_i pos
    have back := magnitude_shortest Double.halfUp pos bound
    rw [numeral?_positional (by rwa [back]), toFloat, back]

inductive IsPositional : List Char → Prop
  | whole : ds ≠ [] → (∀ c ∈ ds, c.isDigit = true) → IsPositional ds
  | point : ds ≠ [] → (∀ c ∈ ds, c.isDigit = true) → es ≠ [] → (∀ c ∈ es, c.isDigit = true) →
      IsPositional (ds ++ '.' :: es)

theorem isPositional_positional (d : Decimal) : IsPositional d.positional := by
  obtain ⟨n, e⟩ := d
  have ds_digit : ∀ c ∈ digitsOf n, c.isDigit = true := fun c hc => isDigit_of_mem_digitsOf hc
  have pos : 0 < (digitsOf n).length := List.length_pos_iff.2 Nat.toDigits_ne_nil
  have padded : ∀ k, ∀ c ∈ zeros k ++ digitsOf n, c.isDigit = true := fun k c hc =>
    (List.mem_append.1 hc).elim isDigit_of_mem_zeros (ds_digit c)
  simp only [positional]
  split
  · refine .whole (List.append_ne_nil_of_left_ne_nil (List.ne_nil_of_length_pos pos) _)
      fun c hc => ?_
    exact (List.mem_append.1 hc).elim (ds_digit c) isDigit_of_mem_zeros
  · rename_i negative
    split
    · rename_i inside
      refine .point (List.ne_nil_of_length_pos ?_)
        (fun c hc => ds_digit c (List.mem_of_mem_take hc))
        (List.ne_nil_of_length_pos ?_) (fun c hc => ds_digit c (List.mem_of_mem_drop hc))
      · rw [List.length_take]
        omega
      · rw [List.length_drop]
        omega
    · have zero : ∀ c ∈ ['0'], c.isDigit = true := fun c hc => isDigit_of_mem_zeros (n := 1) hc
      exact .point (List.cons_ne_nil '0' []) zero
        (List.append_ne_nil_of_right_ne_nil _ (List.ne_nil_of_length_pos pos)) (padded _)

theorem isPositional_unsignedText (x : Float) : IsPositional (unsignedText x) := by
  rw [unsignedText]
  split
  · exact .whole (List.cons_ne_nil _ _) fun c hc => isDigit_of_mem_zeros (n := 1) hc
  · exact isPositional_positional _

end GameBalance.Decimal
