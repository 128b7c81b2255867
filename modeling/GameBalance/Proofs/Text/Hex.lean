import GameBalance.Text.Hex
import Mathlib.Algebra.Group.Nat.Defs

namespace GameBalance.Text

section Digits

variable {base : Nat} {f : Char → Char} (hf : ∀ d < base, digit? base (f d.digitChar) = some d)
    (hb : 1 < base)
include hf hb

theorem foldlM_toDigits (n : Nat) :
    ((Nat.toDigits base n).map f).foldlM (fun n c => (digit? base c).map (base * n + ·)) 0 =
      some n := by
  induction n using Nat.strongRecOn with
  | ind n ih =>
    obtain small | large := Nat.lt_or_ge n base
    · rw [Nat.toDigits_of_lt_base small]
      simp [hf n small]
    · have last := hf (n % base) (Nat.mod_lt n (Nat.zero_lt_of_lt hb))
      have first :=
        ih (n / base) (Nat.div_lt_self (Nat.lt_of_lt_of_le (Nat.zero_lt_of_lt hb) large) hb)
      rw [Nat.toDigits_of_base_le hb large, List.map_append, List.foldlM_append, first]
      simp [last, Nat.div_add_mod]

theorem foldlM_zeros (k : Nat) (ds : List Char) :
    ((List.replicate k '0').map f ++ ds).foldlM (fun n c => (digit? base c).map (base * n + ·)) 0 =
      ds.foldlM (fun n c => (digit? base c).map (base * n + ·)) 0 := by
  have zero : digit? base (f '0') = some 0 := hf 0 (Nat.zero_lt_of_lt hb)
  induction k with
  | zero => rfl
  | succ k ih =>
    rw [List.replicate_succ, List.map_cons, List.cons_append, List.foldlM_cons, zero]
    exact ih

theorem numberIn?_toDigits (k n : Nat) :
    numberIn? base ((List.replicate k '0' ++ Nat.toDigits base n).map f) = some n := by
  have ne : (List.replicate k '0' ++ Nat.toDigits base n).map f ≠ [] := by
    simp [Nat.toDigits_ne_nil]
  rw [numberIn?, List.isEmpty_eq_false_iff.2 ne, if_neg Bool.false_ne_true, List.map_append,
    foldlM_zeros hf hb, foldlM_toDigits hf hb]

end Digits

theorem numberIn?_decimal (n : Nat) : numberIn? 10 (Nat.toDigits 10 n) = some n := by
  have digits : ∀ d < 10, digit? 10 (id d.digitChar) = some d := by decide
  simpa using numberIn?_toDigits digits (by decide) 0 n

theorem mem_toDigits (hb : 1 < base) (h : c ∈ Nat.toDigits base n) :
    ∃ d < base, c = d.digitChar := by
  induction n using Nat.strongRecOn with
  | ind n ih =>
    obtain small | large := Nat.lt_or_ge n base
    · rw [Nat.toDigits_of_lt_base small, List.mem_singleton] at h
      exact ⟨n, small, h⟩
    · have pos : 0 < base := Nat.zero_lt_of_lt hb
      rw [Nat.toDigits_of_base_le hb large, List.mem_append, List.mem_singleton] at h
      obtain first | last := h
      · exact ih (n / base) (Nat.div_lt_self (Nat.lt_of_lt_of_le pos large) hb) first
      · exact ⟨n % base, Nat.mod_lt n pos, last⟩

theorem mem_hex (h : c ∈ hex width n) : ∃ d < 16, c = d.digitChar := by
  rw [hex, List.mem_append] at h
  obtain zero | digit := h
  · exact ⟨0, by decide, (List.mem_replicate.1 zero).2⟩
  · exact mem_toDigits (by decide) digit

theorem numberIn?_hex (width n : Nat) : numberIn? 16 ((hex width n).map Char.toUpper) = some n :=
  numberIn?_toDigits (by decide) (by decide) _ n

theorem length_hex (h : n < 16 ^ width) (pos : 0 < width) : (hex width n).length = width := by
  have fits : (Nat.toDigits 16 n).length ≤ width := (Nat.length_toDigits_le_iff (by decide) pos).2 h
  rw [hex, List.length_append, List.length_replicate, Nat.sub_add_cancel fits]

end GameBalance.Text
