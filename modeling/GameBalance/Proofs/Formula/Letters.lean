import GameBalance.Formula.Token
import GameBalance.Text.Case

namespace GameBalance.Formula

open Text

def wordsFrom (first last : Nat) : Bool :=
  wordRanges.any fun r => r.1.ble first && last.ble r.2

theorem wordRanges_char :
    ∀ r ∈ wordRanges, 0x80 ≤ r.1 ∧ (r.2 < 0xD800 ∨ 0xDFFF < r.1 ∧ r.2 < 0x110000) := by
  decide +kernel

theorem foldRows_source : ∀ row ∈ foldRows, wordsFrom row.1 row.2.1 = true ∨
    ∀ i ∈ List.range ((row.2.1 - row.1) / row.2.2.1 + 1),
      wordsFrom (row.1 + row.2.2.1 * i) (row.1 + row.2.2.1 * i) = true := by
  decide +kernel

theorem foldRows_target :
    ∀ row ∈ foldRows, wordsFrom row.2.2.2 (row.2.2.2 + (row.2.1 - row.1)) = true ∨
    row.1 = row.2.1 ∧ (row.2.2.2 = 'k'.toNat ∨ row.2.2.2 = 's'.toNat) := by
  decide +kernel

theorem lowerRows_ascii : ∀ row ∈ lowerRows, 0x80 ≤ row.2.2.2 ∨
    row.1 = row.2.1 ∧ mapByRows foldRows row.1 = some row.2.2.2 := by
  decide +kernel

theorem toNat_ofNat {n : Nat} (h : n.isValidChar) : (Char.ofNat n).toNat = n := by
  rw [Char.ofNat, dif_pos h]
  rfl

theorem ascii_cases {p : Char → Prop} (h : ∀ n : Fin 128, p (Char.ofNat n)) (c : Char)
    (hc : c.toNat < 128) : p c := by
  have at_c := h ⟨c.toNat, hc⟩
  rwa [Char.ofNat_toNat] at at_c

theorem fold_ascii (h : c.toNat < 128) : fold c = c.toLower := by
  rw [fold, mapChar, if_pos h]

theorem toLower_kept :
    ∀ c : Char, c.toNat < 128 → c.toLower.toNat < 128 ∧ isNamePart c.toLower = isNamePart c ∧
    isNameStart c.toLower = isNameStart c ∧ c.toLower.isDigit = c.isDigit ∧
    (c.isDigit = true → c.toLower = c) :=
  ascii_cases (by decide +kernel)

theorem isNamePart_toLower (c : Char) (h : c.toNat < 128) : isNamePart c.toLower = isNamePart c :=
  (toLower_kept c h).2.1

theorem isNameStart_toLower (c : Char) (h : c.toNat < 128) :
    isNameStart c.toLower = isNameStart c :=
  (toLower_kept c h).2.2.1

theorem isAlpha_iff {c : Char} :
    c.isAlpha = true ↔ 65 ≤ c.toNat ∧ c.toNat ≤ 90 ∨ 97 ≤ c.toNat ∧ c.toNat ≤ 122 := by
  change (decide ('A'.val ≤ c.val ∧ c.val ≤ 'Z'.val) ||
    (decide ('a'.val ≤ c.val) && decide (c.val ≤ 'z'.val))) = true ↔ _
  simp only [Bool.or_eq_true, Bool.and_eq_true, decide_eq_true_eq, UInt32.le_iff_toNat_le]
  rfl

theorem isDigit_iff {c : Char} : c.isDigit = true ↔ 48 ≤ c.toNat ∧ c.toNat ≤ 57 := by
  simp only [Char.isDigit, Bool.and_eq_true, decide_eq_true_eq, UInt32.le_iff_toNat_le, ge_iff_le]
  rfl

theorem toNat_lt_of_isNamePart {c : Char} (h : isNamePart c = true) : c.toNat < 128 := by
  simp only [isNamePart, Char.isAlphanum, Bool.or_eq_true, decide_eq_true_eq, isAlpha_iff,
    isDigit_iff] at h
  obtain h | rfl := h
  · omega
  · decide

theorem isWord_eq_isNamePart {c : Char} (h : c.toNat < 128) : isWord c = isNamePart c := by
  rw [isWord, if_pos h, isNamePart]

theorem isWord_of_isNamePart {c : Char} (h : isNamePart c = true) : isWord c = true := by
  rwa [isWord_eq_isNamePart (toNat_lt_of_isNamePart h)]

theorem isNamePart_of_isNameStart (h : isNameStart c = true) : isNamePart c = true := by
  simp only [isNameStart, isNamePart, Char.isAlphanum, Bool.or_eq_true] at h ⊢
  exact h.imp_left .inl

theorem isNamePart_of_isDigit {c : Char} (h : c.isDigit = true) : isNamePart c = true := by
  simp [isNamePart, Char.isAlphanum, h]

theorem isWord_of_wordsFrom (h : wordsFrom first last = true) (low : first ≤ n) (high : n ≤ last) :
    isWord (.ofNat n) = true ∧ (Char.ofNat n).isDigit = false := by
  obtain ⟨⟨start, stop⟩, mem, bounds⟩ := List.any_eq_true.1 h
  rw [Bool.and_eq_true, Nat.ble_eq, Nat.ble_eq] at bounds
  obtain ⟨large, valid⟩ := wordRanges_char _ mem
  dsimp only at bounds large valid
  have char : n.isValidChar := by
    obtain below | above := valid
    · exact .inl (by omega)
    · exact .inr (by omega)
  have value := toNat_ofNat char
  have beyond : ¬(Char.ofNat n).toNat < 128 := by omega
  constructor
  · rw [isWord, if_neg beyond, value, inRanges, List.any_eq_true]
    exact ⟨_, mem, by simp only [Bool.and_eq_true, decide_eq_true_eq]; omega⟩
  · exact Bool.eq_false_iff.2 fun digit =>
      beyond (toNat_lt_of_isNamePart (isNamePart_of_isDigit digit))

theorem fold_cases (hc : ¬c.toNat < 128) :
    fold c = c ∨ isWord c = true ∧ isWord (fold c) = true ∧ (fold c).isDigit = false := by
  rw [fold, mapChar, if_neg hc]
  cases found : mapByRows foldRows c.toNat with
  | none => exact .inl rfl
  | some n =>
    obtain ⟨⟨first, last, step, target⟩, mem, image⟩ := List.exists_of_findSome?_eq_some found
    have source := foldRows_source _ mem
    have goal := foldRows_target _ mem
    dsimp only at source goal image
    split at image
    · rename_i inside
      obtain ⟨low, high, whole⟩ := inside
      cases image
      refine .inr ⟨?_, ?_⟩
      · rw [← Char.ofNat_toNat c]
        obtain range | each := source
        · exact (isWord_of_wordsFrom range low high).1
        · have steps : first + step * ((c.toNat - first) / step) = c.toNat := by
            rw [Nat.mul_div_cancel' (Nat.dvd_of_mod_eq_zero whole), Nat.add_sub_cancel' low]
          refine (isWord_of_wordsFrom (each ((c.toNat - first) / step) ?_) (Nat.le_of_eq steps)
            (Nat.le_of_eq steps.symm)).1
          exact List.mem_range.2
            (Nat.lt_succ_of_le (Nat.div_le_div_right (Nat.sub_le_sub_right high first)))
      · change isWord (.ofNat (target + (c.toNat - first))) = true ∧
          (Char.ofNat (target + (c.toNat - first))).isDigit = false
        obtain range | ⟨rfl, letter⟩ := goal
        · exact isWord_of_wordsFrom range (by omega) (by omega)
        · rw [show target + (c.toNat - first) = target by omega]
          obtain rfl | rfl := letter
          · exact ⟨by decide, by decide⟩
          · exact ⟨by decide, by decide⟩
    · cases image

theorem isWord_fold (c : Char) : isWord (fold c) = isWord c := by
  by_cases hc : c.toNat < 128
  · rw [fold_ascii hc, isWord_eq_isNamePart (toLower_kept c hc).1, isWord_eq_isNamePart hc,
      isNamePart_toLower c hc]
  · obtain same | ⟨source, target, -⟩ := fold_cases hc
    · rw [same]
    · rw [source, target]

theorem fold_eq_of_isNamePart (h : isNamePart (mapChar lowerRows c) = true) :
    fold c = mapChar lowerRows c := by
  by_cases hc : c.toNat < 128
  · rw [fold, mapChar, mapChar, if_pos hc, if_pos hc]
  rw [mapChar, if_neg hc] at h ⊢
  rw [fold, mapChar, if_neg hc]
  cases found : mapByRows lowerRows c.toNat with
  | none =>
    rw [found] at h
    exact absurd (toNat_lt_of_isNamePart h) hc
  | some n =>
    rw [found] at h
    obtain ⟨⟨first, last, step, target⟩, mem, image⟩ := List.exists_of_findSome?_eq_some found
    have row := lowerRows_ascii _ mem
    dsimp only at row image
    split at image
    · cases image
      obtain large | ⟨rfl, same⟩ := row
      · change isNamePart (.ofNat (target + (c.toNat - first))) = true at h
        have small := toNat_lt_of_isNamePart h
        by_cases valid : (target + (c.toNat - first)).isValidChar
        · rw [toNat_ofNat valid] at small
          omega
        · rw [Char.ofNat, dif_neg valid] at h
          cases h
      · rw [show c.toNat = first by omega, same, show target + (first - first) = target by omega]
    · cases image

theorem isWord_of_fold_eq (hn : isWord n = true) (eq : fold n = fold c) : isWord c = true := by
  rw [← isWord_fold, ← eq, isWord_fold, hn]

theorem fold_of_isDigit (h : (fold c).isDigit = true) : fold c = c := by
  by_cases hc : c.toNat < 128
  · obtain ⟨-, -, -, digit, same⟩ := toLower_kept c hc
    rw [fold_ascii hc] at h ⊢
    exact same (digit ▸ h)
  · obtain same | ⟨-, -, other⟩ := fold_cases hc
    · exact same
    · rw [other] at h
      cases h

theorem isDigit_fold {c : Char} (h : c.isDigit = true) : (fold c).isDigit = true := by
  have ascii := toNat_lt_of_isNamePart (isNamePart_of_isDigit h)
  rw [fold_ascii ascii, (toLower_kept c ascii).2.2.2.1, h]

theorem isDigit_of_fold_eq (hc : c.isDigit = true) (eq : fold n = fold c) : n.isDigit = true := by
  have digit := isDigit_fold hc
  rw [← eq] at digit
  rwa [fold_of_isDigit digit] at digit

theorem isDigit_of_isNameStart {c : Char} (h : isNameStart c = true) : c.isDigit = false := by
  rw [← Bool.not_eq_true]
  intro digit
  simp only [isNameStart, Bool.or_eq_true, decide_eq_true_eq, isAlpha_iff] at h
  rw [isDigit_iff] at digit
  obtain h | rfl := h
  · omega
  · exact absurd digit (by decide)

theorem isNameStart_of_isNamePart {c : Char} (h : isNamePart c = true) (nd : c.isDigit = false) :
    isNameStart c = true := by
  simpa [isNamePart, isNameStart, Char.isAlphanum, nd] using h

end GameBalance.Formula
