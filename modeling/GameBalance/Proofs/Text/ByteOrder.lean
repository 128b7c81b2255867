import Mathlib.Data.List.Lex
import Mathlib.Data.String.Basic
import Mathlib.Order.Monotone.Basic

namespace GameBalance.Text

variable {c d : Char} {cs ds : List Char}

def octets (c : Char) : List Nat :=
  (String.utf8EncodeChar c).map UInt8.toNat

def utf8 (s : String) : List Nat :=
  s.toUTF8.data.toList.map UInt8.toNat

theorem utf8_eq (s : String) : utf8 s = s.toList.flatMap octets := by
  rw [utf8, String.toUTF8, ← String.utf8Encode_toList, List.utf8Encode,
    List.toList_data_toByteArray, List.map_flatMap]
  rfl

theorem octets_eq (c : Char) : octets c =
    if c.toNat ≤ 0x7f then [c.toNat]
    else if c.toNat ≤ 0x7ff then [c.toNat / 64 + 0xc0, c.toNat % 64 + 0x80]
    else if c.toNat ≤ 0xffff then
      [c.toNat / 4096 + 0xe0, c.toNat / 64 % 64 + 0x80, c.toNat % 64 + 0x80]
    else [c.toNat / 262144 + 0xf0, c.toNat / 4096 % 64 + 0x80, c.toNat / 64 % 64 + 0x80,
      c.toNat % 64 + 0x80] := by
  have valid : c.toNat.isValidChar := c.valid
  rw [Nat.isValidChar] at valid
  rw [octets, String.utf8EncodeChar]
  simp only [Char.toNat_val]
  split_ifs <;>
  simp only [List.map_cons, List.map_nil, UInt8.toNat_ofNat', List.cons.injEq, and_true] <;> omega

/-- No form begins with another, so what follows the first difference does not count. -/
theorem octets_append_lt (h : c < d) (xs ys : List Nat) : octets c ++ xs < octets d ++ ys := by
  have lt : c.toNat < d.toNat := h
  rw [octets_eq, octets_eq]
  split_ifs <;> simp only [List.cons_append, List.nil_append, List.cons_lt_cons_iff] <;> omega

theorem octets_append_pos (c : Char) (xs : List Nat) : [] < octets c ++ xs := by
  rw [octets_eq]
  split_ifs <;> exact List.nil_lt_cons _ _

theorem flatMap_octets_lt (h : cs < ds) : cs.flatMap octets < ds.flatMap octets := by
  induction h with
  | nil =>
    rw [List.flatMap_nil, List.flatMap_cons]
    exact octets_append_pos _ _
  | rel h =>
    rw [List.flatMap_cons, List.flatMap_cons]
    exact octets_append_lt h _ _
  | cons _ ih =>
    rw [List.flatMap_cons, List.flatMap_cons]
    exact List.append_left_lt ih

theorem strictMono_utf8 : StrictMono utf8 := by
  intro s t h
  rw [utf8_eq, utf8_eq]
  exact flatMap_octets_lt (String.lt_iff_toList_lt.1 h)

theorem utf8_lt_utf8 {s t : String} : utf8 s < utf8 t ↔ s < t :=
  strictMono_utf8.lt_iff_lt

end GameBalance.Text
