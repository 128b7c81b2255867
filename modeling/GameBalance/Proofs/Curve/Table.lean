import GameBalance.Curve.Table
import GameBalance.Proofs.Double.Sign
import Mathlib.Data.List.Induction

namespace GameBalance.Curve

open Double

variable {c : Curve} {level : UInt32}

/-- The sum of `xps` from the first one on, cut off at every step. -/
def spent (xps : List Int) : Int :=
  xps.foldl (fun total xp => max (-2 ^ 63) (min (2 ^ 63 - 1) (total + xp))) 0

/-- The sums from the first one on stay within the range. -/
def Fits (xps : List Int) : Prop :=
  ∀ first, first <+: xps → -2 ^ 63 ≤ first.sum ∧ first.sum ≤ 2 ^ 63 - 1

theorem spent_concat (xps : List Int) (xp : Int) :
    spent (xps ++ [xp]) = clampXp (spent xps + xp) := by
  rw [spent, List.foldl_append]
  rfl

theorem clampXp_eq {xp : Int} (least : -2 ^ 63 ≤ xp) (most : xp ≤ 2 ^ 63 - 1) :
    clampXp xp = xp := by
  have range : xpLeast = -2 ^ 63 ∧ xpMost = 2 ^ 63 - 1 := by decide
  rw [clampXp, range.1, range.2, min_eq_right most, max_eq_right least]

theorem clampXp_le (xp : Int) : clampXp xp ≤ xpMost :=
  max_le (by decide) (min_le_left _ _)

theorem spent_le (xps : List Int) : spent xps ≤ xpMost := by
  induction xps using List.reverseRecOn with
  | nil => exact (by decide : (0 : Int) ≤ xpMost)
  | append_singleton xps xp => exact spent_concat xps xp ▸ clampXp_le _

theorem spent_eq_sum {xps : List Int} (h : Fits xps) : spent xps = xps.sum := by
  induction xps using List.reverseRecOn with
  | nil => rfl
  | append_singleton xps xp ih =>
    obtain ⟨least, most⟩ := h _ List.prefix_rfl
    have sum : (xps ++ [xp]).sum = xps.sum + xp := by rw [List.sum_append, List.sum_singleton]
    rw [sum] at least most
    rw [spent_concat, ih fun first short => h first (short.trans (List.prefix_append _ _)), sum,
      clampXp_eq least most]

theorem spent_le_concat {xps : List Int} {xp : Int} (h : 0 ≤ xp) :
    spent xps ≤ spent (xps ++ [xp]) := by
  rw [spent_concat]
  exact le_max_of_le_right (le_min (spent_le xps) (Int.le_add_of_nonneg_right h))

def levelAfter (k : Nat) : UInt32 :=
  .ofNat (k + 1)

def costs (c : Curve) (k : Nat) : List Int :=
  (List.range k).map fun j => c.xpAt (levelAfter j)

def rowAfter (c : Curve) (k : Nat) : Row :=
  ⟨levelAfter k, c.xpAt (levelAfter k), spent (c.costs (k + 1))⟩

theorem levelAfter_succ (k : Nat) : levelAfter (k + 1) = levelAfter k + 1 := by
  rw [levelAfter, UInt32.ofNat_add]
  rfl

theorem costs_succ (c : Curve) (k : Nat) :
    c.costs (k + 1) = c.costs k ++ [c.xpAt (levelAfter k)] := by
  rw [costs, List.range_succ, List.map_append]
  rfl

theorem rowsFrom_eq (c : Curve) (k count : Nat) :
    c.rowsFrom (levelAfter k) (spent (c.costs k)) count = (List.range' k count).map c.rowAfter := by
  induction count generalizing k with
  | zero => rfl
  | succ count ih =>
    rw [rowsFrom, ← levelAfter_succ, ← spent_concat, ← costs_succ, ih, List.range'_succ,
      List.map_cons, rowAfter]

theorem table_eq (c : Curve) (n : UInt32) : c.table n = (List.range n.toNat).map c.rowAfter := by
  rw [List.range_eq_range', ← rowsFrom_eq]
  rfl

theorem toNat_levelAfter {k : Nat} {n : UInt32} (h : k < n.toNat) :
    (levelAfter k).toNat = k + 1 := by
  exact UInt32.toNat_ofNat_of_lt' (Nat.lt_of_le_of_lt h n.toNat_lt)

theorem map_xp_rowAfter (c : Curve) (k : Nat) :
    ((List.range k).map c.rowAfter).map (·.xp) = c.costs k := by
  rw [List.map_map]
  rfl

theorem table_prefix {m n : UInt32} (le : m ≤ n) : c.table m <+: c.table n := by
  have range : List.range m.toNat = (List.range n.toNat).take m.toNat := by
    rw [List.take_range, min_eq_left (UInt32.le_iff_toNat_le.1 le)]
  rw [table_eq, table_eq, range]
  exact (List.take_prefix _ _).map _

theorem of_table_eq_append {n : UInt32} {before after : List Row} {row : Row}
    (split : c.table n = before ++ row :: after) :
    row = c.rowAfter before.length ∧ before.map (·.xp) = c.costs before.length := by
  rw [table_eq, List.range_eq_range'] at split
  obtain ⟨first, rest, range, rfl, last⟩ := List.map_eq_append_iff.1 split
  obtain ⟨k, -, rfl, rfl⟩ := List.range'_eq_append_iff.1 range
  obtain ⟨j, rest, tail, rfl, -⟩ := List.map_eq_cons_iff.1 last
  obtain ⟨rfl, -⟩ := List.range'_eq_cons_iff.1 tail
  rw [List.length_map, List.length_range', Nat.zero_add, Nat.mul_one, ← List.range_eq_range',
    map_xp_rowAfter]
  exact ⟨rfl, rfl⟩

theorem total_eq_spent {n : UInt32} {before after : List Row} {row : Row}
    (split : c.table n = before ++ row :: after) :
    row.total = spent (before.map (·.xp) ++ [row.xp]) := by
  obtain ⟨rfl, xps⟩ := of_table_eq_append split
  rw [xps, rowAfter, ← costs_succ]

/-- Nothing that a level costs is below zero, up to rounding. -/
def Rising (c : Curve) : Prop :=
  match c.kind with
  | .linear => 0 ≤ c.baseXp ∧ 0 ≤ c.linearMultiplier
  | .exponential => 0 ≤ c.baseXp ∧ 0 ≤ c.exponentialBase
  | .custom => False

theorem Rising.xpAt_nonneg (h : c.Rising) (first : 1 ≤ level.toNat) : 0 ≤ c.xpAt level := by
  have steps := unsigned_sub_one first
  cases kind : c.kind with
  | linear =>
    obtain ⟨base, multiplier⟩ : 0 ≤ c.baseXp ∧ 0 ≤ c.linearMultiplier := by rwa [Rising, kind] at h
    rw [xpAt, kind]
    exact toInteger_nonneg
      ((unsigned_of_nonneg base).add (steps.mul (unsigned_of_nonneg multiplier)))
  | exponential =>
    obtain ⟨base, exponentialBase⟩ : 0 ≤ c.baseXp ∧ 0 ≤ c.exponentialBase := by
      rwa [Rising, kind] at h
    rw [xpAt, kind]
    exact toInteger_nonneg ((unsigned_of_nonneg base).mul (.power exponentialBase steps))
  | custom =>
    rw [Rising, kind] at h
    exact h.elim

theorem Rising.spent_mono (h : c.Rising) {n : UInt32} {j k : Nat} (le : j ≤ k)
    (bound : k ≤ n.toNat) :
    spent (c.costs j) ≤ spent (c.costs k) := by
  induction k, le using Nat.le_induction with
  | base => exact Int.le_refl _
  | succ k le ih =>
    have first : 1 ≤ (levelAfter k).toNat := toNat_levelAfter (n := n) bound ▸ Nat.le_add_left 1 k
    rw [costs_succ]
    exact Int.le_trans (ih (Nat.le_of_succ_le bound)) (spent_le_concat (h.xpAt_nonneg first))

/-- Row by row: the level, its own cost, and what has been spent. -/
theorem table_adds_up (c : Curve) (n : UInt32) :
    (c.table n).map (·.level.toNat) = List.range' 1 n.toNat ∧
    (∀ row ∈ c.table n, row.xp = c.xpAt row.level) ∧
    (∀ before row after, c.table n = before ++ row :: after →
      row.total = spent (before.map (·.xp) ++ [row.xp]) ∧
      (Fits (before.map (·.xp) ++ [row.xp]) → row.total = (before.map (·.xp)).sum + row.xp)) ∧
    (∀ m, m ≤ n → c.table m <+: c.table n) ∧
    (c.Rising → (∀ row ∈ c.table n, 0 ≤ row.xp) ∧ (c.table n).Pairwise (·.total ≤ ·.total)) := by
  refine ⟨?levels, ?own, ?totals, ?longer, ?rising⟩
  case levels =>
    rw [table_eq, List.map_map, List.range'_eq_map_range]
    refine List.map_congr_left fun k hk => ?_
    exact (toNat_levelAfter (List.mem_range.1 hk)).trans (Nat.add_comm k 1)
  case own =>
    intro row mem
    rw [table_eq] at mem
    obtain ⟨k, -, rfl⟩ := List.mem_map.1 mem
    rfl
  case totals =>
    intro before row after split
    have sum : (before.map (·.xp) ++ [row.xp]).sum = (before.map (·.xp)).sum + row.xp := by
      rw [List.sum_append, List.sum_singleton]
    exact ⟨total_eq_spent split,
      fun fits => ((total_eq_spent split).trans (spent_eq_sum fits)).trans sum⟩
  case longer => exact fun m => table_prefix
  case rising =>
    intro rising
    rw [table_eq]
    constructor
    · intro row mem
      obtain ⟨k, hk, rfl⟩ := List.mem_map.1 mem
      exact rising.xpAt_nonneg (toNat_levelAfter (List.mem_range.1 hk) ▸ Nat.le_add_left 1 k)
    · refine List.pairwise_map.2 (List.Pairwise.imp_of_mem ?_ List.pairwise_lt_range)
      intro j k hj hk less
      exact rising.spent_mono (Nat.succ_le_succ (Nat.le_of_lt less)) (List.mem_range.1 hk)

theorem table_adds_up_infinite :
    ∃ c : Curve, c.linearMultiplier = ofMagnitude false infinity ∧ c.Rising ∧
    (c.table 3).map (·.xp) = [0, 2 ^ 63 - 1, 2 ^ 63 - 1] ∧
    (c.table 3).Pairwise (·.total ≤ ·.total) := by
  refine ⟨⟨.linear, 5, ofMagnitude false infinity, 1, ""⟩, rfl, ?_⟩
  have rising : Rising ⟨.linear, 5, ofMagnitude false infinity, 1, ""⟩ :=
    ⟨by decide +kernel, by decide +kernel⟩
  exact ⟨rising, by decide +kernel, ((table_adds_up _ 3).2.2.2.2 rising).2⟩

end GameBalance.Curve
