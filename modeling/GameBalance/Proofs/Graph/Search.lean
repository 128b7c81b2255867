import GameBalance.Graph.Search
import Mathlib.Data.List.Basic
import Mathlib.Logic.Relation

namespace GameBalance

open Relation

namespace Search

variable {α : Type}

inductive Visits (next : α → List α) : Search α → List α → Search α → Prop
  | done {s} : Visits next s [] s
  | known {s t n ns} : n ∈ s.discovered → Visits next s ns t → Visits next s (n :: ns) t
  | fresh {s t u n ns} : n ∉ s.discovered → Visits next (s.discover n) (next n) t →
      Visits next (t.finish n) ns u →
      Visits next s (n :: ns) u

def Open (s : Search α) (n : α) : Prop :=
  n ∈ s.discovered ∧ n ∉ s.finished

structure Orderly (s : Search α) : Prop where
  subset : s.finished ⊆ s.discovered
  nodup : s.finished.Nodup

abbrev Reaches (next : α → List α) : α → α → Prop :=
  ReflTransGen fun m n => n ∈ next m

variable {next : α → List α} {s t u : Search α} {ns : List α} {m n : α}

theorem open_discover (h : n ∉ s.discovered) : (s.discover n).Open m ∧ m ≠ n ↔ s.Open m := by
  simp only [Open, discover, List.mem_cons]
  grind

theorem open_finish : (s.finish n).Open m ↔ s.Open m ∧ m ≠ n := by
  simp only [Open, finish, List.mem_cons]
  grind

theorem Orderly.discover (h : s.Orderly) (n : α) : (s.discover n).Orderly :=
  ⟨fun _ hm => List.mem_cons_of_mem n (h.subset hm), h.nodup⟩

theorem Orderly.finish (h : s.Orderly) (opened : s.Open n) : (s.finish n).Orderly :=
  ⟨List.cons_subset.2 ⟨opened.1, h.subset⟩, List.nodup_cons.2 ⟨opened.2, h.nodup⟩⟩

namespace Visits

theorem subset (h : Visits next s ns t) : s.discovered ⊆ t.discovered := by
  induction h with
  | done => exact fun _ hm => hm
  | known _ _ ih => exact ih
  | fresh _ _ _ ih ih' => exact fun m hm => ih' (ih (List.mem_cons_of_mem _ hm))

theorem suffix (h : Visits next s ns t) : s.finished <:+ t.finished := by
  induction h with
  | done => exact List.suffix_rfl
  | known _ _ ih => exact ih
  | fresh _ _ _ ih ih' => exact ih.trans ((List.suffix_cons _ _).trans ih')

theorem unique (h : Visits next s ns t) (h' : Visits next s ns u) : t = u := by
  induction h generalizing u with
  | done =>
    cases h'
    rfl
  | known hn _ ih =>
    cases h' with
    | known _ h' => exact ih h'
    | fresh fresh _ _ => exact absurd hn fresh
  | fresh hn _ _ ih ih' =>
    cases h' with
    | known known _ => exact absurd known hn
    | fresh _ inner outer => exact ih' (ih inner ▸ outer)

theorem nodup_discovered (h : Visits next s ns t) (nodup : s.discovered.Nodup) :
    t.discovered.Nodup := by
  induction h with
  | done => exact nodup
  | known _ _ ih => exact ih nodup
  | fresh fresh _ _ ih ih' => exact ih' (ih (List.nodup_cons.2 ⟨fresh, nodup⟩))

theorem visited (h : Visits next s ns t) : ∀ n ∈ ns, n ∈ t.discovered := by
  induction h with
  | done => exact fun _ hm => nomatch hm
  | known hn h ih => exact List.forall_mem_cons.2 ⟨h.subset hn, ih⟩
  | fresh _ h h' _ ih => exact List.forall_mem_cons.2 ⟨h'.subset (h.subset List.mem_cons_self), ih⟩

theorem open_iff (h : Visits next s ns t) : t.Open m ↔ s.Open m := by
  induction h with
  | done => exact .rfl
  | known _ _ ih => exact ih
  | fresh hn _ _ ih ih' => rw [ih', open_finish, ih, open_discover hn]

theorem open_self (h : Visits next (s.discover n) ns t) (fresh : n ∉ s.discovered)
    (orderly : s.Orderly) : t.Open n :=
  h.open_iff.2 ⟨List.mem_cons_self, fun finished => fresh (orderly.subset finished)⟩

theorem open_finish_iff (h : Visits next (s.discover n) ns t) (fresh : n ∉ s.discovered) :
    (t.finish n).Open m ↔ s.Open m := by
  rw [open_finish, h.open_iff, open_discover fresh]

theorem orderly (h : Visits next s ns t) (orderly : s.Orderly) : t.Orderly := by
  induction h with
  | done => exact orderly
  | known _ _ ih => exact ih orderly
  | fresh fresh h _ ih ih' =>
    exact ih' ((ih (orderly.discover _)).finish (h.open_self fresh orderly))

theorem reaches (h : Visits next s ns t) (hm : m ∈ t.finished) :
    m ∈ s.finished ∨ ∃ n ∈ ns, Reaches next n m := by
  induction h with
  | done => exact .inl hm
  | known _ _ ih =>
    obtain before | ⟨n, hn, path⟩ := ih hm
    · exact .inl before
    · exact .inr ⟨n, List.mem_cons_of_mem _ hn, path⟩
  | @fresh s t u n ns _ _ _ ih ih' =>
    obtain before | ⟨k, hk, path⟩ := ih' hm
    · obtain rfl | before := List.mem_cons.1 before
      · exact .inr ⟨m, List.mem_cons_self, .refl⟩
      · obtain before | ⟨k, hk, path⟩ := ih before
        · exact .inl before
        · exact .inr ⟨n, List.mem_cons_self, .head hk path⟩
    · exact .inr ⟨k, List.mem_cons_of_mem n hk, path⟩

theorem closed (h : Visits next s ns t) (hm : m ∈ t.finished) :
    m ∈ s.finished ∨ next m ⊆ t.discovered := by
  induction h with
  | done => exact .inl hm
  | known _ _ ih => exact ih hm
  | @fresh s t u n ns _ h h' ih ih' =>
    obtain before | after := ih' hm
    · obtain rfl | before := List.mem_cons.1 before
      · exact .inr fun k hk => h'.subset (h.visited k hk)
      · exact (ih before).imp_right fun after k hk => h'.subset (after hk)
    · exact .inr after

/-- A neighbour is finished before, or was open from the start, or leads back. -/
theorem ordered (h : Visits next s ns t) (hm : m ∈ t.finished) :
    m ∈ s.finished ∨ ∀ k ∈ next m, [m, k].Sublist t.finished ∨ s.Open k ∨ Reaches next k m := by
  induction h with
  | done => exact .inl hm
  | known _ _ ih => exact ih hm
  | @fresh s t u n ns hn h h' ih ih' =>
    -- what is open while the neighbours of `n` are visited was open before, apart from `n` itself
    have earlier : ∀ {k}, t.Open k → k = n ∨ s.Open k := fun {k} opened => by
      by_cases eq : k = n
      · exact .inl eq
      · exact .inr ((open_discover hn).1 ⟨h.open_iff.1 opened, eq⟩)
    have later := h'.suffix.sublist
    obtain before | after := ih' hm
    · obtain rfl | inner := List.mem_cons.1 before
      · right
        intro k hk
        by_cases finished : k ∈ t.finished
        · exact .inl ((List.cons_sublist_cons.2 (List.singleton_sublist.2 finished)).trans later)
        · obtain rfl | opened := earlier ⟨h.visited k hk, finished⟩
          · exact .inr (.inr .refl)
          · exact .inr (.inl opened)
      · obtain already | ⟨j, hj, path⟩ := h.reaches inner
        · exact .inl already
        refine (ih inner).imp_right fun after k hk => ?_
        obtain finished | opened | back := after k hk
        · exact .inl (finished.trans ((List.sublist_cons_self n _).trans later))
        · obtain rfl | opened := earlier (h.open_iff.2 opened)
          · exact .inr (.inr (.head hj path))
          · exact .inr (.inl opened)
        · exact .inr (.inr back)
    · refine .inr fun k hk => (after k hk).imp_right fun rest => rest.imp_left fun opened => ?_
      obtain ⟨opened, ne⟩ := open_finish.1 opened
      exact (earlier opened).resolve_left ne

end Visits

variable [DecidableEq α] {nodes : List α}

def unseen (nodes : List α) (s : Search α) : List α :=
  nodes.filter (· ∉ s.discovered)

theorem length_unseen_le (h : s.discovered ⊆ t.discovered) :
    (unseen nodes t).length ≤ (unseen nodes s).length := by
  refine (List.monotone_filter_right nodes fun m hm => ?_).length_le
  simp only [decide_eq_true_eq] at hm ⊢
  exact fun seen => hm (h seen)

theorem length_unseen_discover (hn : n ∈ nodes) (fresh : n ∉ s.discovered) :
    (unseen nodes (s.discover n)).length < (unseen nodes s).length := by
  have split : unseen nodes (s.discover n) = (unseen nodes s).filter (· ≠ n) := by
    rw [unseen, unseen, List.filter_filter]
    refine List.filter_congr fun m _ => ?_
    simp [discover, not_or]
  rw [split]
  exact List.length_filter_lt_length_iff_exists.2
    ⟨n, List.mem_filter.2 ⟨hn, decide_eq_true fresh⟩, by simp⟩

theorem visit_known (depth : Nat) (h : n ∈ s.discovered) : visit next depth s n = s := by
  cases depth with
  | zero => rfl
  | succ depth => rw [visit, if_pos h]

theorem visits_foldl (closed : ∀ n ∈ nodes, next n ⊆ nodes) (depth : Nat)
    (bound : (unseen nodes s).length ≤ depth)
    (roots : ns ⊆ nodes) : Visits next s ns (ns.foldl (visit next depth) s) := by
  induction depth generalizing s ns with
  | zero =>
    have none : unseen nodes s = [] := List.length_eq_zero_iff.1 (Nat.le_zero.1 bound)
    have all : ∀ n ∈ nodes, n ∈ s.discovered := by simpa [unseen] using none
    induction ns with
    | nil => exact .done
    | cons n ns ih =>
      obtain ⟨hn, rest⟩ := List.cons_subset.1 roots
      exact .known (all n hn) (ih rest)
  | succ depth deeper =>
    induction ns generalizing s with
    | nil => exact .done
    | cons n ns ih =>
      obtain ⟨hn, rest⟩ := List.cons_subset.1 roots
      rw [List.foldl_cons]
      by_cases seen : n ∈ s.discovered
      · rw [visit_known _ seen]
        exact .known seen (ih bound rest)
      · have less := length_unseen_discover hn seen
        have inner : Visits next (s.discover n) (next n) _ := deeper (by omega) (closed n hn)
        have more : s.discovered ⊆ _ := List.Subset.trans (List.subset_cons_self n _) inner.subset
        rw [visit, if_neg seen]
        exact .fresh seen inner (ih (Nat.le_trans (length_unseen_le more) bound) rest)

end Search
end GameBalance
