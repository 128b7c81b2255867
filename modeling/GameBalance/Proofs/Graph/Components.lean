import GameBalance.Proofs.Graph.Gathering

namespace GameBalance

open Relation

namespace Digraph

open Gathering

variable {α : Type} [DecidableEq α] {g : Digraph α} {t : Gathering α} {order c : List α}
    {low : Nat} {k : α}

def cyclic (g : Digraph α) : List α → Bool
  | [] => false
  | [n] => n ∈ g.successors n
  | _ :: _ :: _ => true

def Gathered (g : Digraph α) (t : Gathering α) : Prop :=
  ∃ low, Gathers (fun n => (g.successors n).reverse) .empty 0 g.nodes t low

/--
The nodes of all components, the latest first, without those that a cyclic component leads to.
-/
def condensed (g : Digraph α) (components : List (List α)) : List α :=
  components.flatten.filter (· ∉ g.reachable (components.filter g.cyclic).flatten)

theorem edge_eq_reverse : (fun m n => n ∈ (g.successors m).reverse) = g.Edge := by
  funext m n
  exact propext (List.mem_reverse.trans (mem_successors_iff m n))

theorem Gathered.sound (h : g.Gathered t) : Sound (fun n => (g.successors n).reverse) t := by
  obtain ⟨low, gathers⟩ := h
  exact (gathers.sound_grows .empty (Nat.le_refl 0) fun m opened => nomatch opened.1).1

theorem Gathered.exists_component (h : g.Gathered t) (hk : k ∈ g.nodes) :
    ∃ c ∈ t.components, k ∈ c := by
  have visited : k ∈ t.search.discovered := by
    obtain ⟨low, gathers⟩ := h
    exact gathers.visits.visited k hk
  obtain stays | out := (h.sound.discovered k).1 visited
  · obtain ⟨m, opened, -⟩ := h.sound.reaches k stays
    obtain ⟨low, gathers⟩ := h
    exact absurd (gathers.visits.open_iff.1 opened).1 List.not_mem_nil
  · exact List.mem_flatten.1 out

theorem Gathered.cyclic_iff (h : g.Gathered t) (hc : c ∈ t.components) (hk : k ∈ c) :
    g.cyclic c = true ↔ TransGen g.Edge k k := by
  obtain ⟨nodup, n, hn, mem⟩ := h.sound.component c hc
  rw [Search.Reaches, edge_eq_reverse] at mem
  obtain ⟨there, back⟩ := (mem k).1 hk
  obtain _ | ⟨i, _ | ⟨j, c⟩⟩ := c
  · cases hk
  · obtain rfl := List.mem_singleton.1 hn
    obtain rfl := List.mem_singleton.1 hk
    rw [cyclic, decide_eq_true_iff, mem_successors_iff]
    refine ⟨.single, fun cycle => ?_⟩
    obtain ⟨j, edge, path⟩ := TransGen.head'_iff.1 cycle
    obtain rfl := List.mem_singleton.1 ((mem j).2 ⟨.single edge, path⟩)
    exact edge
  · refine iff_of_true rfl ?_
    -- of the first two nodes one is another than `k`
    obtain ⟨m, hm, ne⟩ : ∃ m ∈ i :: j :: c, m ≠ k := by
      by_cases same : i = k
      · exact ⟨j, by simp, fun eq => (List.nodup_cons.1 nodup).1 (by simp [same, eq])⟩
      · exact ⟨i, by simp, same⟩
    obtain ⟨there', back'⟩ := (mem m).1 hm
    have away : TransGen g.Edge k m :=
      (reflTransGen_iff_eq_or_transGen.1 (back.trans there')).resolve_left ne
    exact away.trans_left (back'.trans there)

section Gathered

variable (closed : g.Closed)

include closed

theorem exists_gathered : ∃ t, g.Gathered t := by
  have neighbours : ∀ m n, n ∈ (g.successors m).reverse ↔ g.Edge m n := fun m n =>
    List.mem_reverse.trans (mem_successors_iff m n)
  have visits := search_visits closed neighbours (List.Subset.refl g.nodes)
  obtain ⟨t, low, gathers, -⟩ := exists_gathers (s := .empty) visits rfl 0
  exact ⟨t, low, gathers⟩

variable (h : g.Gathered t)

include h

theorem Gathered.search_eq : t.search = g.search (fun n => (g.successors n).reverse) g.nodes := by
  obtain ⟨low, gathers⟩ := h
  refine gathers.visits.unique (search_visits closed ?_ (List.Subset.refl g.nodes))
  exact fun m n => List.mem_reverse.trans (mem_successors_iff m n)

theorem Gathered.condensed_eq : g.condensed t.components = g.acyclicOrder := by
  have nodes : (t.components.filter g.cyclic).flatten ⊆ g.nodes := by
    intro m hm
    obtain ⟨c, hc, hm⟩ := List.mem_flatten.1 hm
    obtain ⟨hc, cyclic⟩ := List.mem_filter.1 hc
    obtain ⟨_, edge, -⟩ := TransGen.head'_iff.1 ((h.cyclic_iff hc hm).1 cyclic)
    exact (closed m _ edge).1
  have blocked : ∀ k, k ∈ g.reachable (t.components.filter g.cyclic).flatten ↔ k ∈ g.blocked := by
    intro k
    rw [mem_reachable closed nodes, mem_blocked closed]
    constructor
    · rintro ⟨m, hm, path⟩
      obtain ⟨c, hc, hm⟩ := List.mem_flatten.1 hm
      obtain ⟨hc, cyclic⟩ := List.mem_filter.1 hc
      exact ⟨m, (h.cyclic_iff hc hm).1 cyclic, path⟩
    · rintro ⟨m, cycle, path⟩
      obtain ⟨_, edge, -⟩ := TransGen.head'_iff.1 cycle
      obtain ⟨c, hc, hm⟩ := h.exists_component (closed m _ edge).1
      exact ⟨m,
        List.mem_flatten.2 ⟨c, List.mem_filter.2 ⟨hc, (h.cyclic_iff hc hm).2 cycle⟩, hm⟩, path⟩
  have acyclic : ∀ m, decide (m ∉ g.blocked) = true →
      ¬TransGen (fun m n => n ∈ (g.successors m).reverse) m m := by
    intro m free cycle
    rw [edge_eq_reverse] at cycle
    exact of_decide_eq_true free ((mem_blocked closed).2 ⟨m, cycle, .refl⟩)
  calc g.condensed t.components = t.components.flatten.filter (· ∉ g.blocked) :=
        List.filter_congr fun k _ => decide_eq_decide.2 (not_congr (blocked k))
    _ = t.search.finished.filter (· ∉ g.blocked) := h.sound.order _ acyclic
    _ = g.acyclicOrder := by rw [h.search_eq closed, acyclicOrder]

end Gathered

end Digraph
end GameBalance
