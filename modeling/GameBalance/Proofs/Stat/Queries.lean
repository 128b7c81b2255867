import GameBalance.Proofs.Stat.Ordering
import Mathlib.Data.String.Basic

namespace GameBalance

open Formula Text Relation

namespace Digraph

variable {α : Type} [DecidableEq α] {g : Digraph α} {roots : List α} {n : α}

theorem nodup_foldl_addEdge (es : List (α × α)) (h : g.edges.Nodup) :
    (es.foldl addEdge g).edges.Nodup := by
  induction es generalizing g with
  | nil => exact h
  | cons e es ih =>
    refine ih ?_
    rw [addEdge]
    split
    · exact h
    · rename_i fresh
      exact List.concat_eq_append ▸ h.concat fresh

theorem nodup_successors (h : g.edges.Nodup) (n : α) : (g.successors n).Nodup := by
  refine (h.filter _).map_on fun e he e' he' eq => Prod.ext ?_ eq
  rw [of_decide_eq_true (List.mem_filter.1 he).2, of_decide_eq_true (List.mem_filter.1 he').2]

theorem nodup_predecessors (h : g.edges.Nodup) (n : α) : (g.predecessors n).Nodup := by
  refine (h.filter _).map_on fun e he e' he' eq => Prod.ext eq ?_
  rw [of_decide_eq_true (List.mem_filter.1 he).2, of_decide_eq_true (List.mem_filter.1 he').2]

theorem nodup_reachable (closed : g.Closed) (nodes : roots ⊆ g.nodes) : (g.reachable roots).Nodup :=
  (search_visits closed mem_successors_iff nodes).nodup_discovered List.nodup_nil

theorem reachable_subset (closed : g.Closed) (nodes : roots ⊆ g.nodes) :
    g.reachable roots ⊆ g.nodes := by
  intro n hn
  obtain ⟨r, hr, path⟩ := (mem_reachable closed nodes).1 hn
  exact (reachable_nodes closed).1 ⟨r, nodes hr, path⟩

theorem successors_subset (closed : g.Closed) (n : α) : g.successors n ⊆ g.nodes :=
  fun m hm => (closed n m (mem_successors.1 hm)).2

theorem predecessors_subset (closed : g.Closed) (n : α) : g.predecessors n ⊆ g.nodes :=
  fun m hm => (closed m n (mem_predecessors.1 hm)).1

end Digraph

namespace DependencyGraph

variable {stats : List Stat} {names names' nodes : List String} {f : String → List String}

theorem nodup_edges (stats : List Stat) : (ofStats stats).graph.edges.Nodup :=
  Digraph.nodup_foldl_addEdge _ List.nodup_nil

theorem pairwise_sorted (names : List String) : (sorted names).Pairwise (· ≤ ·) := by
  have le_iff : ∀ a b : String, (!decide (b < a)) = true ↔ a ≤ b := fun a b => by
    rw [Bool.not_eq_true', decide_eq_false_iff_not, not_lt]
  refine (List.pairwise_mergeSort (fun a b c ab bc => ?_) (fun a b => ?_) names).imp
    fun {a b} => (le_iff a b).1
  · exact (le_iff a c).2 (le_trans ((le_iff a b).1 ab) ((le_iff b c).1 bc))
  · rw [Bool.or_eq_true, le_iff, le_iff]
    exact le_total a b

theorem sorted_congr (perm : names.Perm names') : sorted names = sorted names' := by
  refine List.Perm.eq_of_pairwise (fun a b _ _ => le_antisymm) (pairwise_sorted names)
    (pairwise_sorted names') ?_
  exact ((List.mergeSort_perm names _).trans perm).trans (List.mergeSort_perm names' _).symm

theorem ascending_sorted (nodup : names.Nodup) : (sorted names).Pairwise (· < ·) := by
  have distinct : (sorted names).Nodup := (List.mergeSort_perm names _).nodup_iff.2 nodup
  exact ((pairwise_sorted names).and distinct).imp fun h => lt_of_le_of_ne h.1 h.2

theorem ascending_named (name : String) (known : f (lowercase name) ⊆ (ofStats stats).graph.nodes)
    (nodup : (f (lowercase name)).Nodup) : ((ofStats stats).named name f).Pairwise (· < ·) := by
  rw [named]
  split
  · exact ascending_sorted (nodup_map_spelling known nodup)
  · exact List.Pairwise.nil

theorem ascending_dependenciesOf (stats : List Stat) (name : String) :
    ((ofStats stats).dependenciesOf name).Pairwise (· < ·) :=
  ascending_named name (Digraph.predecessors_subset (closed stats) _)
    (Digraph.nodup_predecessors (nodup_edges stats) _)

theorem ascending_directDependentsOf (stats : List Stat) (name : String) :
    ((ofStats stats).directDependentsOf name).Pairwise (· < ·) :=
  ascending_named name (Digraph.successors_subset (closed stats) _)
    (Digraph.nodup_successors (nodup_edges stats) _)

theorem ascending_dependentsOf (stats : List Stat) (name : String) :
    ((ofStats stats).dependentsOf name).Pairwise (· < ·) := by
  by_cases known : lowercase name ∈ (ofStats stats).graph.nodes
  · have root : [lowercase name] ⊆ (ofStats stats).graph.nodes :=
      List.cons_subset.2 ⟨known, List.nil_subset _⟩
    exact ascending_named name
      (List.Subset.trans (List.filter_subset_self _) (Digraph.reachable_subset (closed stats) root))
      ((Digraph.nodup_reachable (closed stats) root).filter _)
  · rw [dependentsOf, named, if_neg known]
    exact List.Pairwise.nil

end DependencyGraph

namespace Stat

variable {stats : List Stat} {s t : Stat} {nodes : List String} {f : String → List String}
    {name : String}

theorem named_of_mem (f : String → List String) (hs : s ∈ stats) :
    (DependencyGraph.ofStats stats).named s.name f =
    DependencyGraph.sorted ((f s.node).map (DependencyGraph.ofStats stats).spelling) :=
  if_pos (DependencyGraph.mem_nodes.2 ⟨s, hs, rfl⟩)

namespace Distinct

variable (h : Distinct stats)

include h

theorem mem_map_spelling (known : nodes ⊆ (DependencyGraph.ofStats stats).graph.nodes) :
    name ∈ nodes.map (DependencyGraph.ofStats stats).spelling ↔ ∃ t ∈ stats, t.node ∈ nodes ∧
    t.name = name := by
  rw [List.mem_map]
  constructor
  · rintro ⟨n, hn, rfl⟩
    obtain ⟨t, ht, rfl⟩ := DependencyGraph.mem_nodes.1 (known hn)
    exact ⟨t, ht, hn, (h.spelling_node ht).symm⟩
  · rintro ⟨t, ht, hn, rfl⟩
    exact ⟨t.node, hn, h.spelling_node ht⟩

variable (hs : s ∈ stats)

include hs

theorem mem_named (known : f s.node ⊆ (DependencyGraph.ofStats stats).graph.nodes) :
    name ∈ (DependencyGraph.ofStats stats).named s.name f ↔ ∃ t ∈ stats, t.node ∈ f s.node ∧
    t.name = name := by
  rw [named_of_mem f hs, DependencyGraph.sorted, List.mem_mergeSort, h.mem_map_spelling known]

theorem directDependentsOf_eq : (DependencyGraph.ofStats stats).directDependentsOf s.name =
    DependencyGraph.sorted ((s.dependents stats).map Stat.name) := by
  have known := Digraph.successors_subset (DependencyGraph.closed stats) s.node
  have nodup := DependencyGraph.nodup_map_spelling known
    (Digraph.nodup_successors (DependencyGraph.nodup_edges stats) s.node)
  rw [DependencyGraph.directDependentsOf, named_of_mem _ hs]
  refine DependencyGraph.sorted_congr ((List.perm_ext_iff_of_nodup nodup ?_).2 fun name => ?_)
  · exact h.nodup_names.sublist (List.filter_sublist.map Stat.name)
  rw [h.mem_map_spelling known, List.mem_map]
  refine exists_congr fun t => ?_
  rw [← and_assoc, and_congr_left_iff]
  rintro rfl
  constructor
  · rintro ⟨ht, edge⟩
    exact ((h.edge_iff hs ht).1 (Digraph.mem_successors.1 edge)).2
  · intro found
    have ht : t ∈ stats := List.mem_of_mem_filter found
    exact ⟨ht, Digraph.mem_successors.2 ((h.edge_iff hs ht).2 ⟨hs, found⟩)⟩

theorem mem_directDependentsOf (ht : t ∈ stats) :
    t.name ∈ (DependencyGraph.ofStats stats).directDependentsOf s.name ↔ Feeds stats s t := by
  rw [h.directDependentsOf_eq hs, DependencyGraph.sorted, List.mem_mergeSort, List.mem_map]
  constructor
  · rintro ⟨u, found, eq⟩
    exact ⟨hs, h.eq_of_name (List.mem_of_mem_filter found) ht eq ▸ found⟩
  · exact fun feeds => ⟨t, feeds.2, rfl⟩

theorem mem_dependenciesOf (ht : t ∈ stats) :
    t.name ∈ (DependencyGraph.ofStats stats).dependenciesOf s.name ↔ Feeds stats t s := by
  rw [DependencyGraph.dependenciesOf,
    h.mem_named hs (Digraph.predecessors_subset (DependencyGraph.closed stats) _),
    ← h.edge_iff ht hs]
  constructor
  · rintro ⟨u, hu, edge, eq⟩
    rw [← h.eq_of_name hu ht eq]
    exact Digraph.mem_predecessors.1 edge
  · exact fun edge => ⟨t, ht, Digraph.mem_predecessors.2 edge, rfl⟩

theorem mem_reachable_node (ht : t ∈ stats) :
    t.node ∈ (DependencyGraph.ofStats stats).graph.reachable [s.node] ↔
    ReflTransGen (Feeds stats) s t := by
  have root : [s.node] ⊆ (DependencyGraph.ofStats stats).graph.nodes :=
    List.cons_subset.2 ⟨DependencyGraph.mem_nodes.2 ⟨s, hs, rfl⟩, List.nil_subset _⟩
  rw [Digraph.mem_reachable (DependencyGraph.closed stats) root, ← h.reflTransGen_iff hs ht]
  simp

theorem mem_dependentsOf_iff : name ∈ (DependencyGraph.ofStats stats).dependentsOf s.name ↔
    ∃ t ∈ stats, t.name = name ∧ t ≠ s ∧ ReflTransGen (Feeds stats) s t := by
  have root : [s.node] ⊆ (DependencyGraph.ofStats stats).graph.nodes :=
    List.cons_subset.2 ⟨DependencyGraph.mem_nodes.2 ⟨s, hs, rfl⟩, List.nil_subset _⟩
  have known :
      (fun node => ((DependencyGraph.ofStats stats).graph.reachable [node]).filter (· ≠ node))
      s.node ⊆
      (DependencyGraph.ofStats stats).graph.nodes :=
    List.Subset.trans (List.filter_subset_self _)
      (Digraph.reachable_subset (DependencyGraph.closed stats) root)
  rw [DependencyGraph.dependentsOf, h.mem_named hs known]
  refine exists_congr fun t => and_congr_right fun ht => ?_
  have other : t.node ≠ s.node ↔ t ≠ s := not_congr ⟨h.eq_of_node ht hs, congrArg node⟩
  rw [List.mem_filter, h.mem_reachable_node hs ht, decide_eq_true_iff, other, and_comm,
    and_comm (a := t ≠ s)]

theorem mem_dependentsOf (ht : t ∈ stats) :
    t.name ∈ (DependencyGraph.ofStats stats).dependentsOf s.name ↔ t ≠ s ∧
    ReflTransGen (Feeds stats) s t := by
  rw [h.mem_dependentsOf_iff hs]
  constructor
  · rintro ⟨u, hu, eq, path⟩
    rwa [← h.eq_of_name hu ht eq]
  · exact fun path => ⟨t, ht, rfl, path⟩

end Distinct

theorem Catalogue.mem_dependentsOf (h : Catalogue stats) (hs : s ∈ stats) (ht : t ∈ stats) :
    t.name ∈ (DependencyGraph.ofStats stats).dependentsOf s.name ↔ t ≠ s ∧
    ReflTransGen (Feeds stats) s t :=
  h.toDistinct.mem_dependentsOf hs ht

end Stat

end GameBalance
