import GameBalance.Proofs.Graph.Sink
import GameBalance.Proofs.Stat.Ordering
import GameBalance.Proofs.Stat.Run
import Mathlib.Data.List.Find

namespace GameBalance

open Formula Text

namespace DependencyGraph

variable {stats : List Stat} {nodes : List String} {t : Stat} {k n : String}

theorem filter_addSpelling (spellings : List (String × String)) (name k : String) :
    (addSpelling spellings name).filter (·.1 ≠ k) =
      if lowercase name ≠ k then addSpelling (spellings.filter (·.1 ≠ k)) name
        else spellings.filter (·.1 ≠ k) := by
  by_cases ne : lowercase name ≠ k
  · have there : (spellings.filter (·.1 ≠ k)).any (·.1 = lowercase name) =
        spellings.any (·.1 = lowercase name) := by
      rw [List.any_filter]
      refine List.any_congr rfl fun p => ?_
      by_cases same : p.1 = lowercase name <;> simp [same, ne]
    rw [if_pos ne, addSpelling, addSpelling, there]
    split
    · rfl
    · rw [List.filter_append, List.filter_cons_of_pos (by simpa using ne), List.filter_nil]
  · rw [if_neg ne, addSpelling]
    split
    · rfl
    · rw [List.filter_append, List.filter_cons_of_neg (by simpa using ne), List.filter_nil,
        List.append_nil]

theorem filter_foldl_addSpelling (spellings : List (String × String)) (names : List String)
    (k : String) :
    (names.foldl addSpelling spellings).filter (·.1 ≠ k) =
      (names.filter (lowercase · ≠ k)).foldl addSpelling (spellings.filter (·.1 ≠ k)) := by
  induction names generalizing spellings with
  | nil => rfl
  | cons name names ih =>
    rw [List.foldl_cons, ih, filter_addSpelling, List.filter_cons]
    by_cases ne : lowercase name ≠ k
    · rw [if_pos ne, if_pos (decide_eq_true ne), List.foldl_cons]
    · rw [if_neg ne, if_neg (by simpa using ne)]

theorem filter_edgesOf (nodes : List String) (t : Stat) (k : String) :
    (edgesOf nodes t).filter (fun e => e.1 ≠ k ∧ e.2 ≠ k) =
      if t.node ≠ k then edgesOf (nodes.filter (· ≠ k)) t else [] := by
  cases formula : t.formula? with
  | none => simp [edgesOf, formula]
  | some f =>
    simp only [edgesOf, formula, List.filter_map, List.filter_filter]
    by_cases ne : t.node ≠ k
    · rw [if_pos ne]
      refine congrArg (List.map _) (congrArg (List.map lowercase) (List.filter_congr fun n _ => ?_))
      have target : lowercase t.name ≠ k := ne
      simp [target, and_comm]
    · have target : lowercase t.name = k := not_not.1 ne
      rw [if_neg ne]
      simp [target]

theorem filter_flatMap_edgesOf (nodes : List String) (stats : List Stat) (k : String) :
    (stats.flatMap (edgesOf nodes)).filter (fun e => e.1 ≠ k ∧ e.2 ≠ k) =
      (stats.filter (·.node ≠ k)).flatMap (edgesOf (nodes.filter (· ≠ k))) := by
  induction stats with
  | nil => rfl
  | cons t stats ih =>
    rw [List.flatMap_cons, List.filter_append, ih, filter_edgesOf, List.filter_cons]
    by_cases ne : t.node ≠ k
    · rw [if_pos ne, if_pos (decide_eq_true ne), List.flatMap_cons]
    · rw [if_neg ne, if_neg (by simpa using ne), List.nil_append]

theorem ofStats_filter (stats : List Stat) (k : String) : ofStats (stats.filter (·.node ≠ k)) =
    ⟨(ofStats stats).spellings.filter (·.1 ≠ k), (ofStats stats).graph.without k⟩ := by
  have names : ((stats.filter (·.node ≠ k)).map Stat.name).foldl addSpelling [] =
      (ofStats stats).spellings.filter (·.1 ≠ k) := by
    rw [ofStats, filter_foldl_addSpelling, List.filter_map]
    rfl
  have nodes : ((ofStats stats).spellings.filter (·.1 ≠ k)).map Prod.fst =
      ((ofStats stats).spellings.map Prod.fst).filter (· ≠ k) := by
    rw [List.filter_map]
    rfl
  rw [ofStats, names, nodes, ← filter_flatMap_edgesOf]
  refine congrArg (DependencyGraph.mk _) ?_
  rw [ofStats, Digraph.without_foldl_addEdge]
  rfl

theorem spelling_filter (ne : n ≠ k) :
    (ofStats (stats.filter (·.node ≠ k))).spelling n = (ofStats stats).spelling n := by
  rw [spelling, spelling, lookup_spellings, lookup_spellings, List.find?_map, List.find?_map,
    List.find?_filter]
  refine congrArg (fun s : Option Stat => (s.map Stat.name).getD n) (List.find?_congr fun s _ => ?_)
  by_cases same : lowercase s.name = n <;> simp [Stat.node, same, ne]

def resolvedNodes (stats : List Stat) : List String :=
  (ofStats stats).graph.topologicalOrder.toOption.getD (ofStats stats).graph.acyclicOrder

theorem resolved_eq (stats : List Stat) :
    Stat.resolved stats = (resolvedNodes stats).map (ofStats stats).spelling := by
  rw [Stat.resolved, resolutionOrder, resolvedNodes]
  cases (ofStats stats).graph.topologicalOrder <;> rfl

theorem resolvedNodes_subset (stats : List Stat) :
    resolvedNodes stats ⊆ (ofStats stats).graph.nodes := by
  rw [resolvedNodes]
  cases ordered : (ofStats stats).graph.topologicalOrder with
  | ok nodes => exact fun n => (Digraph.mem_topologicalOrder (closed stats) ordered).1
  | error node => exact fun n hn => ((Digraph.mem_acyclicOrder (closed stats)).1 hn).1

section Sink

variable (sink : ∀ n, ¬(ofStats stats).graph.Edge k n)

include sink

theorem resolvedNodes_filter :
    resolvedNodes (stats.filter (·.node ≠ k)) = (resolvedNodes stats).filter (· ≠ k) := by
  rw [resolvedNodes, ofStats_filter, Digraph.topologicalOrder_without sink (closed stats),
    Digraph.acyclicOrder_without sink (closed stats), Option.getD_map]
  rfl

theorem resolved_filter :
    Stat.resolved (stats.filter (·.node ≠ k)) = (Stat.resolved stats).filter (lowercase · ≠ k) := by
  rw [resolved_eq, resolved_eq, resolvedNodes_filter sink, List.filter_map]
  have same : (resolvedNodes stats).filter ((lowercase · ≠ k) ∘ (ofStats stats).spelling) =
      (resolvedNodes stats).filter (· ≠ k) := by
    refine List.filter_congr fun n hn => ?_
    have key := lowercase_firstSpelling (firstSpelling_spelling (resolvedNodes_subset stats hn))
    simp [key]
  rw [same]
  exact List.map_congr_left fun n hn => spelling_filter (by simpa using (List.mem_filter.1 hn).2)

end Sink

end DependencyGraph

end GameBalance
