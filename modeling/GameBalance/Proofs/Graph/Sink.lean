import GameBalance.Proofs.Graph.Order

namespace GameBalance

open Relation

variable {α : Type} [DecidableEq α]

def Search.without (s : Search α) (x : α) : Search α :=
  ⟨s.discovered.filter (· ≠ x), s.finished.filter (· ≠ x)⟩

namespace Search

variable {next : α → List α} {s t : Search α} {ns : List α} {n x : α}

theorem discover_without (ne : n ≠ x) : (s.discover n).without x = (s.without x).discover n := by
  rw [without, discover, List.filter_cons_of_pos (by simpa using ne)]
  rfl

theorem finish_without (ne : n ≠ x) : (s.finish n).without x = (s.without x).finish n := by
  rw [without, finish, List.filter_cons_of_pos (by simpa using ne)]
  rfl

theorem without_self : ((s.discover x).finish x).without x = s.without x := by
  rw [without, finish, discover, List.filter_cons_of_neg (by simp),
    List.filter_cons_of_neg (by simp)]
  rfl

theorem Visits.without (sink : next x = []) (h : Visits next s ns t) :
    Visits (fun n => (next n).filter (· ≠ x)) (s.without x) (ns.filter (· ≠ x)) (t.without x) := by
  induction h with
  | done => exact .done
  | @known s t n ns hn _ ih =>
    by_cases eq : n = x
    · rwa [List.filter_cons_of_neg (by simpa using eq)]
    · rw [List.filter_cons_of_pos (by simpa using eq)]
      exact .known (List.mem_filter.2 ⟨hn, by simpa using eq⟩) ih
  | @fresh s t u n ns hn inner _ ih ih' =>
    by_cases eq : n = x
    · subst eq
      rw [sink] at inner
      cases inner
      rw [without_self] at ih'
      rwa [List.filter_cons_of_neg (by simp)]
    · rw [discover_without eq] at ih
      rw [finish_without eq] at ih'
      rw [List.filter_cons_of_pos (by simpa using eq)]
      exact .fresh (fun mem => hn (List.mem_of_mem_filter mem)) ih ih'

end Search

namespace Digraph

def without (g : Digraph α) (x : α) : Digraph α :=
  ⟨g.nodes.filter (· ≠ x), g.edges.filter fun e => e.1 ≠ x ∧ e.2 ≠ x⟩

variable {g : Digraph α} {m n x : α}

theorem edge_without : (g.without x).Edge m n ↔ g.Edge m n ∧ m ≠ x ∧ n ≠ x := by
  simp [Edge, without]

theorem without_addEdge (g : Digraph α) (e : α × α) (x : α) : (g.addEdge e).without x =
    if e.1 ≠ x ∧ e.2 ≠ x then (g.without x).addEdge e else g.without x := by
  have mem : e.1 ≠ x ∧ e.2 ≠ x → (e ∈ (g.without x).edges ↔ e ∈ g.edges) := fun kept => by
    simp [without, kept]
  by_cases kept : e.1 ≠ x ∧ e.2 ≠ x
  · rw [if_pos kept, addEdge, addEdge]
    by_cases there : e ∈ g.edges
    · rw [if_pos there, if_pos ((mem kept).2 there)]
    · rw [if_neg there, if_neg fun here => there ((mem kept).1 here), without, List.filter_append,
        List.filter_cons_of_pos (by simpa using kept), List.filter_nil]
      rfl
  · rw [if_neg kept, addEdge]
    split
    · rfl
    · rw [Digraph.without, List.filter_append, List.filter_cons_of_neg (by simpa using kept),
        List.filter_nil, List.append_nil]
      rfl

theorem without_foldl_addEdge (es : List (α × α)) : (es.foldl addEdge g).without x =
    (es.filter fun e => e.1 ≠ x ∧ e.2 ≠ x).foldl addEdge (g.without x) := by
  induction es generalizing g with
  | nil => rfl
  | cons e es ih =>
    rw [List.foldl_cons, ih, without_addEdge, List.filter_cons]
    by_cases kept : e.1 ≠ x ∧ e.2 ≠ x
    · rw [if_pos kept, if_pos (decide_eq_true kept), List.foldl_cons]
    · rw [if_neg kept, if_neg (by simpa using kept)]

theorem edge_of_without : ∀ m n, (g.without x).Edge m n → g.Edge m n :=
  fun _ _ edge => (edge_without.1 edge).1

theorem Closed.without (h : g.Closed) (x : α) : (g.without x).Closed := by
  intro m n edge
  obtain ⟨edge, hm, hn⟩ := edge_without.1 edge
  obtain ⟨source, target⟩ := h m n edge
  exact ⟨List.mem_filter.2 ⟨source, by simpa using hm⟩,
    List.mem_filter.2 ⟨target, by simpa using hn⟩⟩

section Sink

variable (sink : ∀ n, ¬g.Edge x n)

include sink

theorem successors_without : (g.without x).successors n = (g.successors n).filter (· ≠ x) := by
  have kept : ∀ e ∈ g.edges, e.1 ≠ x := fun e he eq => sink e.2 (eq ▸ he)
  rw [successors, successors, without, List.filter_map, List.filter_filter, List.filter_filter]
  refine congrArg (List.map Prod.snd) (List.filter_congr fun e he => ?_)
  simp [kept e he, Bool.and_comm]

theorem transGen_without (path : TransGen g.Edge m n) (ne : n ≠ x) :
    TransGen (g.without x).Edge m n := by
  induction path with
  | single edge => exact .single (edge_without.2 ⟨edge, fun eq => sink _ (eq ▸ edge), ne⟩)
  | @tail k n _ edge ih =>
    have source : k ≠ x := fun eq => sink n (eq ▸ edge)
    exact .tail (ih source) (edge_without.2 ⟨edge, source, ne⟩)

theorem cycle_without : TransGen (g.without x).Edge n n ↔ TransGen g.Edge n n := by
  refine ⟨fun cycle => TransGen.mono edge_of_without _ _ cycle, fun cycle => ?_⟩
  obtain ⟨k, edge, -⟩ := TransGen.head'_iff.1 cycle
  exact transGen_without sink cycle fun eq => sink k (eq ▸ edge)

theorem blocked_without (ne : n ≠ x) : (g.without x).Blocked n ↔ g.Blocked n := by
  constructor
  · rintro ⟨m, cycle, path⟩
    exact ⟨m, (cycle_without sink).1 cycle, ReflTransGen.mono edge_of_without _ _ path⟩
  · rintro ⟨m, cycle, path⟩
    refine ⟨m, (cycle_without sink).2 cycle, ?_⟩
    obtain rfl | path := reflTransGen_iff_eq_or_transGen.1 path
    · exact .refl
    · exact (transGen_without sink path ne).to_reflTransGen

variable (closed : g.Closed)

include closed

theorem search_without {next next' : α → List α} (neighbours : ∀ m n, n ∈ next m ↔ g.Edge m n)
    (same : ∀ n, next' n = (next n).filter (· ≠ x)) :
    (g.without x).search next' (g.without x).nodes = (g.search next g.nodes).without x := by
  have none : next x = [] :=
    List.eq_nil_iff_forall_not_mem.2 fun n mem => sink n ((neighbours x n).1 mem)
  have visits := (search_visits closed neighbours (List.Subset.refl _)).without none
  rw [← funext same] at visits
  have neighbours' : ∀ m n, n ∈ next' m ↔ (g.without x).Edge m n := fun m n => by
    rw [same, List.mem_filter, neighbours, edge_without]
    constructor
    · rintro ⟨edge, ne⟩
      exact ⟨edge, fun eq => sink n (eq ▸ edge), by simpa using ne⟩
    · rintro ⟨edge, -, ne⟩
      exact ⟨edge, by simpa using ne⟩
  exact (search_visits (closed.without x) neighbours' (List.Subset.refl _)).unique visits

theorem topologicalOrder_without : (g.without x).topologicalOrder.toOption =
    g.topologicalOrder.toOption.map (·.filter (· ≠ x)) := by
  have searched := search_without sink closed mem_successors_iff fun n => successors_without sink
  have exists_iff : (∃ order, (g.without x).topologicalOrder = .ok order) ↔
      ∃ order, g.topologicalOrder = .ok order := by
    rw [topologicalOrder_ok_iff (closed.without x), topologicalOrder_ok_iff closed]
    exact forall_congr' fun n => not_congr (cycle_without sink)
  cases ordered : g.topologicalOrder with
  | ok order =>
    obtain ⟨order', ordered'⟩ := exists_iff.2 ⟨order, ordered⟩
    rw [ordered', (eq_finished ordered').1, (eq_finished ordered).1, searched]
    rfl
  | error n =>
    cases ordered' : (g.without x).topologicalOrder with
    | ok order' =>
      obtain ⟨order, ordered''⟩ := exists_iff.1 ⟨order', ordered'⟩
      cases ordered.symm.trans ordered''
    | error m => rfl

theorem acyclicOrder_without : (g.without x).acyclicOrder = g.acyclicOrder.filter (· ≠ x) := by
  have neighbours : ∀ m n, n ∈ (g.successors m).reverse ↔ g.Edge m n := fun m n => by
    rw [List.mem_reverse, mem_successors_iff]
  have searched := search_without sink closed neighbours fun n => by
    rw [List.filter_reverse, ← successors_without sink]
  rw [acyclicOrder, acyclicOrder, searched, Search.without, List.filter_filter, List.filter_filter]
  refine List.filter_congr fun n _ => ?_
  by_cases eq : n = x
  · simp [eq]
  · simp [eq, mem_blocked closed, mem_blocked (closed.without x), blocked_without sink eq]

end Sink

end Digraph
end GameBalance
