import GameBalance.Graph.Order
import GameBalance.Proofs.Graph.Search

namespace GameBalance.Digraph

open Relation

variable {α : Type}

def Edge (g : Digraph α) (m n : α) : Prop :=
  (m, n) ∈ g.edges

def Closed (g : Digraph α) : Prop :=
  ∀ m n, g.Edge m n → m ∈ g.nodes ∧ n ∈ g.nodes

/-- Whether a cycle leads to a node, which may lie on it. -/
def Blocked (g : Digraph α) (n : α) : Prop :=
  ∃ m, TransGen g.Edge m m ∧ ReflTransGen g.Edge m n

def SourcesFirst (g : Digraph α) (order : List α) : Prop :=
  ∀ before n after, order = before ++ n :: after → ∀ m, g.Edge m n → m ∈ before

variable {g : Digraph α} {order roots : List α} {next : α → List α} {m n : α}

theorem Blocked.step (h : g.Blocked m) (edge : g.Edge m n) : g.Blocked n := by
  obtain ⟨k, cycle, path⟩ := h
  exact ⟨k, cycle, path.tail edge⟩

theorem SourcesFirst.mem_of_transGen (h : g.SourcesFirst order) (path : TransGen g.Edge m n) :
    ∀ before after, order = before ++ n :: after → m ∈ before := by
  induction path with
  | single edge => exact fun before after split => h before _ after split m edge
  | @tail k n _ edge ih =>
    intro before after split
    obtain ⟨first, second, rfl⟩ := List.append_of_mem (h before n after split k edge)
    refine List.mem_append_left _ (ih first (second ++ n :: after) ?_)
    rw [split, List.append_assoc, List.cons_append]

theorem SourcesFirst.acyclic (h : g.SourcesFirst order) (nodup : order.Nodup) (hn : n ∈ order) :
    ¬TransGen g.Edge n n := by
  intro cycle
  obtain ⟨before, after, rfl⟩ := List.append_of_mem hn
  exact (List.nodup_append.1 nodup).2.2 n (h.mem_of_transGen cycle before after rfl) n
    List.mem_cons_self rfl

theorem reachable_nodes (closed : g.Closed) :
    (∃ r ∈ g.nodes, ReflTransGen g.Edge r n) ↔ n ∈ g.nodes := by
  refine ⟨?_, fun hn => ⟨n, hn, .refl⟩⟩
  rintro ⟨r, hr, path⟩
  cases path with
  | refl => exact hr
  | tail _ edge => exact (closed _ _ edge).2

theorem mem_of_sublist {before after : List α} (nodup : (before ++ n :: after).Nodup)
    (h : [m, n].Sublist (before ++ n :: after)) : m ∈ before := by
  obtain ⟨front, back, eq, first, second⟩ := List.sublist_append_iff.1 h
  cases front with
  | cons k front =>
    obtain ⟨rfl, -⟩ := List.cons.inj eq
    exact first.subset List.mem_cons_self
  | nil =>
    obtain rfl : [m, n] = back := eq
    have later : n ∈ after := by
      cases second with
      | cons _ second => exact second.subset (by simp)
      | cons_cons _ second => exact second.subset (by simp)
    exact absurd later (List.nodup_cons.1 (List.nodup_append.1 nodup).2.1).1

variable [DecidableEq α]

section Search

variable (closed : g.Closed) (neighbours : ∀ m n, n ∈ next m ↔ g.Edge m n) (nodes : roots ⊆ g.nodes)

include closed neighbours nodes

theorem search_visits : Search.Visits next .empty roots (g.search next roots) := by
  refine Search.visits_foldl (fun m _ n hn => (closed m n ((neighbours m n).1 hn)).2) _ ?_ nodes
  exact List.length_filter_le _ _

theorem mem_discovered :
    n ∈ (g.search next roots).discovered ↔ n ∈ (g.search next roots).finished := by
  have visits := search_visits closed neighbours nodes
  constructor
  · intro h
    refine Decidable.byContradiction fun unfinished => ?_
    exact List.not_mem_nil (visits.open_iff.1 ⟨h, unfinished⟩).1
  · exact fun h => (visits.orderly ⟨List.Subset.refl _, List.nodup_nil⟩).subset h

theorem nodup_finished : (g.search next roots).finished.Nodup :=
  ((search_visits closed neighbours nodes).orderly ⟨List.Subset.refl _, List.nodup_nil⟩).nodup

theorem mem_finished :
    n ∈ (g.search next roots).finished ↔ ∃ r ∈ roots, ReflTransGen g.Edge r n := by
  have visits := search_visits closed neighbours nodes
  have edges : (fun m n => n ∈ next m) = g.Edge :=
    funext fun m => funext fun n => propext (neighbours m n)
  constructor
  · intro h
    have reached := (visits.reaches h).resolve_left List.not_mem_nil
    rwa [Search.Reaches, edges] at reached
  · rintro ⟨r, hr, path⟩
    induction path with
    | refl => exact (mem_discovered closed neighbours nodes).1 (visits.visited r hr)
    | tail _ edge ih =>
      have discovered := (visits.closed ih).resolve_left List.not_mem_nil
      exact (mem_discovered closed neighbours nodes).1 (discovered ((neighbours _ _).2 edge))

theorem sublist_finished (hm : m ∈ (g.search next roots).finished) (edge : g.Edge m n)
    (acyclic : ¬TransGen g.Edge m m) :
    [m, n].Sublist (g.search next roots).finished := by
  have visits := search_visits closed neighbours nodes
  have edges : (fun m n => n ∈ next m) = g.Edge :=
    funext fun m => funext fun n => propext (neighbours m n)
  obtain finished | opened | back :=
    (visits.ordered hm).resolve_left List.not_mem_nil n ((neighbours m n).2 edge)
  · exact finished
  · exact absurd opened.1 List.not_mem_nil
  · rw [Search.Reaches, edges] at back
    exact absurd (TransGen.head' edge back) acyclic

end Search

theorem mem_successors_iff (m n : α) : n ∈ g.successors m ↔ g.Edge m n :=
  mem_successors

theorem mem_reachable (closed : g.Closed) (nodes : roots ⊆ g.nodes) :
    n ∈ g.reachable roots ↔ ∃ r ∈ roots, ReflTransGen g.Edge r n := by
  rw [reachable, mem_discovered closed mem_successors_iff nodes,
    mem_finished closed mem_successors_iff nodes]

theorem onCycle_iff (closed : g.Closed) : g.onCycle n = true ↔ TransGen g.Edge n n := by
  have nodes : g.successors n ⊆ g.nodes := fun m hm => (closed n m (mem_successors.1 hm)).2
  rw [onCycle, decide_eq_true_iff, mem_reachable closed nodes, TransGen.head'_iff]
  simp only [mem_successors_iff]

theorem mem_blocked (closed : g.Closed) : n ∈ g.blocked ↔ g.Blocked n := by
  rw [blocked, mem_reachable closed (List.filter_subset_self _)]
  constructor
  · rintro ⟨m, hm, path⟩
    exact ⟨m, (onCycle_iff closed).1 (List.mem_filter.1 hm).2, path⟩
  · rintro ⟨m, cycle, path⟩
    obtain ⟨k, edge, -⟩ := TransGen.head'_iff.1 cycle
    exact ⟨m, List.mem_filter.2 ⟨(closed m k edge).1, (onCycle_iff closed).2 cycle⟩, path⟩

section Acyclic

variable (closed : g.Closed)

include closed

theorem mem_acyclicOrder : n ∈ g.acyclicOrder ↔ n ∈ g.nodes ∧ ¬g.Blocked n := by
  have neighbours : ∀ m n, n ∈ (g.successors m).reverse ↔ g.Edge m n := fun m n => by
    rw [List.mem_reverse, mem_successors_iff]
  rw [acyclicOrder, List.mem_filter, decide_eq_true_iff, mem_blocked closed,
    mem_finished closed neighbours (List.Subset.refl _)]
  exact and_congr_left fun _ => reachable_nodes closed

theorem nodup_acyclicOrder : g.acyclicOrder.Nodup := by
  refine (nodup_finished closed (fun m n => ?_) (List.Subset.refl _)).sublist List.filter_sublist
  rw [List.mem_reverse, mem_successors_iff]

theorem acyclicOrder_sourcesFirst : g.SourcesFirst g.acyclicOrder := by
  have neighbours : ∀ m n, n ∈ (g.successors m).reverse ↔ g.Edge m n := fun m n => by
    rw [List.mem_reverse, mem_successors_iff]
  intro before n after split m edge
  have hn : n ∈ g.acyclicOrder := split ▸ List.mem_append_right _ List.mem_cons_self
  have free : ¬g.Blocked n := ((mem_acyclicOrder closed).1 hn).2
  have source : ¬g.Blocked m := fun blocked => free (blocked.step edge)
  have finished : m ∈ (g.search (fun n => (g.successors n).reverse) g.nodes).finished :=
    (mem_finished closed neighbours (List.Subset.refl _)).2 ⟨m, (closed m n edge).1, .refl⟩
  have earlier := (sublist_finished closed neighbours (List.Subset.refl _) finished edge
    fun cycle => source ⟨m, cycle, .refl⟩).filter (· ∉ g.blocked)
  have both : [m, n].filter (· ∉ g.blocked) = [m, n] := by
    simp [mem_blocked closed, free, source]
  rw [both] at earlier
  have nodup := nodup_acyclicOrder closed
  rw [split] at nodup
  refine mem_of_sublist nodup ?_
  rw [← split]
  exact earlier

end Acyclic

theorem misplaced?_eq_none {seen : List α} (h : g.misplaced? seen order = none) :
    ∀ before n after, order = before ++ n :: after → ∀ m, g.Edge m n → m ∈ before ∨ m ∈ seen := by
  induction order generalizing seen with
  | nil => exact fun before n after split => absurd split (by simp)
  | cons k order ih =>
    rw [misplaced?] at h
    split at h
    · cases h
    · rename_i placed
      intro before n after split m edge
      cases before with
      | nil =>
        obtain ⟨rfl, -⟩ := List.cons.inj split
        have source := List.find?_eq_none.1 placed m (mem_predecessors.2 edge)
        exact .inr (by simpa using source)
      | cons j before =>
        obtain ⟨rfl, rest⟩ := List.cons.inj split
        obtain first | later := ih h before n after rest m edge
        · exact .inl (List.mem_cons_of_mem _ first)
        · obtain rfl | later := List.mem_cons.1 later
          · exact .inl List.mem_cons_self
          · exact .inr later

theorem eq_finished (h : g.topologicalOrder = .ok order) :
    order = (g.search g.successors g.nodes).finished ∧ g.misplaced? [] order = none := by
  rw [topologicalOrder] at h
  split at h
  · cases h
  · split at h
    · cases h
    · rename_i placed
      cases h
      exact ⟨rfl, placed⟩

theorem topologicalOrder_sourcesFirst (h : g.topologicalOrder = .ok order) : g.SourcesFirst order :=
  fun before n after split m edge =>
    (misplaced?_eq_none (eq_finished h).2 before n after split m edge).resolve_right
      List.not_mem_nil

theorem misplaced?_eq_some {seen : List α} (h : g.misplaced? seen order = some m) :
    ∃ before n after, order = before ++ n :: after ∧ g.Edge m n ∧ m ∉ before ∧ m ∉ seen := by
  induction order generalizing seen with
  | nil => cases h
  | cons k order ih =>
    rw [misplaced?] at h
    split at h
    · rename_i found
      cases h
      have unseen := List.find?_some found
      exact ⟨[], k, order, rfl, mem_predecessors.1 (List.mem_of_find?_eq_some found),
        List.not_mem_nil, by simpa using unseen⟩
    · obtain ⟨before, n, after, rfl, edge, unplaced, unseen⟩ := ih h
      rw [List.mem_cons, not_or] at unseen
      refine ⟨k :: before, n, after, rfl, edge, ?_, unseen.2⟩
      rw [List.mem_cons, not_or]
      exact ⟨unseen.1, unplaced⟩

structure Schedules (g : Digraph α) (order : List α) : Prop where
  nodup : order.Nodup
  mem_iff : ∀ n, n ∈ order ↔ n ∈ g.nodes ∧ ¬g.Blocked n
  sourcesFirst : g.SourcesFirst order

theorem schedules_acyclicOrder (closed : g.Closed) : g.Schedules g.acyclicOrder where
  nodup := nodup_acyclicOrder closed
  mem_iff _ := mem_acyclicOrder closed
  sourcesFirst := acyclicOrder_sourcesFirst closed

section Topological

variable (closed : g.Closed)

include closed

theorem nodup_topologicalOrder (h : g.topologicalOrder = .ok order) : order.Nodup := by
  rw [(eq_finished h).1]
  exact nodup_finished closed mem_successors_iff (List.Subset.refl _)

theorem mem_topologicalOrder (h : g.topologicalOrder = .ok order) : n ∈ order ↔ n ∈ g.nodes := by
  rw [(eq_finished h).1, mem_finished closed mem_successors_iff (List.Subset.refl _)]
  exact reachable_nodes closed

theorem acyclic_of_topologicalOrder (h : g.topologicalOrder = .ok order) (n : α) :
    ¬TransGen g.Edge n n := by
  intro cycle
  obtain ⟨k, edge, -⟩ := TransGen.head'_iff.1 cycle
  have listed : n ∈ order := (mem_topologicalOrder closed h).2 (closed n k edge).1
  exact (topologicalOrder_sourcesFirst h).acyclic (nodup_topologicalOrder closed h) listed cycle

theorem schedules_topologicalOrder (h : g.topologicalOrder = .ok order) : g.Schedules order := by
  have free : ∀ n, ¬g.Blocked n :=
    fun n ⟨m, cycle, _⟩ => acyclic_of_topologicalOrder closed h m cycle
  exact ⟨nodup_topologicalOrder closed h,
    fun n => (mem_topologicalOrder closed h).trans (and_iff_left (free n)).symm,
    topologicalOrder_sourcesFirst h⟩

/--
The node found instead of an order lies on a cycle: a
search would else have finished it after the edge's target.
-/
theorem cycle_of_topologicalOrder (h : g.topologicalOrder = .error n) : TransGen g.Edge n n := by
  rw [topologicalOrder] at h
  split at h
  · rename_i found
    cases h
    have edge := List.find?_some found
    exact .single (mem_successors.1 (of_decide_eq_true edge))
  · split at h
    · rename_i found
      cases h
      obtain ⟨before, k, after, split, edge, unplaced, -⟩ := misplaced?_eq_some found
      have finished : n ∈ (g.search g.successors g.nodes).finished :=
        (mem_finished closed mem_successors_iff (List.Subset.refl _)).2
          ⟨n, (closed n k edge).1, .refl⟩
      have nodup : (g.search g.successors g.nodes).finished.Nodup :=
        nodup_finished closed mem_successors_iff (List.Subset.refl _)
      by_contra acyclic
      have earlier :=
        sublist_finished closed mem_successors_iff (List.Subset.refl _) finished edge acyclic
      rw [split] at nodup earlier
      exact unplaced (mem_of_sublist nodup earlier)
    · cases h

theorem topologicalOrder_ok_iff :
    (∃ order, g.topologicalOrder = .ok order) ↔ ∀ n, ¬TransGen g.Edge n n := by
  constructor
  · rintro ⟨order, h⟩
    exact acyclic_of_topologicalOrder closed h
  · intro acyclic
    cases h : g.topologicalOrder with
    | ok order => exact ⟨order, rfl⟩
    | error n => exact absurd (cycle_of_topologicalOrder closed h) (acyclic n)

end Topological

end GameBalance.Digraph
