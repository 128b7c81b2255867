import GameBalance.Proofs.Graph.Order

/-!
The topological order as two loops over a stack find it. The first one leaves a
node on the stack while what it has pushed on top of it is looked at, so a node
may stand there more than once. The second one follows the edges backwards from
each node of the order in turn and must find nothing new but that node.
-/

namespace GameBalance.Digraph

inductive Runs {σ ω : Type} (step : σ → σ ⊕ ω) : σ → ω → Prop
  | stop {s a} : step s = .inr a → Runs step s a
  | next {s s' a} : step s = .inl s' → Runs step s' a → Runs step s a

theorem Runs.unique {σ ω : Type} {step : σ → σ ⊕ ω} {s : σ} {a b : ω} (h : Runs step s a)
    (h' : Runs step s b) : a = b := by
  induction h with
  | stop answer =>
    cases h' with
    | stop answer' => exact Sum.inr.inj (answer.symm.trans answer')
    | next go' _ => cases answer.symm.trans go'
  | next go _ ih =>
    cases h' with
    | stop answer' => cases go.symm.trans answer'
    | next go' h' => exact ih (Sum.inl.inj (go.symm.trans go') ▸ h')

variable {α : Type} [DecidableEq α]

def push (seen ns stack : List α) : List α :=
  ns.foldl (fun stack n => if n ∈ seen then stack else n :: stack) stack

/--
The first loop. A node of `roots` is pushed where the stack is empty, unless it has been discovered.
-/
structure Sweep (α : Type) where
  roots : List α
  stack : List α
  search : Search α

def Sweep.step (g : Digraph α) : Sweep α → Sweep α ⊕ Except α (List α)
  | ⟨[], [], s⟩ => .inr (.ok s.finished)
  | ⟨r :: roots, [], s⟩ => .inl (if r ∈ s.discovered then ⟨roots, [], s⟩ else ⟨roots, [r], s⟩)
  | ⟨roots, n :: stack, s⟩ =>
    if n ∈ s.discovered then .inl ⟨roots, stack, if n ∈ s.finished then s else s.finish n⟩
    else if n ∈ g.successors n then .inr (.error n)
    else .inl ⟨roots, push (n :: s.discovered) (g.successors n).reverse (n :: stack), s.discover n⟩

/--
The second loop. Whether the search from a node of `order`
has found one that was not seen before is in `found`.
-/
structure Recheck (α : Type) where
  order : List α
  found : Bool
  stack : List α
  seen : List α

def Recheck.step (g : Digraph α) : Recheck α → Recheck α ⊕ Option α
  | ⟨[], _, [], _⟩ => .inr none
  | ⟨n :: order, _, [], seen⟩ => .inl ⟨order, false, [n], seen⟩
  | ⟨order, found, n :: stack, seen⟩ =>
    if n ∈ seen then .inl ⟨order, found, stack, seen⟩
    else if found then .inr (some n)
    else .inl ⟨order, true, push (n :: seen) (g.predecessors n).reverse stack, n :: seen⟩

/-- The order is the reverse of that in which the first loop finishes the nodes. -/
inductive Sorts (g : Digraph α) : Except α (List α) → Prop
  | loop {n} : Runs (Sweep.step g) ⟨g.nodes, [], .empty⟩ (.error n) → Sorts g (.error n)
  | back {order n} : Runs (Sweep.step g) ⟨g.nodes, [], .empty⟩ (.ok order) →
      Runs (Recheck.step g) ⟨order, false, [], []⟩ (some n) → Sorts g (.error n)
  | order {order} : Runs (Sweep.step g) ⟨g.nodes, [], .empty⟩ (.ok order) →
      Runs (Recheck.step g) ⟨order, false, [], []⟩ none → Sorts g (.ok order)

variable {g : Digraph α} {roots stack order seen ns : List α} {s t : Search α}
    {answer : Except α (List α)} {n : α}

theorem push_reverse (seen ns stack : List α) :
    push seen ns.reverse stack = ns.filter (· ∉ seen) ++ stack := by
  rw [push, List.foldl_reverse]
  induction ns with
  | nil => rfl
  | cons n ns ih =>
    rw [List.foldr_cons, ih, List.filter_cons]
    by_cases h : n ∈ seen
    · simp [h]
    · simp [h]

theorem Sorts.unique {a b : Except α (List α)} (h : g.Sorts a) (h' : g.Sorts b) : a = b := by
  cases h with
  | loop sweep =>
    cases h' with
    | loop sweep' => exact congrArg _ (Except.error.inj (sweep.unique sweep'))
    | back sweep' _ => cases sweep.unique sweep'
    | order sweep' _ => cases sweep.unique sweep'
  | back sweep recheck =>
    cases h' with
    | loop sweep' => cases sweep.unique sweep'
    | back sweep' recheck' =>
      cases sweep.unique sweep'
      cases recheck.unique recheck'
      rfl
    | order sweep' recheck' =>
      cases sweep.unique sweep'
      cases recheck.unique recheck'
  | order sweep recheck =>
    cases h' with
    | loop sweep' => cases sweep.unique sweep'
    | back sweep' recheck' =>
      cases sweep.unique sweep'
      cases recheck.unique recheck'
    | order sweep' _ => exact sweep.unique sweep'

def loop? (g : Digraph α) (s : Search α) : Option α :=
  s.discovered.reverse.find? fun n => n ∈ g.successors n

/--
What the first loop answers where the search has come to
`s`: the first loop among the nodes discovered ends it.
-/
def Resumes (g : Digraph α) (roots stack : List α) (s : Search α) (answer : Except α (List α)) :
    Prop :=
  match g.loop? s with
  | some n => answer = .error n
  | none => Runs (Sweep.step g) ⟨roots, stack, s⟩ answer

namespace Resumes

theorem of_step (same : t.discovered = s.discovered)
    (go : Sweep.step g ⟨roots, stack, s⟩ = .inl ⟨roots', stack', t⟩)
    (h : g.Resumes roots' stack' t answer) : g.Resumes roots stack s answer := by
  rw [Resumes, loop?, same] at h
  rw [Resumes, loop?]
  split at h
  · exact h
  · exact .next go h

theorem discover (fresh : n ∉ s.discovered)
    (h : g.Resumes roots ((g.successors n).filter (· ∉ n :: s.discovered) ++ n :: stack)
      (s.discover n) answer) :
    g.Resumes roots (n :: stack) s answer := by
  have later : g.loop? (s.discover n) =
      (g.loop? s).or (if n ∈ g.successors n then some n else none) := by
    simp [loop?, Search.discover, List.find?_append, List.find?_singleton]
  rw [Resumes, later] at h
  rw [Resumes]
  cases earlier : g.loop? s with
  | some m =>
    rw [earlier] at h
    exact h
  | none =>
    rw [earlier, Option.none_or] at h
    by_cases own : n ∈ g.successors n
    · rw [if_pos own] at h
      cases h
      refine .stop ?_
      rw [Sweep.step, if_neg fresh, if_pos own]
    · rw [if_neg own] at h
      refine .next ?_ h
      rw [Sweep.step, if_neg fresh, if_neg own, push_reverse]

end Resumes

theorem resumes_of_visits {pushed : List α} (visits : Search.Visits g.successors s ns t)
    (orderly : s.Orderly)
    (known : pushed ⊆ s.discovered) (closed : ∀ n ∈ ns, n ∉ pushed → ¬s.Open n)
    (h : g.Resumes roots stack t answer) :
    g.Resumes roots (ns.filter (· ∉ pushed) ++ stack) s answer := by
  induction visits generalizing pushed stack with
  | done => exact h
  | @known s t n ns hn _ ih =>
    obtain ⟨first, rest⟩ := List.forall_mem_cons.1 closed
    have resumes := ih orderly known rest h
    by_cases left : n ∈ pushed
    · rwa [List.filter_cons_of_neg (by simpa using left)]
    · rw [List.filter_cons_of_pos (by simpa using left), List.cons_append]
      have finished : n ∈ s.finished :=
        Decidable.byContradiction fun unfinished => first left ⟨hn, unfinished⟩
      refine .of_step rfl ?_ resumes
      rw [Sweep.step, if_pos hn, if_pos finished]
  | @fresh s t u n ns hn inner _ ih ih' =>
    have left : n ∉ pushed := fun mem => hn (known mem)
    have opened : t.Open n := inner.open_self hn orderly
    have closed' : ∀ k ∈ ns, k ∉ pushed → ¬(t.finish n).Open k := fun k hk left opened =>
      closed k (List.mem_cons_of_mem n hk) left ((inner.open_finish_iff hn).1 opened)
    have known' : pushed ⊆ t.discovered :=
      fun k hk => inner.subset (List.mem_cons_of_mem n (known hk))
    have outer := ih' ((inner.orderly (orderly.discover n)).finish opened) known' closed' h
    rw [List.filter_cons_of_pos (by simpa using left), List.cons_append]
    -- the node comes to the top again when all that was pushed on it is gone
    have finish : g.Resumes roots (n :: (ns.filter (· ∉ pushed) ++ stack)) t answer := by
      refine .of_step (t := t.finish n) rfl ?_ outer
      rw [Sweep.step, if_pos opened.1, if_neg opened.2]
    exact .discover hn
      (ih (orderly.discover n) (List.Subset.refl _) (fun k _ new seen => new seen.1) finish)

theorem resumes_roots (visits : Search.Visits g.successors s roots t) (orderly : s.Orderly)
    (closed : ∀ n, ¬s.Open n) (h : g.Resumes [] [] t answer) : g.Resumes roots [] s answer := by
  induction visits with
  | done => exact h
  | @known s t n ns hn _ ih =>
    refine .of_step rfl ?_ (ih orderly closed h)
    rw [Sweep.step, if_pos hn]
  | @fresh s t u n ns hn inner _ _ ih' =>
    have opened : t.Open n := inner.open_self hn orderly
    have closed' : ∀ k, ¬(t.finish n).Open k :=
      fun k opened => closed k ((inner.open_finish_iff hn).1 opened)
    have outer := ih' ((inner.orderly (orderly.discover n)).finish opened) closed' h
    have pushed : g.Resumes ns ([n].filter (· ∉ []) ++ []) s answer :=
      resumes_of_visits (.fresh hn inner .done) orderly (List.nil_subset _)
        (fun k _ _ => closed k) outer
    refine .of_step rfl ?_ pushed
    rw [Sweep.step, if_neg hn]
    rfl

theorem recheck_misplaced? (loopless : ∀ n ∈ order, n ∉ g.successors n) (nodup : order.Nodup)
    (new : ∀ n ∈ order, n ∉ seen) (found : Bool) :
    Runs (Recheck.step g) ⟨order, found, [], seen⟩ (g.misplaced? seen order) := by
  induction order generalizing seen found with
  | nil => exact .stop rfl
  | cons n order ih =>
    obtain ⟨free, loopless⟩ := List.forall_mem_cons.1 loopless
    obtain ⟨unseen, new⟩ := List.forall_mem_cons.1 new
    obtain ⟨apart, nodup⟩ := List.nodup_cons.1 nodup
    have sources : (g.predecessors n).filter (· ∉ n :: seen) =
        (g.predecessors n).filter (· ∉ seen) := by
      refine List.filter_congr fun m hm => ?_
      have ne : m ≠ n := by
        rintro rfl
        exact free (mem_successors.2 (mem_predecessors.1 hm))
      simp [ne]
    have first : Recheck.step g ⟨order, false, [n], seen⟩ =
        .inl ⟨order, true, (g.predecessors n).filter (· ∉ seen), n :: seen⟩ := by
      rw [Recheck.step, if_neg unseen, if_neg Bool.false_ne_true, push_reverse, sources,
        List.append_nil]
    refine .next rfl (.next first ?_)
    rw [misplaced?, ← List.head?_filter]
    cases filtered : (g.predecessors n).filter (· ∉ seen) with
    | nil =>
      refine ih loopless nodup (fun m hm => ?_) true
      rw [List.mem_cons, not_or]
      exact ⟨fun eq => apart (eq ▸ hm), new m hm⟩
    | cons m ms =>
      have mem : m ∈ (g.predecessors n).filter (· ∉ n :: seen) := by
        rw [sources, filtered]
        exact List.mem_cons_self
      refine .stop ?_
      rw [Recheck.step, if_neg (of_decide_eq_true (List.mem_filter.1 mem).2), if_pos rfl]
      rfl

theorem sorts_iff (closed : g.Closed) : g.Sorts answer ↔ answer = g.topologicalOrder := by
  have visits := search_visits closed mem_successors_iff (List.Subset.refl g.nodes)
  have sweep : ∀ {answer}, g.Resumes [] [] (g.search g.successors g.nodes) answer →
      Runs (Sweep.step g) ⟨g.nodes, [], .empty⟩ answer :=
    resumes_roots visits ⟨List.Subset.refl _, List.nodup_nil⟩ fun n opened =>
      List.not_mem_nil opened.1
  have sorts : g.Sorts g.topologicalOrder := by
    rw [topologicalOrder]
    split
    · rename_i n loop
      refine .loop (sweep ?_)
      rw [Resumes, loop?, loop]
    · rename_i loopless
      have swept : Runs (Sweep.step g) ⟨g.nodes, [], .empty⟩
          (.ok (g.search g.successors g.nodes).finished) := by
        refine sweep ?_
        rw [Resumes, loop?, loopless]
        exact .stop rfl
      have free : ∀ n ∈ (g.search g.successors g.nodes).finished, n ∉ g.successors n :=
        fun n hn => by
        have discovered := (mem_discovered closed mem_successors_iff (List.Subset.refl _)).2 hn
        simpa using List.find?_eq_none.1 loopless n (List.mem_reverse.2 discovered)
      have rechecked := recheck_misplaced?  free
        (nodup_finished closed mem_successors_iff (List.Subset.refl _))
        (fun _ _ => List.not_mem_nil) false
      split
      · rename_i n misplaced
        rw [misplaced] at rechecked
        exact .back swept rechecked
      · rename_i placed
        rw [placed] at rechecked
        exact .order swept rechecked
  exact ⟨fun h => h.unique sorts, fun eq => eq ▸ sorts⟩

end GameBalance.Digraph
