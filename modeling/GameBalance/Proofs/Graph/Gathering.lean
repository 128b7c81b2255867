import GameBalance.Proofs.Graph.Order
import Mathlib.Data.List.Basic

/-!
A depth-first search that gathers strongly connected components. A node stays on a stack, where it
was put when it was discovered, until the search is back at a node from which nothing below can be
reached; that one takes off itself and all above it as one component.
-/

namespace GameBalance

open Relation

/--
`stack` holds the nodes that have no component yet,
and both it and `components` have the latest first.
-/
structure Gathering (α : Type) where
  search : Search α
  stack : List α
  components : List (List α)

namespace Gathering

variable {α : Type}

def empty : Gathering α :=
  ⟨.empty, [], []⟩

def discover (s : Gathering α) (n : α) : Gathering α :=
  ⟨s.search.discover n, n :: s.stack, s.components⟩

def finish (s : Gathering α) (n : α) (height low : Nat) : Gathering α :=
  if low < height then ⟨s.search.finish n, s.stack, s.components⟩
  else ⟨s.search.finish n, s.stack.drop (s.stack.length - height),
    s.stack.take (s.stack.length - height) :: s.components⟩

def height [DecidableEq α] (s : Gathering α) (n : α) : Nat :=
  s.stack.reverse.idxOf n

/--
Visiting `ns` in turn leads from one state to another,
while the least height met falls from `low` to `low'`.
-/
inductive Gathers [DecidableEq α] (next : α → List α) :
    Gathering α → Nat → List α → Gathering α → Nat → Prop
  | done {s low} : Gathers next s low [] s low
  | known {s t low low' n ns} : n ∈ s.search.discovered →
      Gathers next s (min low (s.height n)) ns t low' →
      Gathers next s low (n :: ns) t low'
  | fresh {s t u low least low' n ns} : n ∉ s.search.discovered →
      Gathers next (s.discover n) s.stack.length (next n) t least →
      Gathers next (t.finish n s.stack.length least) (min low least) ns u low' →
      Gathers next s low (n :: ns) u low'

/--
What is on the stack reaches an open node, and what is not has a component that no edge leaves.
-/
structure Sound (next : α → List α) (s : Gathering α) : Prop where
  orderly : s.search.Orderly
  discovered : ∀ m, m ∈ s.search.discovered ↔ m ∈ s.stack ∨ m ∈ s.components.flatten
  finished : ∀ m ∈ s.components.flatten, m ∈ s.search.finished
  nodup : s.stack.Nodup
  apart : ∀ m ∈ s.stack, m ∉ s.components.flatten
  reaches : ∀ m ∈ s.stack, ∃ k, s.search.Open k ∧ Search.Reaches next m k
  closed : ∀ m ∈ s.components.flatten, next m ⊆ s.components.flatten
  component : ∀ c ∈ s.components, c.Nodup ∧ ∃ n ∈ c, ∀ k, k ∈ c ↔ Search.Reaches next n k ∧
    Search.Reaches next k n
  order : ∀ p : α → Bool, (∀ m, p m = true → ¬TransGen (fun m n => n ∈ next m) m m) →
    s.components.flatten.filter p = s.search.finished.filter p

/-- What visiting `ns` adds to the stack, and where the edges from there and to `ns` lead back. -/
structure Grows [DecidableEq α] (next : α → List α) (s : Gathering α) (low : Nat) (ns : List α)
    (t : Gathering α) (low' : Nat) (above : List α) : Prop where
  stack : t.stack = above ++ s.stack
  new : ∀ m ∈ above, m ∉ s.search.discovered
  reached : ∀ m ∈ above, ∃ n ∈ ns, Search.Reaches next n m
  closed : ∀ m ∈ above, next m ⊆ t.search.discovered
  le : low' ≤ low
  least : ∀ k ∈ s.stack, (k ∈ ns ∨ ∃ m ∈ above, k ∈ next m) → low' ≤ s.height k
  attained : low' < low → ∃ k ∈ s.stack, s.height k = low' ∧ (k ∈ ns ∨ ∃ m ∈ above, k ∈ next m)

variable {next : α → List α} {s t u : Gathering α} {low low' least : Nat}
    {ns above higher below : List α} {m n j k : α}

theorem search_finish (s : Gathering α) (n : α) (height low : Nat) :
    (s.finish n height low).search = s.search.finish n := by
  unfold finish
  split <;> rfl

theorem finish_keep {height : Nat} (h : low < height) :
    s.finish n height low = ⟨s.search.finish n, s.stack, s.components⟩ :=
  if_pos h

theorem finish_emit (split : t.stack = above ++ n :: s.stack) (h : ¬low < s.stack.length) :
    t.finish n s.stack.length low =
      ⟨t.search.finish n, s.stack, (above ++ [n]) :: t.components⟩ := by
  have count : t.stack.length - s.stack.length = (above ++ [n]).length := by
    rw [split]
    simp only [List.length_append, List.length_cons, List.length_nil]
    omega
  have whole : t.stack = (above ++ [n]) ++ s.stack := by
    rw [split, List.append_assoc, List.singleton_append]
  rw [finish, if_neg h, count, whole, List.drop_left, List.take_left]

theorem length_le_finish (split : t.stack = above ++ n :: s.stack) :
    s.stack.length ≤ (t.finish n s.stack.length low).stack.length := by
  by_cases lower : low < s.stack.length
  · rw [finish_keep lower, split]
    simp only [List.length_append, List.length_cons]
    omega
  · exact Nat.le_of_eq (by rw [finish_emit split lower])

namespace Sound

theorem empty : Sound next empty where
  orderly := ⟨List.Subset.refl _, List.nodup_nil⟩
  discovered m := by simp [Gathering.empty, Search.empty]
  finished m hm := nomatch hm
  nodup := List.nodup_nil
  apart m hm := nomatch hm
  reaches m hm := nomatch hm
  closed m hm := nomatch hm
  component c hc := nomatch hc
  order p _ := rfl

theorem discover (h : Sound next s) (fresh : n ∉ s.search.discovered) :
    Sound next (s.discover n) where
  orderly := h.orderly.discover n
  discovered m := by
    have mem : m ∈ (s.discover n).search.discovered ↔ m = n ∨ m ∈ s.search.discovered :=
      List.mem_cons
    rw [mem, h.discovered m, ← or_assoc]
    exact or_congr_left List.mem_cons.symm
  finished := h.finished
  nodup := List.nodup_cons.2 ⟨fun mem => fresh ((h.discovered n).2 (.inl mem)), h.nodup⟩
  apart := List.forall_mem_cons.2 ⟨fun mem => fresh ((h.discovered n).2 (.inr mem)), h.apart⟩
  reaches := by
    refine List.forall_mem_cons.2
      ⟨⟨n, ⟨List.mem_cons_self, fun finished => fresh (h.orderly.subset finished)⟩, .refl⟩, ?_⟩
    intro m hm
    obtain ⟨k, opened, path⟩ := h.reaches m hm
    exact ⟨k, ((Search.open_discover fresh).2 opened).1, path⟩
  closed := h.closed
  component := h.component
  order := h.order

theorem keep (h : Sound next t) (opened : t.search.Open n)
    (cycle : TransGen (fun m n => n ∈ next m) n n)
    (path : Search.Reaches next n k) (other : (t.search.finish n).Open k) :
    Sound next ⟨t.search.finish n, t.stack, t.components⟩ where
  orderly := h.orderly.finish opened
  discovered := h.discovered
  finished m hm := List.mem_cons_of_mem n (h.finished m hm)
  nodup := h.nodup
  apart := h.apart
  reaches m hm := by
    obtain ⟨j, opened, path'⟩ := h.reaches m hm
    by_cases same : j = n
    · exact ⟨k, other, path'.trans (same ▸ path)⟩
    · exact ⟨j, Search.open_finish.2 ⟨opened, same⟩, path'⟩
  closed := h.closed
  component := h.component
  order p acyclic := by
    have dropped : (t.search.finish n).finished.filter p = t.search.finished.filter p :=
      List.filter_cons_of_neg fun kept => acyclic n kept cycle
    rw [dropped]
    exact h.order p acyclic

theorem stays (h : Sound next t) (hm : m ∈ t.components.flatten) (path : Search.Reaches next m k) :
    k ∈ t.components.flatten := by
  induction path with
  | refl => exact hm
  | tail _ edge ih => exact h.closed _ ih edge

end Sound

/--
`n` was put on the stack above `below`, where no edge from `n` or from what has come above it leads.
-/
structure Ripe (next : α → List α) (t : Gathering α) (above : List α) (n : α)
    (below : List α) : Prop where
  stack : t.stack = above ++ n :: below
  opened : t.search.Open n
  ended : ∀ m ∈ above, ¬t.search.Open m
  reached : ∀ m ∈ above, Search.Reaches next n m
  closed : ∀ m ∈ above ++ [n], next m ⊆ t.search.discovered
  own : ∀ m ∈ above ++ [n], ∀ k ∈ next m, k ∉ below

namespace Ripe

theorem mem_stack (ripe : Ripe next t above n below) :
    m ∈ t.stack ↔ m ∈ above ++ [n] ∨ m ∈ below := by
  rw [ripe.stack, ← List.singleton_append, ← List.append_assoc, List.mem_append]

theorem nodup (ripe : Ripe next t above n below) (h : Sound next t) :
    (above ++ [n]).Nodup ∧ below.Nodup ∧ ∀ m ∈ above ++ [n], m ∉ below := by
  have split := h.nodup
  rw [ripe.stack, ← List.singleton_append, ← List.append_assoc, List.nodup_append] at split
  exact ⟨split.1, split.2.1, fun m hm hm' => split.2.2 m hm m hm' rfl⟩

theorem inside (ripe : Ripe next t above n below) (h : Sound next t) (hm : m ∈ above ++ [n])
    (path : Search.Reaches next m k) : k ∈ above ++ [n] ∨ k ∈ t.components.flatten := by
  induction path with
  | refl => exact .inl hm
  | @tail j k _ edge ih =>
    obtain hj | hj := ih
    · obtain stays | out := (h.discovered k).1 (ripe.closed j hj edge)
      · exact .inl ((ripe.mem_stack.1 stays).resolve_right (ripe.own j hj k edge))
      · exact .inr out
    · exact .inr (h.closed j hj edge)

theorem forth (ripe : Ripe next t above n below) : ∀ m ∈ above ++ [n], Search.Reaches next n m :=
  List.forall_mem_append.2 ⟨ripe.reached, List.forall_mem_singleton.2 .refl⟩

theorem back (ripe : Ripe next t above n below) (h : Sound next t) (hm : m ∈ above ++ [n]) :
    Search.Reaches next m n := by
  obtain ⟨k, hk, path⟩ := h.reaches m (ripe.mem_stack.2 (.inl hm))
  obtain hk' | out := ripe.inside h hm path
  · obtain hk' | hk' := List.mem_append.1 hk'
    · exact absurd hk (ripe.ended k hk')
    · rwa [List.mem_singleton.1 hk'] at path
  · exact absurd (h.finished k out) hk.2

theorem mem_iff (ripe : Ripe next t above n below) (h : Sound next t) :
    k ∈ above ++ [n] ↔ Search.Reaches next n k ∧ Search.Reaches next k n := by
  refine ⟨fun hk => ⟨ripe.forth k hk, ripe.back h hk⟩, fun ⟨path, path'⟩ => ?_⟩
  refine (ripe.inside h (by simp) path).resolve_right fun out => ?_
  -- no edge leaves what has a component, so `n` would have had one already
  exact h.apart n (by simp [ripe.stack]) (h.stays out path')

theorem finished (ripe : Ripe next t above n below) (h : Sound next t) :
    ∀ m ∈ above ++ [n], m ∈ (t.search.finish n).finished := by
  refine List.forall_mem_append.2 ⟨fun m hm => ?_, List.forall_mem_singleton.2 List.mem_cons_self⟩
  by_contra unfinished
  have seen := (h.discovered m).2 (.inl (ripe.mem_stack.2 (.inl (List.mem_append_left _ hm))))
  exact ripe.ended m hm ⟨seen, fun early => unfinished (List.mem_cons_of_mem n early)⟩

theorem cycle (ripe : Ripe next t above n below) (h : Sound next t) (hj : j ∈ above ++ [n])
    (hk : k ∈ above ++ [n]) (ne : j ≠ k) : TransGen (fun m n => n ∈ next m) k k := by
  have away : TransGen (fun m n => n ∈ next m) k j :=
    (reflTransGen_iff_eq_or_transGen.1 ((ripe.back h hk).trans (ripe.forth j hj))).resolve_left ne
  exact away.trans_left ((ripe.back h hj).trans (ripe.forth k hk))

theorem filter_eq (ripe : Ripe next t above n below) (h : Sound next t) {p : α → Bool}
    (acyclic : ∀ m, p m = true → ¬TransGen (fun m n => n ∈ next m) m m) :
    (above ++ [n]).filter p = [n].filter p := by
  cases above with
  | nil => rfl
  | cons m above =>
    have distinct : m ≠ n := fun eq => (List.nodup_cons.1 (ripe.nodup h).1).1 (by rw [eq]; simp)
    have dropped : ∀ k ∈ m :: above ++ [n], ¬p k = true := by
      intro k hk kept
      by_cases same : k = n
      · exact acyclic k kept (ripe.cycle h (j := m) (by simp) hk (same ▸ distinct))
      · exact acyclic k kept (ripe.cycle h (j := n) (by simp) hk (Ne.symm same))
    rw [List.filter_eq_nil_iff.2 dropped, List.filter_cons_of_neg (dropped n (by simp)),
      List.filter_nil]

end Ripe

theorem Sound.emit (h : Sound next t) (ripe : Ripe next t above n below)
    (left : ∀ m ∈ below, ∃ k, (t.search.finish n).Open k ∧ Search.Reaches next m k) :
    Sound next ⟨t.search.finish n, below, (above ++ [n]) :: t.components⟩ := by
  have flat : ((above ++ [n]) :: t.components).flatten = (above ++ [n]) ++ t.components.flatten :=
    List.flatten_cons
  obtain ⟨once, nodup, disjoint⟩ := ripe.nodup h
  refine {
    orderly := h.orderly.finish ripe.opened
    discovered := ?discovered
    finished := ?finished
    nodup
    apart := ?apart
    reaches := left
    closed := ?closed
    component := List.forall_mem_cons.2 ⟨⟨once, n, by simp, fun k => ripe.mem_iff h⟩, h.component⟩
    order := ?order }
  case discovered =>
    intro m
    rw [flat, List.mem_append, or_left_comm, ← or_assoc, ← ripe.mem_stack]
    exact h.discovered m
  case finished =>
    rw [flat]
    exact List.forall_mem_append.2
      ⟨ripe.finished h, fun m hm => List.mem_cons_of_mem n (h.finished m hm)⟩
  case apart =>
    intro m hm
    rw [flat, List.mem_append, not_or]
    exact ⟨fun hc => disjoint m hc hm, h.apart m (ripe.mem_stack.2 (.inr hm))⟩
  case closed =>
    rw [flat]
    refine List.forall_mem_append.2 ⟨fun m hm k edge => ?_, fun m hm k edge => ?_⟩
    · exact List.mem_append.2 (ripe.inside h hm (.single edge))
    · exact List.mem_append_right _ (h.closed m hm edge)
  case order =>
    intro p acyclic
    rw [flat, List.filter_append, h.order p acyclic, ripe.filter_eq h acyclic]
    exact (List.filter_append [n] _).symm

variable [DecidableEq α]

omit [DecidableEq α] in
theorem stack_discover (s : Gathering α) (n : α) : (s.discover n).stack = [n] ++ s.stack :=
  rfl

theorem height_append (stack : t.stack = above ++ s.stack) (hk : k ∈ s.stack) :
    t.height k = s.height k := by
  rw [height, stack, List.reverse_append, List.idxOf_append_of_mem (List.mem_reverse.2 hk), height]

theorem mem_of_height_lt (stack : t.stack = above ++ s.stack) (h : t.height k < s.stack.length) :
    k ∈ s.stack := by
  refine Decidable.byContradiction fun absent => ?_
  rw [height, stack, List.reverse_append,
    List.idxOf_append_of_notMem (fun mem => absent (List.mem_reverse.1 mem)),
    List.length_reverse] at h
  omega

theorem height_lt (hk : k ∈ s.stack) : s.height k < s.stack.length := by
  rw [← List.length_reverse]
  exact List.idxOf_lt_length_of_mem (List.mem_reverse.2 hk)

namespace Grows

theorem done : Grows next s low [] s low [] where
  stack := rfl
  new m hm := nomatch hm
  reached m hm := nomatch hm
  closed m hm := nomatch hm
  le := Nat.le_refl low
  least k _ edge := by
    obtain hk | ⟨m, hm, -⟩ := edge
    · exact nomatch hk
    · exact nomatch hm
  attained lt := absurd lt (Nat.lt_irrefl low)

theorem reached_cons (h : Grows next s low ns t low' above) (hm : m ∈ above) :
    ∃ k ∈ n :: ns, Search.Reaches next k m := by
  obtain ⟨k, hk, path⟩ := h.reached m hm
  exact ⟨k, List.mem_cons_of_mem n hk, path⟩

theorem least_cons (h : Grows next s low ns t low' above) (own : n ∈ s.stack → low' ≤ s.height n)
    (hk : k ∈ s.stack) (edge : k ∈ n :: ns ∨ ∃ m ∈ above, k ∈ next m) : low' ≤ s.height k := by
  obtain here | edge := edge
  · obtain rfl | later := List.mem_cons.1 here
    · exact own hk
    · exact h.least k hk (.inl later)
  · exact h.least k hk (.inr edge)

theorem attained_cons (h : Grows next s low ns t low' above) (lower : low' < low) :
    ∃ k ∈ s.stack, s.height k = low' ∧ (k ∈ n :: ns ∨ ∃ m ∈ above, k ∈ next m) := by
  obtain ⟨k, hk, height, edge⟩ := h.attained lower
  exact ⟨k, hk, height, edge.imp_left (List.mem_cons_of_mem n)⟩

theorem known (h : Grows next s (min low (s.height n)) ns t low' above)
    (bound : low ≤ s.stack.length) :
    Grows next s low (n :: ns) t low' above where
  stack := h.stack
  new := h.new
  reached _ := h.reached_cons
  closed := h.closed
  le := Nat.le_trans h.le (Nat.min_le_left _ _)
  least _ := h.least_cons fun _ => Nat.le_trans h.le (Nat.min_le_right _ _)
  attained lt := by
    by_cases lower : low' < min low (s.height n)
    · exact h.attained_cons lower
    · have le := h.le
      have height : s.height n = low' := by omega
      exact ⟨n, mem_of_height_lt (List.nil_append s.stack).symm (by omega), height,
        .inl List.mem_cons_self⟩

theorem emit {components : List (List α)} (fresh : n ∉ s.stack)
    (more : s.search.discovered ⊆ t.search.discovered) (bound : low ≤ least)
    (h : Grows next ⟨t.search.finish n, s.stack, components⟩ (min low least) ns u low' above) :
    Grows next s low (n :: ns) u low' above where
  stack := h.stack
  new m hm seen := h.new m hm (more seen)
  reached _ := h.reached_cons
  closed := h.closed
  le := Nat.le_trans h.le (Nat.min_le_left _ _)
  least _ := h.least_cons fun mem => absurd mem fresh
  attained lt := h.attained_cons (by omega)

section Fresh

variable (inner : Grows next (s.discover n) s.stack.length (next n) t least above)

include inner

theorem split_fresh : t.stack = (above ++ [n]) ++ s.stack := by
  rw [inner.stack, List.append_assoc]
  rfl

theorem least_fresh (hk : k ∈ s.stack) (hm : m ∈ above ++ [n]) (edge : k ∈ next m) :
    least ≤ s.height k := by
  rw [← height_append (stack_discover s n) hk]
  refine inner.least k (List.mem_cons_of_mem n hk) ?_
  obtain hm | hm := List.mem_append.1 hm
  · exact .inr ⟨m, hm, edge⟩
  · exact .inl (List.mem_singleton.1 hm ▸ edge)

theorem attained_fresh (lower : least < s.stack.length) :
    ∃ k ∈ s.stack, s.height k = least ∧ ∃ m ∈ above ++ [n], k ∈ next m := by
  obtain ⟨k, -, height, edge⟩ := inner.attained lower
  have hk : k ∈ s.stack := mem_of_height_lt (stack_discover s n) (by omega)
  refine ⟨k, hk, (height_append (stack_discover s n) hk).symm.trans height, ?_⟩
  obtain edge | ⟨m, hm, edge⟩ := edge
  · exact ⟨n, by simp, edge⟩
  · exact ⟨m, by simp [hm], edge⟩

theorem reached_fresh : ∀ m ∈ above ++ [n], Search.Reaches next n m := by
  refine List.forall_mem_append.2 ⟨fun m hm => ?_, List.forall_mem_singleton.2 .refl⟩
  obtain ⟨k, hk, path⟩ := inner.reached m hm
  exact .head hk path

theorem closed_fresh (visits : (s.discover n).search.Visits next (next n) t.search) :
    ∀ m ∈ above ++ [n], next m ⊆ t.search.discovered :=
  List.forall_mem_append.2 ⟨inner.closed, List.forall_mem_singleton.2 visits.visited⟩

theorem new_fresh (fresh : n ∉ s.search.discovered) : ∀ m ∈ above ++ [n], m ∉ s.search.discovered :=
  List.forall_mem_append.2 ⟨fun m hm seen => inner.new m hm (List.mem_cons_of_mem n seen),
    List.forall_mem_singleton.2 fresh⟩

variable (fresh : n ∉ s.search.discovered)
    (visits : (s.discover n).search.Visits next (next n) t.search)

include fresh visits

theorem keep (known : s.stack ⊆ s.search.discovered) (bound : low ≤ s.stack.length)
    (later : t.search.discovered ⊆ u.search.discovered)
    (outer : Grows next ⟨t.search.finish n, t.stack, t.components⟩ (min low least) ns u
      low' higher) :
    Grows next s low (n :: ns) u low' (higher ++ (above ++ [n])) := by
  have split := inner.split_fresh
  have mem : ∀ {k}, k ∈ s.stack → k ∈ t.stack := fun hk => split ▸ List.mem_append_right _ hk
  have height : ∀ {k}, k ∈ s.stack → t.height k = s.height k := fun hk => height_append split hk
  have more : s.search.discovered ⊆ t.search.discovered :=
    fun m hm => visits.subset (List.mem_cons_of_mem n hm)
  have le := outer.le
  refine {
    stack := ?stack
    new :=
      List.forall_mem_append.2 ⟨fun m hm seen => outer.new m hm (more seen), inner.new_fresh fresh⟩
    reached := ?reached
    closed :=
      List.forall_mem_append.2
        ⟨outer.closed, fun m hm k edge => later (inner.closed_fresh visits m hm edge)⟩
    le := Nat.le_trans le (Nat.min_le_left _ _)
    least := ?least
    attained := ?attained }
  case stack => rw [outer.stack, List.append_assoc, ← split]
  case reached =>
    refine List.forall_mem_append.2 ⟨fun _ => outer.reached_cons, fun m hm => ?_⟩
    exact ⟨n, List.mem_cons_self, inner.reached_fresh m hm⟩
  case least =>
    intro k hk edge
    have outside : k ∈ ns ∨ (∃ m ∈ higher, k ∈ next m) → low' ≤ s.height k := fun edge =>
      height hk ▸ outer.least k (mem hk) edge
    obtain here | ⟨m, hm, edge⟩ := edge
    · obtain rfl | here := List.mem_cons.1 here
      · exact absurd (known hk) fresh
      · exact outside (.inl here)
    · obtain hm | hm := List.mem_append.1 hm
      · exact outside (.inr ⟨m, hm, edge⟩)
      · have low_le := inner.least_fresh hk hm edge
        omega
  case attained =>
    intro lt
    by_cases lower : low' < min low least
    · obtain ⟨k, -, eq, edge⟩ := outer.attained_cons (n := n) lower
      have hk : k ∈ s.stack := mem_of_height_lt split (by change t.height k = low' at eq; omega)
      refine ⟨k, hk, (height hk).symm.trans eq, ?_⟩
      exact edge.imp_right fun ⟨m, hm, edge⟩ => ⟨m, List.mem_append_left _ hm, edge⟩
    · obtain ⟨k, hk, eq, m, hm, edge⟩ := inner.attained_fresh (by omega)
      exact ⟨k, hk, by omega, .inr ⟨m, List.mem_append_right _ hm, edge⟩⟩

theorem ripe (sound : Sound next s) (high : ¬least < s.stack.length) :
    Ripe next t above n s.stack where
  stack := inner.stack
  opened := visits.open_self fresh sound.orderly
  ended m hm opened := inner.new m hm (visits.open_iff.1 opened).1
  reached m hm := inner.reached_fresh m (List.mem_append_left _ hm)
  closed := inner.closed_fresh visits
  own m hm k edge hk := by
    have low_le := inner.least_fresh hk hm edge
    have lt := height_lt hk
    omega

theorem exists_cycle (sound : Sound next s) (path : ∀ m, s.search.Open m → Search.Reaches next m n)
    (lower : least < s.stack.length) : TransGen (fun m n => n ∈ next m) n n ∧
      ∃ k, (t.search.finish n).Open k ∧ Search.Reaches next n k := by
  obtain ⟨k, hk, -, m, hm, edge⟩ := inner.attained_fresh lower
  obtain ⟨j, opened, back⟩ := sound.reaches k hk
  have away : TransGen (fun m n => n ∈ next m) n k := .tail' (inner.reached_fresh m hm) edge
  exact ⟨away.trans_left (back.trans (path j opened)), j, (visits.open_finish_iff fresh).2 opened,
    away.to_reflTransGen.trans back⟩

theorem sound_finish (sound : Sound next s) (sound' : Sound next t)
    (path : ∀ m, s.search.Open m → Search.Reaches next m n) :
    Sound next (t.finish n s.stack.length least) := by
  by_cases lower : least < s.stack.length
  · obtain ⟨cycle, k, opened, away⟩ := inner.exists_cycle fresh visits sound path lower
    rw [finish_keep lower]
    exact sound'.keep (visits.open_self fresh sound.orderly) cycle away opened
  · rw [finish_emit inner.stack lower]
    refine sound'.emit (inner.ripe fresh visits sound lower) fun m hm => ?_
    obtain ⟨k, opened, path⟩ := sound.reaches m hm
    exact ⟨k, (visits.open_finish_iff fresh).2 opened, path⟩

theorem cons (known : s.stack ⊆ s.search.discovered) (bound : low ≤ s.stack.length)
    (later : t.search.discovered ⊆ u.search.discovered)
    (outer : Grows next (t.finish n s.stack.length least) (min low least) ns u low' higher) :
    ∃ above, Grows next s low (n :: ns) u low' above := by
  by_cases lower : least < s.stack.length
  · rw [finish_keep lower] at outer
    exact ⟨_, inner.keep fresh visits known bound later outer⟩
  · rw [finish_emit inner.stack lower] at outer
    have more : s.search.discovered ⊆ t.search.discovered :=
      fun m hm => visits.subset (List.mem_cons_of_mem n hm)
    exact ⟨higher, .emit (fun mem => fresh (known mem)) more (by omega) outer⟩

end Fresh

end Grows

namespace Gathers

theorem visits (h : Gathers next s low ns t low') : s.search.Visits next ns t.search := by
  induction h with
  | done => exact .done
  | known hn _ ih => exact .known hn ih
  | fresh hn _ _ ih ih' =>
    rw [search_finish] at ih'
    exact .fresh hn ih ih'

theorem sound_grows (h : Gathers next s low ns t low') (sound : Sound next s)
    (bound : low ≤ s.stack.length)
    (path : ∀ m, s.search.Open m → ∀ n ∈ ns, Search.Reaches next m n) :
    Sound next t ∧ ∃ above, Grows next s low ns t low' above := by
  induction h with
  | done => exact ⟨sound, [], .done⟩
  | @known s t low low' n ns hn _ ih =>
    obtain ⟨sound', above, grows⟩ :=
      ih sound (Nat.le_trans (Nat.min_le_left _ _) bound) fun m hm k hk =>
        path m hm k (List.mem_cons_of_mem n hk)
    exact ⟨sound', above, grows.known bound⟩
  | @fresh s t u low least low' n ns hn inner outer ih ih' =>
    have inside : ∀ m, (s.discover n).search.Open m → ∀ k ∈ next n, Search.Reaches next m k := by
      intro m opened k edge
      by_cases same : m = n
      · exact same ▸ .single edge
      · exact (path m ((Search.open_discover hn).1 ⟨opened, same⟩) n List.mem_cons_self).tail edge
    obtain ⟨sound', above, grows⟩ := ih (sound.discover hn) (Nat.le_succ _) inside
    have visits := inner.visits
    have finished :=
      grows.sound_finish hn visits sound sound' fun m hm => path m hm n List.mem_cons_self
    have room : min low least ≤ (t.finish n s.stack.length least).stack.length :=
      Nat.le_trans (Nat.min_le_left _ _) (Nat.le_trans bound (length_le_finish grows.stack))
    obtain ⟨sound'', higher, grows'⟩ := ih' finished room fun m hm k hk => by
      rw [search_finish, visits.open_finish_iff hn] at hm
      exact path m hm k (List.mem_cons_of_mem n hk)
    have later := outer.visits.subset
    rw [search_finish] at later
    exact ⟨sound'',
      grows.cons hn visits (fun m hm => (sound.discovered m).2 (.inl hm)) bound later grows'⟩

end Gathers

theorem exists_gathers {a b : Search α} (h : a.Visits next ns b) (same : s.search = a) (low : Nat) :
    ∃ t low', Gathers next s low ns t low' ∧ t.search = b := by
  induction h generalizing s low with
  | done => exact ⟨s, low, .done, same⟩
  | @known a b n ns hn _ ih =>
    obtain ⟨t, low', gathers, eq⟩ := ih same (min low (s.height n))
    exact ⟨t, low', .known (same ▸ hn) gathers, eq⟩
  | @fresh a b c n ns hn _ _ ih ih' =>
    obtain ⟨t, least, inner, eq⟩ := ih (s := s.discover n) (by rw [discover, same]) s.stack.length
    obtain ⟨u, low', outer, eq'⟩ :=
      ih' (s := t.finish n s.stack.length least) (by rw [search_finish, eq]) (min low least)
    exact ⟨u, low', .fresh (same ▸ hn) inner outer, eq'⟩

end Gathering

end GameBalance
