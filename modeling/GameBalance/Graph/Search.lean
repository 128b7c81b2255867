import GameBalance.Graph.Basic

namespace GameBalance

structure Search (α : Type) where
  discovered : List α
  finished : List α

namespace Search

variable {α : Type} [DecidableEq α]

def empty : Search α :=
  ⟨[], []⟩

def discover (s : Search α) (n : α) : Search α :=
  { s with discovered := n :: s.discovered }

def finish (s : Search α) (n : α) : Search α :=
  { s with finished := n :: s.finished }

/--
Visits a node: unless it was discovered before, all its neighbours are visited between its discovery
and its end. A path of discoveries repeats no node, so `depth` need not exceed the number of nodes.
-/
def visit (next : α → List α) : (depth : Nat) → Search α → α → Search α
  | 0, s, _ => s
  | depth + 1, s, n =>
    if n ∈ s.discovered then s else ((next n).foldl (visit next depth) (s.discover n)).finish n

end Search

namespace Digraph

variable {α : Type} [DecidableEq α]

def search (g : Digraph α) (next : α → List α) (roots : List α) : Search α :=
  roots.foldl (Search.visit next g.nodes.length) .empty

def reachable (g : Digraph α) (roots : List α) : List α :=
  (g.search g.successors roots).discovered

end Digraph
end GameBalance
