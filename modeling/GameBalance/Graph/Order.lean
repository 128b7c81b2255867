import GameBalance.Graph.Search

/-!
Orders in which the source of every edge comes before its target.
-/

namespace GameBalance.Digraph

variable {α : Type} [DecidableEq α]

def misplaced? (g : Digraph α) (seen : List α) : (order : List α) → Option α
  | [] => none
  | n :: rest =>
    match (g.predecessors n).find? (· ∉ seen) with
    | some source => some source
    | none => misplaced? g (n :: seen) rest

/--
All nodes with the sources of edges first, or a node that lies on a cycle.
The order is the reverse of that in which a search finishes its nodes; a
node with an edge to itself is found out as soon as it is discovered.
-/
def topologicalOrder (g : Digraph α) : Except α (List α) :=
  let s := g.search g.successors g.nodes
  match s.discovered.reverse.find? fun n => n ∈ g.successors n with
  | some n => .error n
  | none =>
    match g.misplaced? [] s.finished with
    | some n => .error n
    | none => .ok s.finished

def onCycle (g : Digraph α) (n : α) : Bool :=
  n ∈ g.reachable (g.successors n)

def blocked (g : Digraph α) : List α :=
  g.reachable (g.nodes.filter g.onCycle)

def acyclicOrder (g : Digraph α) : List α :=
  let blocked := g.blocked
  (g.search (fun n => (g.successors n).reverse) g.nodes).finished.filter (· ∉ blocked)

end GameBalance.Digraph
