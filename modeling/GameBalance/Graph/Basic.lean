namespace GameBalance

structure Digraph (α : Type) where
  nodes : List α
  edges : List (α × α)

namespace Digraph

variable {α : Type} [DecidableEq α]

def addEdge (g : Digraph α) (e : α × α) : Digraph α :=
  if e ∈ g.edges then g else { g with edges := g.edges ++ [e] }

def successors (g : Digraph α) (n : α) : List α :=
  (g.edges.filter (·.1 = n)).map (·.2)

def predecessors (g : Digraph α) (n : α) : List α :=
  (g.edges.filter (·.2 = n)).map (·.1)

@[simp] theorem mem_successors {g : Digraph α} {m n : α} :
    m ∈ g.successors n ↔ (n, m) ∈ g.edges := by
  simp [successors]

@[simp] theorem mem_predecessors {g : Digraph α} {m n : α} :
    m ∈ g.predecessors n ↔ (m, n) ∈ g.edges := by
  simp [predecessors]

end Digraph
end GameBalance
