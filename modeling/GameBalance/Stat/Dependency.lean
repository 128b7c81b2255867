import GameBalance.Formula.Name
import GameBalance.Graph.Order
import GameBalance.Stat.Basic

namespace GameBalance

/-- `spellings` gives each node the first spelling of its name, in the order of the nodes. -/
structure DependencyGraph where
  spellings : List (String × String)
  graph : Digraph String

namespace DependencyGraph

def addSpelling (spellings : List (String × String)) (name : String) : List (String × String) :=
  let key := Text.lowercase name
  if spellings.any (·.1 = key) then spellings else spellings ++ [(key, name)]

def edgesOf (nodes : List String) (s : Stat) : List (String × String) :=
  match s.formula? with
  | none => []
  | some formula =>
    let target := Text.lowercase s.name
    let sources := ((Formula.freeNames formula).map Text.lowercase).filter nodes.contains
    sources.map fun source => (source, target)

def ofStats (stats : List Stat) : DependencyGraph :=
  let spellings := (stats.map Stat.name).foldl addSpelling []
  let nodes := spellings.map Prod.fst
  ⟨spellings, (stats.flatMap (edgesOf nodes)).foldl Digraph.addEdge ⟨nodes, []⟩⟩

def spelling (d : DependencyGraph) (node : String) : String :=
  (d.spellings.lookup node).getD node

def sorted (names : List String) : List String :=
  names.mergeSort fun a b => !(b < a)

def resolutionOrder (d : DependencyGraph) : Except String (List String) :=
  match d.graph.topologicalOrder with
  | .ok order => .ok (order.map d.spelling)
  | .error node => .error (d.spelling node)

def acyclicOrder (d : DependencyGraph) : List String :=
  d.graph.acyclicOrder.map d.spelling

def named (d : DependencyGraph) (name : String) (f : String → List String) : List String :=
  let node := Text.lowercase name
  if node ∈ d.graph.nodes then sorted ((f node).map d.spelling) else []

def dependenciesOf (d : DependencyGraph) (name : String) : List String :=
  d.named name d.graph.predecessors

def directDependentsOf (d : DependencyGraph) (name : String) : List String :=
  d.named name d.graph.successors

def dependentsOf (d : DependencyGraph) (name : String) : List String :=
  d.named name fun node => (d.graph.reachable [node]).filter (· ≠ node)

end DependencyGraph
end GameBalance
