import GameBalance.Proofs.Graph.Components
import GameBalance.Proofs.Graph.Stack
import GameBalance.Proofs.Stat.Dependency

namespace GameBalance.DependencyGraph

open Formula Text Relation

/--
Whether stats with these names in lower case are there, and a formula of the second names the first.
-/
def References (stats : List Stat) (source target : String) : Prop :=
  (∃ s ∈ stats, lowercase s.name = source) ∧
    ∃ t ∈ stats, lowercase t.name = target ∧ ∃ f, t.formula? = some f ∧
    ∃ n ∈ freeNames f, lowercase n = source

def firstSpelling? (stats : List Stat) (key : String) : Option String :=
  (stats.map Stat.name).find? (lowercase · = key)

/-- Every name once, as it is spelled first, after the names that it references. -/
structure Resolves (stats : List Stat) (order : List String) : Prop where
  nodup : order.Nodup
  mem_iff : ∀ name, name ∈ order ↔ ∃ key, firstSpelling? stats key = some name
  sourcesFirst : ∀ source target name name', References stats source target →
    firstSpelling? stats source = some name →
    firstSpelling? stats target = some name' → [name, name'].Sublist order

/-- Whether a name references itself, directly or through others, or one that does. -/
def Blocked (stats : List Stat) (key : String) : Prop :=
  ∃ m, TransGen (References stats) m m ∧ ReflTransGen (References stats) m key

structure Computes (stats : List Stat) (order : List String) : Prop where
  nodup : order.Nodup
  mem_iff : ∀ name, name ∈ order ↔ ∃ key, firstSpelling? stats key = some name ∧ ¬Blocked stats key
  sourcesFirst : ∀ source target name name', References stats source target →
    firstSpelling? stats source = some name →
    firstSpelling? stats target = some name' → name' ∈ order → name ∈ order ∧
    [name, name'].Sublist order

variable {stats : List Stat} {nodes : List String} {key name source target name' : String}

theorem edge_eq_references (stats : List Stat) : (ofStats stats).graph.Edge = References stats := by
  funext source target
  exact propext (edge_iff.trans (and_congr_left fun _ => mem_nodes))

theorem lowercase_firstSpelling (h : firstSpelling? stats key = some name) :
    lowercase name = key := by
  have spelled := List.find?_some h
  exact of_decide_eq_true spelled

theorem isSome_firstSpelling :
    (firstSpelling? stats key).isSome ↔ key ∈ (ofStats stats).graph.nodes := by
  rw [mem_nodes, firstSpelling?]
  simp

theorem spelling_eq (h : firstSpelling? stats key = some name) :
    (ofStats stats).spelling key = name := by
  rw [spelling, lookup_spellings]
  exact congrArg (Option.getD · key) h

theorem firstSpelling_spelling (h : key ∈ (ofStats stats).graph.nodes) :
    firstSpelling? stats key = some ((ofStats stats).spelling key) := by
  obtain ⟨name, found⟩ := Option.isSome_iff_exists.1 (isSome_firstSpelling.2 h)
  rw [found, spelling_eq found]

theorem eq_of_firstSpelling (h : firstSpelling? stats key = some name)
    (h' : firstSpelling? stats source = some name) :
    key = source := by
  rw [← lowercase_firstSpelling h, ← lowercase_firstSpelling h']

section Names

variable (known : nodes ⊆ (ofStats stats).graph.nodes)

include known

theorem nodup_map_spelling (nodup : nodes.Nodup) : (nodes.map (ofStats stats).spelling).Nodup := by
  refine nodup.map_on fun m hm n hn eq => eq_of_firstSpelling (firstSpelling_spelling (known hm)) ?_
  rw [eq]
  exact firstSpelling_spelling (known hn)

theorem mem_map_spelling :
    name ∈ nodes.map (ofStats stats).spelling ↔
    ∃ key ∈ nodes, firstSpelling? stats key = some name := by
  rw [List.mem_map]
  constructor
  · rintro ⟨key, hk, rfl⟩
    exact ⟨key, hk, firstSpelling_spelling (known hk)⟩
  · rintro ⟨key, hk, found⟩
    exact ⟨key, hk, spelling_eq found⟩

end Names

theorem sublist_map_spelling (first : (ofStats stats).graph.SourcesFirst nodes)
    (references : References stats source target) (found : firstSpelling? stats source = some name)
    (found' : firstSpelling? stats target = some name') (listed : target ∈ nodes) :
    [name, name'].Sublist (nodes.map (ofStats stats).spelling) := by
  obtain ⟨before, after, rfl⟩ := List.append_of_mem listed
  have earlier : source ∈ before :=
    first before target after rfl source (edge_eq_references stats ▸ references)
  rw [← spelling_eq found, ← spelling_eq found']
  exact (List.singleton_sublist.2 earlier).append
    (List.singleton_sublist.2 List.mem_cons_self) |>.map _

theorem resolves_map_spelling (nodup : nodes.Nodup)
    (all : ∀ n, n ∈ nodes ↔ n ∈ (ofStats stats).graph.nodes)
    (first : (ofStats stats).graph.SourcesFirst nodes) :
    Resolves stats (nodes.map (ofStats stats).spelling) where
  nodup := nodup_map_spelling (fun n => (all n).1) nodup
  mem_iff name := by
    rw [mem_map_spelling fun n => (all n).1]
    refine exists_congr fun key => and_iff_right_of_imp fun found => ?_
    exact (all key).2 (isSome_firstSpelling.1 (found ▸ rfl))
  sourcesFirst source target name name' references found found' :=
    sublist_map_spelling first references found found'
      ((all target).2 (isSome_firstSpelling.1 (found' ▸ rfl)))

/--
Stats have an order exactly if no name references itself, directly or through others. The order has
every name once, in its first spelling and after those it references, and where there is none the
name given instead does reference itself. Both are what the two loops over a stack answer.
-/
theorem resolutionOrder_resolves (stats : List Stat) :
    ((∃ order, (ofStats stats).resolutionOrder = .ok order) ↔
      ∀ key, ¬TransGen (References stats) key key) ∧
      (∀ order, (ofStats stats).resolutionOrder = .ok order → Resolves stats order) ∧
      (∀ name, (ofStats stats).resolutionOrder = .error name →
        ∃ key, firstSpelling? stats key = some name ∧ TransGen (References stats) key key) ∧
      ∀ answer, (ofStats stats).graph.Sorts answer ↔
      answer = (ofStats stats).graph.topologicalOrder := by
  have closed := closed stats
  rw [← edge_eq_references, ← Digraph.topologicalOrder_ok_iff closed, resolutionOrder]
  refine and_assoc.1 (and_assoc.1 ⟨?_, fun answer => Digraph.sorts_iff closed⟩)
  cases sorted : (ofStats stats).graph.topologicalOrder with
  | ok nodes =>
    refine ⟨⟨⟨fun _ => ⟨nodes, rfl⟩, fun _ => ⟨_, rfl⟩⟩, ?_⟩, nofun⟩
    rintro _ ⟨⟩
    exact resolves_map_spelling (Digraph.nodup_topologicalOrder closed sorted)
      (fun n => Digraph.mem_topologicalOrder closed sorted)
      (Digraph.topologicalOrder_sourcesFirst sorted)
  | error node =>
    refine ⟨⟨⟨nofun, nofun⟩, nofun⟩, ?_⟩
    rintro _ ⟨⟩
    have cycle := Digraph.cycle_of_topologicalOrder closed sorted
    obtain ⟨_, edge, -⟩ := TransGen.head'_iff.1 cycle
    exact ⟨node, firstSpelling_spelling (closed _ _ edge).1, cycle⟩

theorem mem_acyclicOrder_graph :
    key ∈ (ofStats stats).graph.acyclicOrder ↔ key ∈ (ofStats stats).graph.nodes ∧
    ¬Blocked stats key := by
  rw [Digraph.mem_acyclicOrder (closed stats), Digraph.Blocked, edge_eq_references, Blocked]

theorem computes_acyclicOrder (stats : List Stat) :
    Computes stats (ofStats stats).acyclicOrder := by
  have known : (ofStats stats).graph.acyclicOrder ⊆ (ofStats stats).graph.nodes :=
    fun _ listed => (mem_acyclicOrder_graph.1 listed).1
  refine ⟨nodup_map_spelling known (Digraph.nodup_acyclicOrder (closed stats)), fun name => ?_, ?_⟩
  · rw [acyclicOrder, mem_map_spelling known]
    refine exists_congr fun key => ?_
    rw [mem_acyclicOrder_graph, and_comm, ← and_assoc]
    refine and_congr_left fun _ => and_iff_left_of_imp fun found => ?_
    exact isSome_firstSpelling.1 (Option.isSome_of_eq_some found)
  · intro source target name name' references found found' listed
    obtain ⟨key, hk, found''⟩ := (mem_map_spelling known).1 listed
    obtain rfl : target = key := eq_of_firstSpelling found' found''
    have sublist := sublist_map_spelling (Digraph.acyclicOrder_sourcesFirst (closed stats))
        references found found' hk
    exact ⟨sublist.subset List.mem_cons_self, sublist⟩

theorem resolutionOrder_ok_iff (stats : List Stat) :
    (∃ order, (ofStats stats).resolutionOrder = .ok order) ↔
    ∀ key, ¬TransGen (References stats) key key := by
  rw [← edge_eq_references, ← Digraph.topologicalOrder_ok_iff (closed stats), resolutionOrder]
  cases (ofStats stats).graph.topologicalOrder with
  | ok nodes => exact ⟨fun _ => ⟨nodes, rfl⟩, fun _ => ⟨_, rfl⟩⟩
  | error node => exact ⟨nofun, nofun⟩

theorem acyclicOrder_full_iff (stats : List Stat) :
    (∀ key name, firstSpelling? stats key = some name → name ∈ (ofStats stats).acyclicOrder) ↔
      ∃ order, (ofStats stats).resolutionOrder = .ok order := by
  rw [resolutionOrder_ok_iff]
  constructor
  · intro full key cycle
    obtain ⟨_, edge, -⟩ := TransGen.head'_iff.1 cycle
    obtain ⟨name, found⟩ := Option.isSome_iff_exists.1 (isSome_firstSpelling.2 (mem_nodes.2 edge.1))
    obtain ⟨key', found', free⟩ :=
      ((computes_acyclicOrder stats).mem_iff name).1 (full key name found)
    obtain rfl := eq_of_firstSpelling found found'
    exact free ⟨key, cycle, .refl⟩
  · intro acyclic key name found
    exact ((computes_acyclicOrder stats).mem_iff name).2
      ⟨key, found, fun ⟨m, cycle, _⟩ => acyclic m cycle⟩

/--
The acyclic order lists exactly the names that neither reference themselves nor depend on one that
does, each once, in its first spelling and after those it references. It has all names exactly if
there is an order of all stats, and it is what a search for the components of the graph leaves.
-/
theorem acyclicOrder_computes (stats : List Stat) :
    Computes stats (ofStats stats).acyclicOrder ∧
      ((∀ key name, firstSpelling? stats key = some name → name ∈ (ofStats stats).acyclicOrder) ↔
        ∃ order, (ofStats stats).resolutionOrder = .ok order) ∧
      ∃ t, (ofStats stats).graph.Gathered t ∧ ∀ t', (ofStats stats).graph.Gathered t' →
        (ofStats stats).acyclicOrder =
          ((ofStats stats).graph.condensed t'.components).map (ofStats stats).spelling := by
  obtain ⟨t, gathered⟩ := Digraph.exists_gathered (closed stats)
  refine ⟨computes_acyclicOrder stats, acyclicOrder_full_iff stats, t, gathered,
    fun t' gathered' => ?_⟩
  rw [gathered'.condensed_eq (closed stats), acyclicOrder]

end GameBalance.DependencyGraph
