import GameBalance.Proofs.Formula.Names
import GameBalance.Proofs.Graph.Order
import GameBalance.Stat.Preview
import Mathlib.Data.List.Nodup
import Mathlib.Data.Set.List

namespace GameBalance

open Formula Text Relation

namespace Digraph

variable {α : Type} [DecidableEq α] {g : Digraph α}

theorem nodes_foldl_addEdge (es : List (α × α)) : (es.foldl addEdge g).nodes = g.nodes := by
  induction es generalizing g with
  | nil => rfl
  | cons e es ih =>
    rw [List.foldl_cons, ih, addEdge]
    split <;> rfl

theorem mem_foldl_addEdge {e : α × α} (es : List (α × α)) :
    e ∈ (es.foldl addEdge g).edges ↔ e ∈ g.edges ∨ e ∈ es := by
  induction es generalizing g with
  | nil => simp
  | cons first es ih =>
    have added : e ∈ (g.addEdge first).edges ↔ e ∈ g.edges ∨ e = first := by
      rw [addEdge]
      split
      · rename_i there
        refine ⟨.inl, ?_⟩
        rintro (old | rfl)
        · exact old
        · exact there
      · simp
    rw [List.foldl_cons, ih, added, or_assoc, List.mem_cons]

end Digraph

namespace DependencyGraph

theorem lookup_addSpelling (spellings : List (String × String)) (name key : String) :
    (addSpelling spellings name).lookup key =
      (spellings.lookup key).or (if lowercase name = key then some name else none) := by
  rw [addSpelling]
  split
  · rename_i there
    split
    · rename_i eq
      subst eq
      have bound : (spellings.lookup (lowercase name)).isSome := by
        simpa using there
      obtain ⟨spelling, found⟩ := Option.isSome_iff_exists.1 bound
      rw [found, Option.some_or]
    · rw [Option.or_none]
  · rw [List.lookup_append, List.lookup_singleton]
    simp only [beq_iff_eq, eq_comm (a := key)]

theorem lookup_foldl_addSpelling (spellings : List (String × String)) (names : List String)
    (key : String) :
    (names.foldl addSpelling spellings).lookup key =
      (spellings.lookup key).or (names.find? (lowercase · = key)) := by
  induction names generalizing spellings with
  | nil => rw [List.foldl_nil, List.find?_nil, Option.or_none]
  | cons name names ih =>
    rw [List.foldl_cons, ih, lookup_addSpelling, Option.or_assoc, List.find?_cons]
    by_cases eq : lowercase name = key
    · simp [eq]
    · simp [eq]

variable {stats : List Stat}

theorem lookup_spellings (stats : List Stat) (key : String) :
    (ofStats stats).spellings.lookup key = (stats.map Stat.name).find? (lowercase · = key) := by
  rw [ofStats, lookup_foldl_addSpelling, List.lookup_nil, Option.none_or]

theorem mem_nodes {key : String} :
    key ∈ (ofStats stats).graph.nodes ↔ ∃ s ∈ stats, lowercase s.name = key := by
  have nodes : (ofStats stats).graph.nodes = (ofStats stats).spellings.map Prod.fst :=
    Digraph.nodes_foldl_addEdge _
  have bound : key ∈ (ofStats stats).spellings.map Prod.fst ↔
      ((ofStats stats).spellings.lookup key).isSome := by
    simp
  rw [nodes, bound, lookup_spellings]
  simp

theorem mem_edgesOf {nodes : List String} {t : Stat} {source target : String} :
    (source, target) ∈ edgesOf nodes t ↔ source ∈ nodes ∧ lowercase t.name = target ∧
      ∃ f, t.formula? = some f ∧ ∃ n ∈ freeNames f, lowercase n = source := by
  rw [edgesOf]
  split
  · rename_i none
    simp [none]
  · rename_i f some
    simp only [List.mem_map, List.mem_filter, List.contains_iff_mem, Prod.mk.injEq, some,
      Option.some.injEq]
    constructor
    · rintro ⟨_, ⟨⟨n, hn, rfl⟩, node⟩, rfl, eq⟩
      exact ⟨node, eq, f, rfl, n, hn, rfl⟩
    · rintro ⟨node, eq, _, rfl, n, hn, rfl⟩
      exact ⟨_, ⟨⟨n, hn, rfl⟩, node⟩, rfl, eq⟩

theorem edge_iff {source target : String} : (ofStats stats).graph.Edge source target ↔
    source ∈ (ofStats stats).graph.nodes ∧
      ∃ t ∈ stats, lowercase t.name = target ∧ ∃ f, t.formula? = some f ∧
      ∃ n ∈ freeNames f, lowercase n = source := by
  have edges : (ofStats stats).graph.Edge source target ↔
      ∃ t ∈ stats, (source, target) ∈ edgesOf (ofStats stats).graph.nodes t := by
    have nodes : (ofStats stats).graph.nodes =
        ((stats.map Stat.name).foldl addSpelling []).map Prod.fst :=
      Digraph.nodes_foldl_addEdge _
    rw [nodes, Digraph.Edge, ofStats, Digraph.mem_foldl_addEdge, List.mem_flatMap]
    exact or_iff_right List.not_mem_nil
  rw [edges]
  constructor
  · rintro ⟨t, ht, edge⟩
    obtain ⟨node, eq, reads⟩ := mem_edgesOf.1 edge
    exact ⟨node, t, ht, eq, reads⟩
  · rintro ⟨node, t, ht, eq, reads⟩
    exact ⟨t, ht, mem_edgesOf.2 ⟨node, eq, reads⟩⟩

theorem closed (stats : List Stat) : (ofStats stats).graph.Closed := by
  intro source target edge
  obtain ⟨node, t, ht, eq, -⟩ := edge_iff.1 edge
  exact ⟨node, mem_nodes.2 ⟨t, ht, eq⟩⟩

end DependencyGraph

namespace Stat

def Feeds (stats : List Stat) (s t : Stat) : Prop :=
  s ∈ stats ∧ t ∈ s.dependents stats

/-- Whether a cycle of dependencies leads to a stat, which may lie on it. -/
def Blocked (stats : List Stat) (t : Stat) : Prop :=
  ∃ s, TransGen (Feeds stats) s s ∧ ReflTransGen (Feeds stats) s t

structure Distinct (stats : List Stat) : Prop where
  ascii : ∀ s ∈ stats, ∀ c ∈ s.name.toList, c.toNat < 128
  apart : stats.Pairwise fun s t => sameIgnoringCase s.name t.name = false

/--
Stats whose names are names of variables, told apart whatever their case, with formulas in ASCII.
-/
structure Catalogue (stats : List Stat) : Prop where
  names : ∀ s ∈ stats, IsName s.name.toList
  noBuiltin : ∀ s ∈ stats, Builtin.isName s.name = false
  noReserved : ∀ s ∈ stats, ∀ name ∈ reservedNames, sameIgnoringCase s.name name = false
  distinct : stats.Pairwise fun s t => sameIgnoringCase s.name t.name = false
  ascii : ∀ s ∈ stats, ∀ f, s.formula? = some f → ∀ c ∈ f.toList, c.toNat < 128

/-- Each stat that no cycle leads to, once and after all that feed it. -/
structure Schedule (stats schedule : List Stat) : Prop where
  nodup : schedule.Nodup
  mem_iff : ∀ s, s ∈ schedule ↔ s ∈ stats ∧ ¬Blocked stats s
  sourcesFirst : ∀ before t after, schedule = before ++ t :: after →
    ∀ s, Feeds stats s t → s ∈ before

def node (s : Stat) : String :=
  lowercase s.name

variable {stats : List Stat} {s t : Stat}

theorem feeds_iff : Feeds stats s t ↔ s ∈ stats ∧ t ∈ stats ∧
    ∃ f, t.formula? = some f ∧ ∃ n ∈ freeNames f, sameIgnoringCase n s.name = true := by
  simp only [Feeds, dependents, List.mem_filter, Option.any_eq_true, List.any_eq_true]

theorem isBlankText_of_formula? (formula : s.formula? = some f) : isBlankText f = false := by
  simpa using (Option.filter_eq_some_iff.1 formula).2

theorem Blocked.exists_feeds (h : Blocked stats t) : ∃ s, Feeds stats s t ∧ Blocked stats s := by
  obtain ⟨u, cycle, path⟩ := h
  obtain ⟨s, toward, feeds⟩ := TransGen.tail'_iff.1 (cycle.trans_left path)
  exact ⟨s, feeds, u, cycle, toward⟩

theorem Blocked.isDerived (h : Blocked stats t) : t.isDerived = true := by
  obtain ⟨s, feeds, -⟩ := h.exists_feeds
  obtain ⟨-, -, f, formula, -⟩ := feeds_iff.1 feeds
  rw [Stat.isDerived, formula]
  rfl

theorem exists_map_node (all : ∀ n ∈ nodes, ∃ s ∈ stats, s.node = n) :
    ∃ l ⊆ stats, l.map node = nodes := by
  have lifted : nodes ∈ Set.range (List.map fun s : { s // s ∈ stats } => s.1.node) := by
    rw [Set.range_list_map]
    intro n hn
    obtain ⟨s, hs, eq⟩ := all n hn
    exact ⟨⟨s, hs⟩, eq⟩
  obtain ⟨l, rfl⟩ := lifted
  refine ⟨l.map Subtype.val, fun s hs => ?_, List.map_map⟩
  obtain ⟨t, -, rfl⟩ := List.mem_map.1 hs
  exact t.2

namespace Distinct

variable (h : Distinct stats)

include h

theorem eq_of_same (hs : s ∈ stats) (ht : t ∈ stats)
    (same : sameIgnoringCase s.name t.name = true) : s = t := by
  have : Std.Symm fun s t : Stat => sameIgnoringCase s.name t.name = false :=
    ⟨fun s t other => Bool.eq_false_iff.2 fun same => Bool.eq_false_iff.1 other
      (decide_eq_true (of_decide_eq_true same).symm)⟩
  refine Decidable.byContradiction fun ne => ?_
  exact Bool.eq_false_iff.1 (h.apart.forall hs ht ne) same

theorem eq_of_name (hs : s ∈ stats) (ht : t ∈ stats) (eq : s.name = t.name) : s = t :=
  h.eq_of_same hs ht (by rw [eq]; exact decide_eq_true rfl)

theorem find?_name (hs : s ∈ stats) : stats.find? (·.name = s.name) = some s := by
  cases found : stats.find? (·.name = s.name) with
  | none => exact absurd (decide_eq_true rfl) (List.find?_eq_none.1 found s hs)
  | some t =>
    have eq := List.find?_some found
    rw [h.eq_of_name (List.mem_of_find?_eq_some found) hs (of_decide_eq_true eq)]

theorem nodup_names : (stats.map Stat.name).Nodup :=
  h.apart.map Stat.name fun s t other eq =>
    Bool.eq_false_iff.1 other (by rw [eq]; exact decide_eq_true rfl)

theorem eq_of_node (hs : s ∈ stats) (ht : t ∈ stats) (eq : s.node = t.node) : s = t :=
  h.eq_of_same hs ht ((sameIgnoringCase_iff (h.ascii s hs) (h.ascii t ht)).2 eq)

theorem spelling_node (hs : s ∈ stats) :
    (DependencyGraph.ofStats stats).spelling s.node = s.name := by
  rw [DependencyGraph.spelling, DependencyGraph.lookup_spellings, List.find?_map]
  cases found : stats.find? ((lowercase · = s.node) ∘ name) with
  | none => exact absurd (List.find?_eq_none.1 found s hs) (by simp [node])
  | some t =>
    have eq := List.find?_some found
    have same : t = s := h.eq_of_node (List.mem_of_find?_eq_some found) hs (of_decide_eq_true eq)
    rw [same]
    rfl

theorem edge_iff (hs : s ∈ stats) (ht : t ∈ stats) :
    (DependencyGraph.ofStats stats).graph.Edge s.node t.node ↔ Feeds stats s t := by
  rw [DependencyGraph.edge_iff, feeds_iff]
  have name : ∀ {f n}, n ∈ freeNames f →
      (lowercase n = s.node ↔ sameIgnoringCase n s.name = true) := fun hn =>
    (sameIgnoringCase_iff (isName_of_mem_freeNames hn).ascii (h.ascii s hs)).symm
  constructor
  · rintro ⟨-, t', ht', eq, f, formula, n, hn, same⟩
    obtain rfl := h.eq_of_node ht' ht eq
    exact ⟨hs, ht, f, formula, n, hn, (name hn).1 same⟩
  · rintro ⟨-, -, f, formula, n, hn, same⟩
    exact ⟨DependencyGraph.mem_nodes.2 ⟨s, hs, rfl⟩, t, ht, rfl, f, formula, n, hn,
      (name hn).2 same⟩

theorem exists_of_edge (hs : s ∈ stats)
    (edge : (DependencyGraph.ofStats stats).graph.Edge s.node target) :
    ∃ t ∈ stats, t.node = target ∧ Feeds stats s t := by
  obtain ⟨t, ht, rfl⟩ := DependencyGraph.mem_nodes.1 (DependencyGraph.closed stats _ _ edge).2
  exact ⟨t, ht, rfl, (h.edge_iff hs ht).1 edge⟩

theorem reflTransGen_iff (hs : s ∈ stats) (ht : t ∈ stats) :
    ReflTransGen (DependencyGraph.ofStats stats).graph.Edge s.node t.node ↔
    ReflTransGen (Feeds stats) s t := by
  constructor
  · intro path
    have all : ∀ {target}, ReflTransGen (DependencyGraph.ofStats stats).graph.Edge s.node target →
        ∃ t ∈ stats, t.node = target ∧ ReflTransGen (Feeds stats) s t := by
      intro target path
      induction path with
      | refl => exact ⟨s, hs, rfl, .refl⟩
      | tail _ edge ih =>
        obtain ⟨u, hu, rfl, path⟩ := ih
        obtain ⟨t, ht, rfl, feeds⟩ := h.exists_of_edge hu edge
        exact ⟨t, ht, rfl, path.tail feeds⟩
    obtain ⟨t', ht', eq, path⟩ := all path
    rwa [h.eq_of_node ht' ht eq] at path
  · refine fun path => ReflTransGen.lift node (fun s t feeds => ?_) _ _ path
    exact (h.edge_iff feeds.1 (feeds_iff.1 feeds).2.1).2 feeds

theorem transGen_iff (hs : s ∈ stats) (ht : t ∈ stats) :
    TransGen (DependencyGraph.ofStats stats).graph.Edge s.node t.node ↔
    TransGen (Feeds stats) s t := by
  rw [TransGen.head'_iff, TransGen.head'_iff]
  constructor
  · rintro ⟨target, edge, path⟩
    obtain ⟨u, hu, rfl, feeds⟩ := h.exists_of_edge hs edge
    exact ⟨u, feeds, (h.reflTransGen_iff hu ht).1 path⟩
  · rintro ⟨u, feeds, path⟩
    have hu := (feeds_iff.1 feeds).2.1
    exact ⟨u.node, (h.edge_iff hs hu).2 feeds, (h.reflTransGen_iff hu ht).2 path⟩

theorem blocked_iff (ht : t ∈ stats) :
    (DependencyGraph.ofStats stats).graph.Blocked t.node ↔ Blocked stats t := by
  constructor
  · rintro ⟨source, cycle, path⟩
    obtain ⟨_, edge, -⟩ := TransGen.head'_iff.1 cycle
    obtain ⟨s, hs, rfl⟩ := DependencyGraph.mem_nodes.1 (DependencyGraph.closed stats _ _ edge).1
    exact ⟨s, (h.transGen_iff hs hs).1 cycle, (h.reflTransGen_iff hs ht).1 path⟩
  · rintro ⟨s, cycle, path⟩
    obtain ⟨_, feeds, -⟩ := TransGen.head'_iff.1 cycle
    exact ⟨s.node, (h.transGen_iff feeds.1 feeds.1).2 cycle, (h.reflTransGen_iff feeds.1 ht).2 path⟩

theorem exists_schedule (order : (DependencyGraph.ofStats stats).graph.Schedules nodes) :
    ∃ schedule, Schedule stats schedule ∧
      nodes.map (DependencyGraph.ofStats stats).spelling = schedule.map Stat.name := by
  obtain ⟨schedule, mem, rfl⟩ :=
    exists_map_node fun n hn => DependencyGraph.mem_nodes.1 ((order.mem_iff n).1 hn).1
  have mem_map : ∀ {s} {l : List Stat}, s ∈ stats → l ⊆ stats → s.node ∈ l.map node → s ∈ l := by
    intro s l hs all hn
    obtain ⟨t, ht, eq⟩ := List.mem_map.1 hn
    rwa [h.eq_of_node (all ht) hs eq] at ht
  refine ⟨schedule, ⟨List.Nodup.of_map node order.nodup, fun s => ?_, ?_⟩, ?_⟩
  · constructor
    · intro hs
      have listed := ((order.mem_iff _).1 (List.mem_map_of_mem hs)).2
      exact ⟨mem hs, fun blocked => listed ((h.blocked_iff (mem hs)).2 blocked)⟩
    · rintro ⟨hs, free⟩
      refine mem_map hs mem
        ((order.mem_iff _).2 ⟨DependencyGraph.mem_nodes.2 ⟨s, hs, rfl⟩, fun blocked => free ?_⟩)
      exact (h.blocked_iff hs).1 blocked
  · rintro before t after rfl s feeds
    have ht : t ∈ stats := (feeds_iff.1 feeds).2.1
    have source := order.sourcesFirst (before.map node) t.node (after.map node) (by simp) s.node
      ((h.edge_iff feeds.1 ht).2 feeds)
    exact mem_map feeds.1 (List.append_subset.1 mem).1 source
  · rw [List.map_map]
    exact List.map_congr_left fun s hs => h.spelling_node (mem hs)

end Distinct

namespace Catalogue

variable (h : Catalogue stats)

include h

theorem toDistinct : Distinct stats :=
  ⟨fun s hs => (h.names s hs).ascii, h.distinct⟩

theorem eq_of_same (hs : s ∈ stats) (ht : t ∈ stats)
    (same : sameIgnoringCase s.name t.name = true) : s = t :=
  h.toDistinct.eq_of_same hs ht same

theorem eq_of_name (hs : s ∈ stats) (ht : t ∈ stats) (eq : s.name = t.name) : s = t :=
  h.toDistinct.eq_of_name hs ht eq

theorem nodup_names : (stats.map Stat.name).Nodup :=
  h.toDistinct.nodup_names

end Catalogue

theorem Catalogue.of_all (names : ∀ s ∈ stats, IsName s.name.toList)
    (noBuiltin : ∀ s ∈ stats, Builtin.isName s.name = false)
    (noReserved : ∀ s ∈ stats, ∀ name ∈ reservedNames, sameIgnoringCase s.name name = false)
    (distinct : stats.Pairwise fun s t => sameIgnoringCase s.name t.name = false)
    (ascii : ∀ s ∈ stats, ∀ f ∈ s.formula, f.toList.all (·.toNat < 128) = true) :
    Catalogue stats where
  names := names
  noBuiltin := noBuiltin
  noReserved := noReserved
  distinct := distinct
  ascii s hs f formula c hc :=
    of_decide_eq_true
      (List.all_eq_true.1 (ascii s hs f (Option.filter_eq_some_iff.1 formula).1) c hc)

theorem catalogue_starters : Catalogue starters :=
  .of_all (by decide) (by decide) (by decide) (by decide) (by decide)

end Stat

end GameBalance
