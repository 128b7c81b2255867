import GameBalance.Proofs.Stat.Run
import Mathlib.Data.List.Induction

/-!
What `resolveAll` computes. Each value is settled once, after the values it is made of, so the
values solve the equations that the formulas state, and since they are the only solution the order
of the stats does not matter.
-/

namespace GameBalance

open Formula

namespace Stat

variable {stats schedule l before after : List Stat} {level : UInt32} {values values' : Bindings}
    {s t : Stat}
  {f n : String} {x : Float}

/--
The values that the stats should have: a base stat its own, a derived one the value of its formula
under these very values, and a derived one on a cycle or downstream of one none.
-/
structure Solution (stats : List Stat) (level : UInt32) (values : Bindings) :
    Prop extends Values stats values where
  base : ∀ s ∈ stats, s.isDerived = false → (s.name, s.baseAt level) ∈ values
  blocked : ∀ s ∈ stats, s.isDerived = true → Blocked stats s → ∀ x, (s.name, x) ∉ values
  derived : ∀ s ∈ stats, ∀ f, s.formula? = some f → ¬Blocked stats s →
    ∀ x, (s.name, x) ∈ values ↔ evaluate f (s.context level values) = .ok x ∧ x.isFinite = true

def resolve (stats : List Stat) (level : UInt32) (values : Bindings) (s : Stat) : Bindings :=
  resolveNext stats level values s.name

theorem Values.foldl (h : Values stats values) (level : UInt32) (l : List Stat) :
    Values stats (l.foldl (resolve stats level) values) := by
  have names : l.foldl (resolve stats level) values =
      (l.map name).foldl (Stat.resolveNext stats level) values := by
    rw [List.foldl_map]
    rfl
  rw [names]
  exact h.foldl_resolveNext level _

section Step

variable (catalogue : Catalogue stats)

include catalogue

theorem resolve_eq (hs : s ∈ stats) (level : UInt32) (values : Bindings) :
    resolve stats level values s = settle level values s :=
  resolveNext_some (catalogue.toDistinct.find?_name hs)

theorem mem_resolve_of_ne (hs : s ∈ stats) (other : s.isDerived = true → s.name ≠ n) :
    (n, x) ∈ resolve stats level values s ↔ (n, x) ∈ values := by
  rw [resolve_eq catalogue hs]
  obtain ⟨f, y, formula, -, -, eq⟩ | ⟨-, eq⟩ := settle_cases level values s
  · have ne := other (by rw [isDerived, formula]; rfl)
    rw [eq, Bindings.mem_set]
    exact ⟨fun h => (h.resolve_left fun own => ne own.1.symm).2, fun h => .inr ⟨ne.symm, h⟩⟩
  · rw [eq]

theorem mem_resolve_self (hs : s ∈ stats) (formula : s.formula? = some f)
    (fresh : ∀ x, (s.name, x) ∉ values) :
    (s.name, x) ∈ resolve stats level values s ↔
      evaluate f (s.context level values) = .ok x ∧ x.isFinite = true := by
  rw [resolve_eq catalogue hs]
  obtain ⟨g, y, formula', value, finite, eq⟩ | ⟨none, eq⟩ := settle_cases level values s
  · cases formula.symm.trans formula'
    rw [eq, Bindings.mem_set, value]
    constructor
    · rintro (⟨-, own⟩ | ⟨ne, -⟩)
      · cases own
        exact ⟨rfl, finite⟩
      · exact absurd rfl ne
    · rintro ⟨⟨⟩, -⟩
      exact .inl ⟨rfl, rfl⟩
  · rw [eq]
    refine ⟨fun mem => absurd mem (fresh x), ?_⟩
    rintro ⟨value, finite⟩
    cases finite.symm.trans (none f x formula value)

theorem mem_foldl_of_ne (hl : l ⊆ stats) (other : ∀ s ∈ l, s.isDerived = true → s.name ≠ n) :
    (n, x) ∈ l.foldl (resolve stats level) values ↔ (n, x) ∈ values := by
  induction l generalizing values with
  | nil => exact .rfl
  | cons s l ih =>
    obtain ⟨hs, hl⟩ := List.cons_subset.1 hl
    obtain ⟨first, rest⟩ := List.forall_mem_cons.1 other
    rw [List.foldl_cons, ih hl rest, mem_resolve_of_ne catalogue hs first]

theorem values_baseValues (level : UInt32) : Values stats (baseValues stats level) where
  distinct := by
    rw [baseValues, List.map_map]
    exact catalogue.nodup_names.sublist (List.filter_sublist.map _)
  named p hp := by
    obtain ⟨s, hs, rfl⟩ := List.mem_map.1 hp
    exact ⟨s, (List.mem_filter.1 hs).1, rfl⟩
  finite p hp := by
    obtain ⟨s, -, rfl⟩ := List.mem_map.1 hp
    exact isFinite_baseAt s level

theorem mem_baseValues (hs : s ∈ stats) : (s.name, x) ∈ baseValues stats level ↔
    s.isDerived = false ∧ x = s.baseAt level := by
  rw [baseValues, List.mem_map]
  constructor
  · rintro ⟨t, ht, eq⟩
    obtain ⟨ht, base⟩ := List.mem_filter.1 ht
    obtain ⟨same, rfl⟩ := Prod.mk.inj eq
    rw [← catalogue.eq_of_name ht hs same]
    exact ⟨by simpa using base, rfl⟩
  · rintro ⟨base, rfl⟩
    exact ⟨s, List.mem_filter.2 ⟨hs, by rw [base]; rfl⟩, rfl⟩

theorem exists_resolveAll_eq (level : UInt32) : ∃ schedule, Schedule stats schedule ∧
    resolveAll stats level = schedule.foldl (resolve stats level) (baseValues stats level) := by
  have closed := DependencyGraph.closed stats
  have ofList : Bindings.ofList (baseValues stats level) = baseValues stats level :=
    Bindings.ofList_eq (values_baseValues catalogue level).distinct
  have fold : ∀ {nodes : List String} {schedule : List Stat},
      nodes.map (DependencyGraph.ofStats stats).spelling = schedule.map Stat.name →
      (nodes.map (DependencyGraph.ofStats stats).spelling).foldl (resolveNext stats level)
        (.ofList (baseValues stats level)) =
        schedule.foldl (resolve stats level) (baseValues stats level) := by
    intro nodes schedule names
    rw [names, List.foldl_map, ofList]
    rfl
  rw [resolveAll, DependencyGraph.resolutionOrder]
  cases ordered : (DependencyGraph.ofStats stats).graph.topologicalOrder with
  | ok nodes =>
    obtain ⟨schedule, scheduled, names⟩ :=
      catalogue.toDistinct.exists_schedule (Digraph.schedules_topologicalOrder closed ordered)
    exact ⟨schedule, scheduled, fold names⟩
  | error node =>
    obtain ⟨schedule, scheduled, names⟩ :=
      catalogue.toDistinct.exists_schedule (Digraph.schedules_acyclicOrder closed)
    exact ⟨schedule, scheduled, fold names⟩

theorem mem_foldl_before (listed : before ++ after ⊆ stats) (nodup : (before ++ after).Nodup)
    (ht : t ∈ before) :
    (t.name, x) ∈ before.foldl (resolve stats level) values ↔
      (t.name, x) ∈ (before ++ after).foldl (resolve stats level) values := by
  obtain ⟨early, late⟩ := List.append_subset.1 listed
  obtain ⟨-, -, apart⟩ := List.nodup_append.1 nodup
  rw [List.foldl_append, mem_foldl_of_ne catalogue late fun u hu _ eq => ?_]
  exact apart t ht u hu (catalogue.eq_of_name (early ht) (late hu) eq.symm)

theorem mem_foldl_self (listed : before ++ s :: after ⊆ stats)
    (nodup : (before ++ s :: after).Nodup) (formula : s.formula? = some f) :
    (s.name, x) ∈ (before ++ s :: after).foldl (resolve stats level) (baseValues stats level) ↔
      evaluate f (s.context level (before.foldl (resolve stats level) (baseValues stats level))) =
        .ok x ∧
        x.isFinite = true := by
  obtain ⟨early, late⟩ := List.append_subset.1 listed
  obtain ⟨hs, later⟩ := List.cons_subset.1 late
  obtain ⟨-, unique, apart⟩ := List.nodup_append.1 nodup
  -- neither a base stat nor an earlier step has given `s` a
  -- value, so its own step decides, and no later one changes it
  have fresh : ∀ y, (s.name, y) ∉ before.foldl (resolve stats level) (baseValues stats level) := by
    intro y mem
    have base := (mem_foldl_of_ne catalogue early fun t ht _ eq => ?_).1 mem
    · have derived := ((mem_baseValues catalogue hs).1 base).1
      rw [isDerived, formula] at derived
      cases derived
    · exact apart t ht s List.mem_cons_self (catalogue.eq_of_name (early ht) hs eq)
  rw [List.foldl_append, List.foldl_cons, mem_foldl_of_ne catalogue later fun t ht _ eq => ?_]
  · exact mem_resolve_self catalogue hs formula fresh
  · have same := catalogue.eq_of_name (later ht) hs eq
    exact (List.nodup_cons.1 unique).1 (same ▸ ht)

theorem solution_foldl (scheduled : Schedule stats schedule) (level : UInt32) :
    Solution stats level (schedule.foldl (resolve stats level) (baseValues stats level)) := by
  have listed : schedule ⊆ stats := fun s hs => ((scheduled.mem_iff s).1 hs).1
  have start := values_baseValues catalogue level
  have final := start.foldl level schedule
  refine ⟨final, fun s hs base => ?_, fun s hs derived blocked x mem => ?_,
    fun s hs f formula free x => ?_⟩
  · refine (mem_foldl_of_ne catalogue listed fun t ht derived eq => ?_).2
      ((mem_baseValues catalogue hs).2 ⟨base, rfl⟩)
    rw [catalogue.eq_of_name (listed ht) hs eq, base] at derived
    cases derived
  · have base := (mem_foldl_of_ne catalogue listed fun t ht _ eq => ?_).1 mem
    · rw [((mem_baseValues catalogue hs).1 base).1] at derived
      cases derived
    · rw [catalogue.eq_of_name (listed ht) hs eq] at ht
      exact ((scheduled.mem_iff s).1 ht).2 blocked
  · obtain ⟨before, after, rfl⟩ := List.append_of_mem ((scheduled.mem_iff s).2 ⟨hs, free⟩)
    have early := (List.append_subset.1 listed).1
    -- all that feeds `s` stands before it, so the final values make its formula worth what they
    -- were when it was resolved
    have settled : ∀ t, Feeds stats t s → ∀ y,
        ((t.name, y) ∈ before.foldl (resolve stats level) (baseValues stats level) ↔
          (t.name, y) ∈ (before ++ s :: after).foldl (resolve stats level)
          (baseValues stats level)) :=
      fun t feeds y => mem_foldl_before catalogue listed scheduled.nodup
        (scheduled.sourcesFirst before s after rfl t feeds)
    rw [mem_foldl_self catalogue listed scheduled.nodup formula,
      (start.foldl level _).evaluate_congr catalogue final hs formula settled]

theorem solution_resolveAll (level : UInt32) : Solution stats level (resolveAll stats level) := by
  obtain ⟨schedule, scheduled, eq⟩ := exists_resolveAll_eq catalogue level
  rw [eq]
  exact solution_foldl catalogue scheduled level

end Step

theorem Schedule.induction {p : Stat → Prop} (scheduled : Schedule stats schedule)
    (step : ∀ t ∈ schedule, (∀ s, Feeds stats s t → p s) → p t) : ∀ t ∈ schedule, p t := by
  have settled : ∀ before after, schedule = before ++ after → ∀ t ∈ before, p t := by
    intro before
    induction before using List.reverseRecOn with
    | nil => exact fun _ _ t ht => nomatch ht
    | append_singleton before t ih =>
      intro after split
      rw [List.append_assoc, List.singleton_append] at split
      have earlier := ih (t :: after) split
      refine List.forall_mem_append.2
        ⟨earlier, List.forall_mem_singleton.2 (step t ?_ fun s feeds => ?_)⟩
      · rw [split]
        exact List.mem_append_right _ List.mem_cons_self
      · exact earlier s (scheduled.sourcesFirst before t after split s feeds)
  exact settled schedule [] (List.append_nil schedule).symm

namespace Solution

/--
Solutions for two lists agree on stats that are in both, if what feeds such a stat is among them and
a cycle that leads to one is a cycle for both.
-/
theorem agree {stats' : List Stat} {p : Stat → Prop} (catalogue : Catalogue stats)
    (h : Solution stats level values)
    (h' : Solution stats' level values') (named : Values stats values')
    (mem : ∀ t ∈ stats, p t → t ∈ stats')
    (blocked : ∀ t ∈ stats, p t → (Blocked stats t ↔ Blocked stats' t))
    (back : ∀ s t, p t → Feeds stats s t → p s) :
    ∀ t ∈ stats, p t → ∀ x, (t.name, x) ∈ values ↔ (t.name, x) ∈ values' := by
  obtain ⟨schedule, scheduled, -⟩ := exists_resolveAll_eq catalogue level
  have base : ∀ t ∈ stats, p t → t.isDerived = false → ∀ x, (t.name, x) ∈ values ↔
      (t.name, x) ∈ values' := by
    intro t ht pt base x
    have own := h.base t ht base
    have own' := h'.base t (mem t ht pt) base
    constructor
    · intro bound
      rw [h.eq_of_mem bound own]
      exact own'
    · intro bound
      rw [h'.eq_of_mem bound own']
      exact own
  intro t ht pt
  by_cases stuck : Blocked stats t
  · cases derived : t.isDerived with
    | false => exact base t ht pt derived
    | true =>
      have stuck' := (blocked t ht pt).1 stuck
      exact fun x =>
        iff_of_false (h.blocked t ht derived stuck x) (h'.blocked t (mem t ht pt) derived stuck' x)
  · refine scheduled.induction (p := fun t => p t → ∀ x, (t.name, x) ∈ values ↔
      (t.name, x) ∈ values')
      (fun t ht feeds pt => ?_) t ((scheduled.mem_iff t).2 ⟨ht, stuck⟩) pt
    obtain ⟨ht, free⟩ := (scheduled.mem_iff t).1 ht
    cases formula : t.formula? with
    | none => exact base t ht pt (by rw [isDerived, formula]; rfl)
    | some f =>
      intro x
      have free' : ¬Blocked stats' t := fun stuck => free ((blocked t ht pt).2 stuck)
      rw [h.derived t ht f formula free, h'.derived t (mem t ht pt) f formula free',
        h.toValues.evaluate_congr catalogue named ht formula fun s hs =>
        feeds s hs (back s t pt hs)]

theorem mem_iff (catalogue : Catalogue stats) (h : Solution stats level values)
    (h' : Solution stats level values')
    (hs : s ∈ stats) : ∀ x, (s.name, x) ∈ values ↔ (s.name, x) ∈ values' :=
  h.agree (p := fun _ => True) catalogue h' h'.toValues (fun _ hs _ => hs) (fun _ _ _ => .rfl)
    (fun _ _ _ _ => trivial)
    s hs trivial

theorem unique (catalogue : Catalogue stats) (h : Solution stats level values)
    (h' : Solution stats level values') :
    values.Perm values' := by
  refine (List.perm_ext_iff_of_nodup h.nodup h'.nodup).2 fun p => ⟨fun hp => ?_, fun hp => ?_⟩
  · obtain ⟨s, hs, eq⟩ := h.named p hp
    have mem := h.mem_iff catalogue h' hs p.2
    rw [eq] at mem
    exact mem.1 hp
  · obtain ⟨s, hs, eq⟩ := h'.named p hp
    have mem := h.mem_iff catalogue h' hs p.2
    rw [eq] at mem
    exact mem.2 hp

theorem perm {stats' : List Stat} (perm : stats'.Perm stats) (h : Solution stats level values) :
    Solution stats' level values := by
  have feeds : Feeds stats' = Feeds stats := by
    funext s t
    simp only [feeds_iff, perm.mem_iff]
  have blocked : Blocked stats' = Blocked stats := by
    funext t
    rw [Blocked, Blocked, feeds]
  refine ⟨⟨h.distinct, fun p hp => ?_, h.finite⟩, fun s hs => ?_, fun s hs => ?_, fun s hs => ?_⟩
  · obtain ⟨s, hs, eq⟩ := h.named p hp
    exact ⟨s, perm.mem_iff.2 hs, eq⟩
  · exact h.base s (perm.mem_iff.1 hs)
  · rw [blocked]
    exact h.blocked s (perm.mem_iff.1 hs)
  · rw [blocked]
    exact h.derived s (perm.mem_iff.1 hs)

end Solution

theorem Catalogue.perm {stats' : List Stat} (perm : stats'.Perm stats) (h : Catalogue stats) :
    Catalogue stats' where
  names s hs := h.names s (perm.mem_iff.1 hs)
  noBuiltin s hs := h.noBuiltin s (perm.mem_iff.1 hs)
  noReserved s hs := h.noReserved s (perm.mem_iff.1 hs)
  distinct := by
    refine (perm.pairwise_iff fun {s t} other => Bool.eq_false_iff.2 fun same => ?_).2 h.distinct
    exact Bool.eq_false_iff.1 other (decide_eq_true (of_decide_eq_true same).symm)
  ascii s hs := h.ascii s (perm.mem_iff.1 hs)

end Stat

end GameBalance
