import GameBalance.Proofs.Stat.Values

namespace GameBalance

open Formula

namespace Stat

variable {stats : List Stat} {level : UInt32} {values : Bindings} {s : Stat}
    {f name : String} {x : Float}

def baseValues (stats : List Stat) (level : UInt32) : Bindings :=
  (stats.filter (!·.isDerived)).map fun s => (s.name, s.baseAt level)

def resolved (stats : List Stat) : List String :=
  match (DependencyGraph.ofStats stats).resolutionOrder with
  | .ok order => order
  | .error _ => (DependencyGraph.ofStats stats).acyclicOrder

theorem resolveAll_eq (stats : List Stat) (level : UInt32) :
    resolveAll stats level =
      (resolved stats).foldl (resolveNext stats level) (.ofList (baseValues stats level)) :=
  rfl

def settle (level : UInt32) (values : Bindings) (s : Stat) : Bindings :=
  match s.formula? with
  | none => values
  | some f => match evaluate f (s.context level values) with
    | .ok x => if x.isFinite then values.set s.name x else values
    | .error _ => values

theorem resolveNext_some (found : stats.find? (·.name = name) = some s) :
    resolveNext stats level values name = settle level values s := by
  rw [resolveNext, found]
  rfl

theorem resolveNext_none (found : stats.find? (·.name = name) = none) :
    resolveNext stats level values name = values := by
  rw [resolveNext, found]

theorem settle_cases (level : UInt32) (values : Bindings) (s : Stat) :
    (∃ f x, s.formula? = some f ∧ evaluate f (s.context level values) = .ok x ∧ x.isFinite = true ∧
      settle level values s = values.set s.name x) ∨
    (∀ f x, s.formula? = some f → evaluate f (s.context level values) = .ok x →
      x.isFinite = false) ∧
      settle level values s = values := by
  rw [settle]
  cases formula : s.formula? with
  | none => exact .inr ⟨fun f x eq => (nomatch eq), rfl⟩
  | some f =>
    dsimp only
    cases value : evaluate f (s.context level values) with
    | error e =>
      refine .inr ⟨?_, rfl⟩
      rintro _ x ⟨⟩ eq
      cases value.symm.trans eq
    | ok x =>
      cases finite : x.isFinite with
      | true => exact .inl ⟨f, x, rfl, value, finite, if_pos finite⟩
      | false =>
        refine .inr ⟨?_, if_neg (Bool.eq_false_iff.1 finite)⟩
        rintro _ y ⟨⟩ eq
        cases value.symm.trans eq
        exact finite

namespace Values

theorem settle (h : Values stats values) (hs : s ∈ stats) (level : UInt32) :
    Values stats (settle level values s) := by
  obtain ⟨f, x, -, -, finite, eq⟩ | ⟨-, eq⟩ := settle_cases level values s
  · rw [eq]
    exact h.set hs finite
  · rw [eq]
    exact h

theorem resolveNext (h : Values stats values) (level : UInt32) (name : String) :
    Values stats (resolveNext stats level values name) := by
  cases found : stats.find? (·.name = name) with
  | none => rwa [resolveNext_none found]
  | some s =>
    rw [resolveNext_some found]
    exact h.settle (List.mem_of_find?_eq_some found) level

theorem foldl_resolveNext (h : Values stats values) (level : UInt32) (names : List String) :
    Values stats (names.foldl (Stat.resolveNext stats level) values) := by
  induction names generalizing values with
  | nil => exact h
  | cons name names ih => exact ih (h.resolveNext level name)

theorem foldl_set {pairs : Bindings} (h : Values stats values)
    (fits : ∀ p ∈ pairs, (∃ s ∈ stats, s.name = p.1) ∧ p.2.isFinite = true) :
    Values stats (pairs.foldl (fun b (name, value) => b.set name value) values) := by
  induction pairs generalizing values with
  | nil => exact h
  | cons p pairs ih =>
    obtain ⟨⟨⟨s, hs, eq⟩, finite⟩, rest⟩ := List.forall_mem_cons.1 fits
    have next : Values stats (values.set p.1 p.2) := by
      rw [← eq]
      exact h.set hs finite
    exact ih next rest

theorem nil (stats : List Stat) : Values stats [] :=
  ⟨List.nodup_nil, fun _ hp => absurd hp List.not_mem_nil, fun _ hp => absurd hp List.not_mem_nil⟩

theorem ofList_baseValues (stats : List Stat) (level : UInt32) :
    Values stats (.ofList (baseValues stats level)) := by
  refine (nil stats).foldl_set fun p hp => ?_
  obtain ⟨s, hs, rfl⟩ := List.mem_map.1 hp
  exact ⟨⟨s, (List.mem_filter.1 hs).1, rfl⟩, isFinite_baseAt s level⟩

theorem resolveAll (stats : List Stat) (level : UInt32) :
    Values stats (resolveAll stats level) := by
  rw [resolveAll_eq]
  exact (ofList_baseValues stats level).foldl_resolveNext level _

end Values

end Stat

end GameBalance
