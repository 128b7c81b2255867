import GameBalance.Proofs.Stat.Queries
import GameBalance.Proofs.Stat.Resolution

namespace GameBalance

open Formula Text Relation

namespace Stat

section Back

variable {α : Type} {r r' : α → α → Prop} {p : α → Prop} {a b : α} (back : ∀ a b, p b → r a b → p a)
  (agree : ∀ a b, p b → (r a b ↔ r' a b))

include back

theorem back_reflTransGen (path : ReflTransGen r a b) : p b → p a := by
  induction path with
  | refl => exact id
  | tail _ edge ih => exact fun hb => ih (back _ _ hb edge)

include agree

theorem reflTransGen_of_agree (path : ReflTransGen r a b) : p b → ReflTransGen r' a b := by
  induction path with
  | refl => exact fun _ => .refl
  | tail _ edge ih => exact fun hb => (ih (back _ _ hb edge)).tail ((agree _ _ hb).1 edge)

theorem transGen_of_agree (path : TransGen r a b) (hb : p b) : TransGen r' a b := by
  obtain ⟨c, path, edge⟩ := TransGen.tail'_iff.1 path
  exact .tail' (reflTransGen_of_agree back agree path (back c b hb edge)) ((agree c b hb).1 edge)

end Back

variable {stats stats' : List Stat} {level : UInt32} {values values' : Bindings}
    {s s' t u : Stat} {x : Float}

/-- Neither the stat itself nor one that depends on it. -/
def Untouched (stats : List Stat) (s t : Stat) : Prop :=
  t.name ≠ s.name ∧ ¬ReflTransGen (Feeds stats) s t

section Change

variable (hs : s ∈ stats) (others : ∀ t : Stat, t.name ≠ s.name → (t ∈ stats ↔ t ∈ stats'))

include hs others in
theorem Values.of_others (h : Values stats' values) : Values stats values where
  distinct := h.distinct
  named p hp := by
    obtain ⟨t, ht, eq⟩ := h.named p hp
    by_cases same : t.name = s.name
    · exact ⟨s, hs, same.symm.trans eq⟩
    · exact ⟨t, (others t same).2 ht, eq⟩
  finite := h.finite

namespace Untouched

variable (catalogue : Catalogue stats) (h : Untouched stats s t)

include hs catalogue h

theorem back (feeds : Feeds stats u t) : Untouched stats s u := by
  refine ⟨fun eq => h.2 ?_, fun path => h.2 (path.tail feeds)⟩
  rw [← catalogue.eq_of_name feeds.1 hs eq]
  exact .single feeds

include others

theorem feeds_iff : Feeds stats u t ↔ Feeds stats' u t := by
  rw [Stat.feeds_iff, Stat.feeds_iff, ← others t h.1]
  constructor
  · intro feeds
    have back := h.back hs catalogue (Stat.feeds_iff.2 feeds)
    exact ⟨(others u back.1).1 feeds.1, feeds.2⟩
  · rintro ⟨hu, ht, f, formula, n, hn, same⟩
    refine ⟨(others u fun eq => h.2 (.single ?_)).2 hu, ht, f, formula, n, hn, same⟩
    exact Stat.feeds_iff.2 ⟨hs, ht, f, formula, n, hn, eq ▸ same⟩

theorem blocked_iff : Blocked stats t ↔ Blocked stats' t := by
  have back : ∀ u t, Untouched stats s t → Feeds stats u t → Untouched stats s u :=
    fun _ _ h => h.back hs catalogue
  have agree : ∀ u t, Untouched stats s t → (Feeds stats u t ↔ Feeds stats' u t) := fun _ _ h =>
    h.feeds_iff hs others catalogue
  have back' : ∀ u t, Untouched stats s t → Feeds stats' u t → Untouched stats s u :=
    fun u t h feeds =>
    back u t h ((agree u t h).2 feeds)
  have agree' : ∀ u t, Untouched stats s t → (Feeds stats' u t ↔ Feeds stats u t) :=
    fun u t h => (agree u t h).symm
  constructor
  · rintro ⟨k, cycle, path⟩
    exact ⟨k, transGen_of_agree back agree cycle (back_reflTransGen back path h),
      reflTransGen_of_agree back agree path h⟩
  · rintro ⟨k, cycle, path⟩
    exact ⟨k, transGen_of_agree back' agree' cycle (back_reflTransGen back' path h),
      reflTransGen_of_agree back' agree' path h⟩

end Untouched

end Change

/--
A stat that does not depend on another keeps its value, or
goes on having none, however that other stat is defined anew.
-/
theorem lookup_resolveAll_of_not_mem_dependentsOf (before after : List Stat) (s s' t : Stat)
    (level : UInt32) (name : s'.name = s.name) (catalogue : Catalogue (before ++ s :: after))
    (catalogue' : Catalogue (before ++ s' :: after)) (ht : t ∈ before ++ after)
    (free : t.name ∉ (DependencyGraph.ofStats (before ++ s :: after)).dependentsOf s.name) :
    (resolveAll (before ++ s :: after) level).lookup t.name =
      (resolveAll (before ++ s' :: after) level).lookup t.name := by
  have hs : s ∈ before ++ s :: after := List.mem_append_right _ List.mem_cons_self
  have others : ∀ t : Stat, t.name ≠ s.name →
      (t ∈ before ++ s :: after ↔ t ∈ before ++ s' :: after) := by
    intro t ne
    have other : t ≠ s := fun eq => ne (congrArg Stat.name eq)
    have other' : t ≠ s' := fun eq => ne ((congrArg Stat.name eq).trans name)
    simp [other, other']
  have listed : t ∈ before ++ s :: after :=
    ((List.sublist_cons_self s after).append_left before).subset ht
  have ne : t ≠ s := by
    rintro rfl
    have nodup := List.Nodup.of_map Stat.name catalogue.nodup_names
    exact (List.nodup_middle.1 nodup).notMem ht
  have untouched : Untouched (before ++ s :: after) s t :=
    ⟨fun eq => ne (catalogue.eq_of_name listed hs eq),
      fun path => free ((catalogue.mem_dependentsOf hs listed).2 ⟨ne, path⟩)⟩
  have solution := solution_resolveAll catalogue level
  have solution' := solution_resolveAll catalogue' level
  refine Option.ext fun x => ?_
  rw [solution.toValues.lookup_eq_some_iff, solution'.toValues.lookup_eq_some_iff]
  exact solution.agree catalogue solution' (solution'.toValues.of_others hs others)
    (fun t ht h => (others t h.1).1 ht)
    (fun t _ h => h.blocked_iff hs others catalogue) (fun u t h => h.back hs catalogue) t
    listed untouched x

theorem lookup_resolveAll_new_cycle :
    "HP" ∉ (DependencyGraph.ofStats ([base "VIT" 8 3] ++ derived "A" "VIT + 1" ::
        [derived "B" "A * 2", derived "HP" "VIT * 12"])).dependentsOf "A" ∧
      (resolveAll ([base "VIT" 8 3] ++
        derived "A" "VIT + 1" :: [derived "B" "A * 2", derived "HP" "VIT * 12"]) 5).lookup
          "HP" =
        (resolveAll ([base "VIT" 8 3] ++
          derived "A" "B" :: [derived "B" "A * 2", derived "HP" "VIT * 12"]) 5).lookup
          "HP" := by
  have free : "HP" ∉ (DependencyGraph.ofStats ([base "VIT" 8 3] ++ derived "A" "VIT + 1" ::
      [derived "B" "A * 2", derived "HP" "VIT * 12"])).dependentsOf "A" := by
    decide +kernel
  refine ⟨free, lookup_resolveAll_of_not_mem_dependentsOf [base "VIT" 8 3]
    [derived "B" "A * 2", derived "HP" "VIT * 12"]
    (derived "A" "VIT + 1") (derived "A" "B") (derived "HP" "VIT * 12") 5 rfl ?_ ?_ (by simp) free⟩
  · exact .of_all (by decide) (by decide) (by decide) (by decide) (by decide)
  · exact .of_all (by decide) (by decide) (by decide) (by decide) (by decide)

end Stat

end GameBalance
